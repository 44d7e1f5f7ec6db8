import TemplateLint.Key.Candidate
import TemplateLint.Key.Casing
import TemplateLint.Text.Blank

/-!
# Scanning lines

A violation is a camelCase key that a line names. Scanning lines numbers them from one, counts
them, and lists the violations of each in order.
-/

namespace TemplateLint

/-- A camelCase key found in a line. -/
structure Violation where
  /-- the number of the line -/
  line : Int
  /-- the key as the line spells it -/
  key : Text
  /-- the spelling to use instead -/
  suggestion : Text
  /-- the line without the blanks around it -/
  context : Text
deriving Repr, DecidableEq

/-- What a scan found. -/
structure ScanResult where
  /-- how many lines were read -/
  lines : Int := 0
  violations : List Violation := []
deriving Repr, DecidableEq

namespace ScanResult

/-- How many violations were found. -/
def count (r : ScanResult) : Nat := r.violations.length

/-- Whether any violation was found. -/
def hasViolations (r : ScanResult) : Bool := !r.violations.isEmpty

/-- The exit status of a completed scan: one if there is a violation, zero if there is none. -/
def exitCode (r : ScanResult) : Nat := if r.hasViolations then 1 else 0

end ScanResult

/-- The violations of a line with a given number. -/
def scanLine (number : Int) (line : Text) : List Violation :=
  let context := line.strip
  ((Key.candidates line).filter Key.isCamelCase).map fun key =>
    ⟨number, key, Key.suggestion key, context⟩

/-- What the violations of a line say about keys is said about its camelCase keys, in order. -/
theorem map_scanLine {α : Type} (f : Text → Text → α) (number : Int) (line : Text) :
    (scanLine number line).map (fun v => f v.key v.suggestion) =
      ((Key.candidates line).filter Key.isCamelCase).map fun key => f key (Key.suggestion key) := by
  rw [scanLine, List.map_map]
  rfl

/-- The violations of consecutive lines, the first having a given number. -/
def scanFrom : Int → List Text → List Violation
  | _, [] => []
  | number, line :: rest => scanLine number line ++ scanFrom (number + 1) rest

/-- The result of scanning lines from top to bottom. -/
def scanLines (lines : List Text) : ScanResult := ⟨lines.length, scanFrom 1 lines⟩

end TemplateLint
