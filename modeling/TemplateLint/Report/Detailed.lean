import TemplateLint.Scan.Line
import TemplateLint.Settings.Basic
import TemplateLint.Style.Sheet
import TemplateLint.Text.Numeral

/-!
# The detailed report

A clean result is reported in one line with the number of lines scanned. A result with violations
gives five lines to each of them, among these its context cut to the width of the settings, and
ends with the tips. A report with an integer that is too long is not made.
-/

namespace TemplateLint.Report

/-- The characters of a context that a width leaves; a negative width counts from the end. -/
def cut (width : Int) (context : Text) : Text :=
  if 0 ≤ width then context.take width.toNat
  else context.take (context.length - width.natAbs)

/-- A context that is longer than the width is cut and marked with three points. -/
def truncateContext (width : Int) (context : Text) : Text :=
  if (context.length : Int) ≤ width then context else cut width context ++ "...".toList

/-- A key between single quotes. -/
def quoteKey (key : Text) : Text := '\'' :: key ++ ['\'']

/-- The report of a result without violations. -/
def clean (lines : Int) (file : Text) : Document :=
  [[.success ("[OK] All keys in ".toList ++ file ++ " are properly snake_cased!".toList)],
   [],
   [.literal "Total lines scanned: ", .bare (Text.ofInt lines)]]

/-- The lines about one violation. -/
def violation (width : Int) (v : Violation) : Document :=
  [[.literal "  ", .error ("Line ".toList ++ Text.ofInt v.line ++ ":".toList)],
   [.literal "    camelCase: ", .error (quoteKey v.key)],
   [.literal "    should be: ", .success (quoteKey v.suggestion)],
   [.literal "    Context:   ", .bare (truncateContext width v.context)],
   []]

/-- The line of a tip. -/
def tip (s : Text) : List Fragment := [.warning "Tip:".toList, .bare (' ' :: s)]

/-- The report of a result with violations. -/
def violations (settings : Settings) (r : ScanResult) (file : Text) : Document :=
  [[.error ("[FAIL] Found ".toList ++ Text.ofNat r.count ++ " camelCase violation(s) in ".toList ++
      file ++ ":".toList)],
   []] ++
    r.violations.flatMap (violation settings.contextWidth) ++ settings.tips.map tip ++ [[]]

/-- The detailed report of a result about a file. -/
def detailed (settings : Settings) (r : ScanResult) (file : Text) : Document :=
  if r.hasViolations then violations settings r file else clean r.lines file

/-- The integers in the detailed report of a result. -/
def shownIntegers (r : ScanResult) : List Int :=
  if r.hasViolations then (r.count : Int) :: r.violations.map Violation.line else [r.lines]

/-- The detailed report of a result about a file, if its integers can be written. -/
def inDetail (settings : Settings) (r : ScanResult) (file : Text) : Except Text Document :=
  Text.withNumerals (shownIntegers r) (detailed settings r file)

end TemplateLint.Report
