import TemplateLint.Proofs.Scan.Utf8File
import TemplateLint.Proofs.Scan.Violation

/-!
# Scanning one text after another

The result of scanning some lines and then some more is put together from the results of both: the
counts add up, and the violations of the second part move down by the lines of the first
(`ScanResult.followedBy`). Files behave like their lines where the first of them ends with a line
feed, although its bytes shift every chunk in which the second is read.
-/

namespace TemplateLint

/-- A violation some lines further down. -/
def Violation.moveDown (n : Int) (v : Violation) : Violation := { v with line := v.line + n }

/-- The result of scanning what one result is about and behind it what another is about. -/
def ScanResult.followedBy (r s : ScanResult) : ScanResult where
  lines := r.lines + s.lines
  violations := r.violations ++ s.violations.map (Violation.moveDown r.lines)

/-! ### Lines -/

/-- The number of a line is all that its place changes about its violations. -/
theorem scanLine_add (number n : Int) (line : Text) :
    scanLine (number + n) line = (scanLine number line).map (Violation.moveDown n) := by
  simp only [scanLine, List.map_map]
  rfl

/-- Lines further down have the same violations further down. -/
theorem scanFrom_add (number n : Int) (lines : List Text) :
    scanFrom (number + n) lines = (scanFrom number lines).map (Violation.moveDown n) := by
  induction lines generalizing number with
  | nil => rfl
  | cons line rest ih =>
    rw [scanFrom, scanFrom, List.map_append, ← scanLine_add, ← ih, Int.add_right_comm]

/-- The violations of more lines come behind those of the first ones. -/
theorem scanFrom_append (number : Int) (a b : List Text) :
    scanFrom number (a ++ b) = scanFrom number a ++ scanFrom (number + a.length) b := by
  induction a generalizing number with
  | nil => simp [scanFrom]
  | cons line rest ih =>
    have hnumber : number + 1 + (rest.length : Int) = number + ((line :: rest).length : Int) := by
      rw [List.length_cons]
      omega
    rw [List.cons_append, scanFrom, scanFrom, ih, hnumber, List.append_assoc]

/-- A scan of lines goes through them part by part. -/
theorem scanLines_append (a b : List Text) :
    scanLines (a ++ b) = (scanLines a).followedBy (scanLines b) := by
  have hlines : ((a ++ b).length : Int) = a.length + b.length := by
    rw [List.length_append, Int.natCast_add]
  simp only [scanLines, ScanResult.followedBy, hlines, scanFrom_append, scanFrom_add]

/-! ### One line among others -/

/-- The violations of lines are those above a line, those of the line, and those below it. -/
theorem violations_scanLines_split (a : List Text) (line : Text) (b : List Text) :
    (scanLines (a ++ line :: b)).violations =
      scanFrom 1 a ++ scanLine (a.length + 1) line ++ scanFrom (a.length + 2) b := by
  simp only [scanLines, scanFrom_append, scanFrom, List.append_assoc]
  rw [Int.add_comm 1, Int.add_assoc]
  rfl

private theorem line_lt_of_mem_scanFrom {number : Int} {lines : List Text} {v : Violation}
    (h : v ∈ scanFrom number lines) : v.line < number + lines.length := by
  obtain ⟨i, line, hline, hv⟩ := mem_scanFrom_iff.mp h
  obtain ⟨hlt, -⟩ := List.getElem?_eq_some_iff.mp hline
  rw [line_of_mem_scanLine hv]
  omega

/-- Under the number of a line there are the violations of the line, and under all other numbers
those of the lines above and below. -/
theorem filter_line (a : List Text) (line : Text) (b : List Text) :
    (scanLines (a ++ line :: b)).violations.filter (fun v => v.line = (a.length + 1 : Int)) =
      scanLine (a.length + 1) line ∧
    (scanLines (a ++ line :: b)).violations.filter (fun v => v.line ≠ (a.length + 1 : Int)) =
      scanFrom 1 a ++ scanFrom (a.length + 2) b := by
  have habove : ∀ v ∈ scanFrom 1 a, v.line ≠ (a.length + 1 : Int) := by
    intro v hv
    have hlt := line_lt_of_mem_scanFrom hv
    omega
  have hline : ∀ v ∈ scanLine (a.length + 1) line, v.line = (a.length + 1 : Int) :=
    fun v hv => line_of_mem_scanLine hv
  have hbelow : ∀ v ∈ scanFrom (a.length + 2) b, v.line ≠ (a.length + 1 : Int) := by
    intro v hv
    have hle := le_line_of_mem_scanFrom hv
    omega
  rw [violations_scanLines_split]
  simp only [List.filter_append]
  constructor
  · rw [List.filter_eq_nil_iff.mpr (by simpa using habove),
      List.filter_eq_self.mpr (by simpa using hline),
      List.filter_eq_nil_iff.mpr (by simpa using hbelow), List.nil_append, List.append_nil]
  · rw [List.filter_eq_self.mpr (by simpa using habove),
      List.filter_eq_nil_iff.mpr (by simpa using hline),
      List.filter_eq_self.mpr (by simpa using hbelow), List.append_nil]

/-! ### Files -/

namespace Encoding.Utf8

private theorem eq_lineFeed_of_getLast? {c : Char} (h : (encodeChar c).getLast? = some 0x0A) :
    c = '\n' := by
  have hbyte : (0x0A : UInt8).toNat = 10 := rfl
  -- the last of several bytes is above those of ASCII
  have hsmall : c.toNat < 0x80 := by
    apply Nat.lt_of_not_le
    intro hle
    have hlast : (encodeChar c).getLast? = some (0x80 + c.toNat / 1 % 0x40).toUInt8 := by
      rw [encodeChar, if_neg (Nat.not_lt.mpr hle)]
      split
      · rfl
      · split
        · rfl
        · rfl
    rw [hlast, Option.some.injEq, toUInt8_eq_iff, hbyte] at h
    omega
  rw [encodeChar, if_pos hsmall, List.getLast?_singleton, Option.some.injEq, toUInt8_eq_iff,
    hbyte] at h
  have hcode : c.toNat = 10 := by omega
  rw [← Char.ofNat_toNat c, hcode]

/-- A text whose bytes end with that of a line feed ends with a line feed. -/
theorem eq_nil_or_getLast?_eq_lineFeed {text : Text}
    (h : text.flatMap encodeChar = [] ∨ (text.flatMap encodeChar).getLast? = some 0x0A) :
    text = [] ∨ text.getLast? = some '\n' := by
  rcases List.eq_nil_or_concat text with rfl | ⟨front, c, rfl⟩
  · exact .inl rfl
  · right
    obtain ⟨b, bs, hbytes, -⟩ := exists_encodeChar_eq c
    have hne : encodeChar c ≠ [] := by
      rw [hbytes]
      exact List.cons_ne_nil b bs
    rw [List.concat_eq_append, List.flatMap_append, List.flatMap_singleton] at h
    rcases h with hnil | hlast
    · exact absurd (List.append_eq_nil_iff.mp hnil).2 hne
    · rw [List.getLast?_append_of_ne_nil _ hne] at hlast
      rw [List.concat_eq_append, List.getLast?_concat, eq_lineFeed_of_getLast? hlast]

end Encoding.Utf8

open Encoding.Utf8 (WellFormed encodeChar wellFormed_iff_exists_encode)

/-- Lines are scanned part by part: the counts of two parts add up, and the violations of the second
come behind those of the first, further down by the lines of the first and otherwise as they are.
Putting another line in the place of one changes what is found under its number, and nothing else.
Two files of UTF-8, of which the first is empty or ends with a line feed, are scanned in one as
their lines are. -/
theorem scan_of_concatenation :
    (∀ a b : List Text,
      (scanLines a).lines = a.length ∧
      scanLines (a ++ b) = (scanLines a).followedBy (scanLines b)) ∧
    (∀ (a b : List Text) (line other : Text),
      let number : Int := a.length + 1
      let old := scanLines (a ++ line :: b)
      let new := scanLines (a ++ other :: b)
      new.lines = old.lines ∧
      new.violations.filter (fun v => v.line = number) = scanLine number other ∧
      new.violations.filter (fun v => v.line ≠ number) =
        old.violations.filter (fun v => v.line ≠ number)) ∧
    (∀ settings : Settings, settings.encoding = .text (.plain .utf8) →
      ∀ a b : List UInt8, WellFormed a → WellFormed b → a = [] ∨ a.getLast? = some 0x0A →
      ∀ (fsA fsB fsAB : FileSystem) (pathA pathB pathAB : Path),
      fsA pathA = .present (.regular a) true → fsB pathB = .present (.regular b) true →
      fsAB pathAB = .present (.regular (a ++ b)) true →
      ∃ r s, scanFile fsA settings pathA = .ok r ∧ scanFile fsB settings pathB = .ok s ∧
        scanFile fsAB settings pathAB = .ok (r.followedBy s)) := by
  refine ⟨?_, ?_, ?_⟩
  · intro a b
    exact ⟨rfl, scanLines_append a b⟩
  · intro a b line other number old new
    have hlines : (a ++ other :: b).length = (a ++ line :: b).length := by
      rw [List.length_append, List.length_append, List.length_cons, List.length_cons]
    obtain ⟨hnew, hnew'⟩ := filter_line a other b
    obtain ⟨-, hold⟩ := filter_line a line b
    exact ⟨congrArg Nat.cast hlines, hnew, hnew'.trans hold.symm⟩
  · intro settings hsettings a b ha hb hend fsA fsB fsAB pathA pathB pathAB hA hB hAB
    obtain ⟨s, rfl⟩ := wellFormed_iff_exists_encode.mp ha
    obtain ⟨t, rfl⟩ := wellFormed_iff_exists_encode.mp hb
    rw [← List.flatMap_append] at hAB
    have hcut := Encoding.Utf8.eq_nil_or_getLast?_eq_lineFeed hend
    refine ⟨scanLines s.lines, scanLines t.lines, scanFile_encode_utf8 hsettings hA,
      scanFile_encode_utf8 hsettings hB, ?_⟩
    rw [scanFile_encode_utf8 hsettings hAB, Text.lines_append hcut, scanLines_append]

/-- A character that stands whole in a chunk of its own file is cut in two behind 8191 bytes. -/
theorem scan_of_concatenation_across_chunks :
    let a : List UInt8 := List.replicate 8190 0x61 ++ [0x0A]
    let b : List UInt8 := [0xC3, 0xA9, 0x5B, 0x27, 0x61, 0x42, 0x27, 0x5D]
    WellFormed a ∧ WellFormed b ∧ a.getLast? = some 0x0A ∧
    ∃ r s,
      scanFile (fun _ => .present (.regular a) true) {} (Path.ofText "a.erb".toList) = .ok r ∧
      scanFile (fun _ => .present (.regular b) true) {} (Path.ofText "b.erb".toList) = .ok s ∧
      scanFile (fun _ => .present (.regular (a ++ b)) true) {} (Path.ofText "ab.erb".toList) =
        .ok (r.followedBy s) := by
  intro a b
  have ha : WellFormed a := by
    apply wellFormed_iff_exists_encode.mpr
    refine ⟨List.replicate 8190 'a' ++ ['\n'], ?_⟩
    have hletter : encodeChar 'a' = [0x61] := by decide
    have hfeed : encodeChar '\n' = [0x0A] := by decide
    rw [List.flatMap_append, List.flatMap_replicate, hletter, List.flatten_replicate_singleton,
      List.flatMap_singleton, hfeed]
  have hb : WellFormed b := wellFormed_iff_exists_encode.mpr ⟨"é['aB']".toList, by decide⟩
  have hlast : a.getLast? = some 0x0A := List.getLast?_concat
  exact ⟨ha, hb, hlast, scan_of_concatenation.2.2 {} rfl a b ha hb (.inr hlast) _ _ _ _ _ _
    rfl rfl rfl⟩

end TemplateLint
