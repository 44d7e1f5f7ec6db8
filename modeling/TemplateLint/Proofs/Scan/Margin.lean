import TemplateLint.Proofs.Key.Written
import TemplateLint.Proofs.Scan.Concatenation
import TemplateLint.Proofs.Scan.LineEnd

/-!
# Blanks around a line

Neither the name of a call nor the opening of a subscript starts with a blank, and neither a call
nor a subscript ends with one. So the keys of a line are the same with blanks in front of it and
behind it, and so are its violations, whose context is stripped anyway. A line and the context of
one of its violations differ by such blanks only, and the context can be scanned in place of the
line.
-/

namespace TemplateLint

namespace Text

/-- Characters that are trimmed may be added at the front. -/
theorem trim_prepend {p : Char → Bool} {u : Text} (h : ∀ c ∈ u, p c = true) (s : Text) :
    (u ++ s).trim p = s.trim p := by
  unfold trim
  rw [List.dropWhile_append_of_pos h]

/-- A text is what trimming leaves of it between characters that are trimmed. -/
theorem exists_eq_append_trim (p : Char → Bool) (s : Text) :
    ∃ u w, s = u ++ s.trim p ++ w ∧ (∀ c ∈ u, p c = true) ∧ ∀ c ∈ w, p c = true := by
  have hback : s.dropWhile p = s.trim p ++ ((s.dropWhile p).reverse.takeWhile p).reverse := by
    rw [trim, ← List.reverse_append, List.takeWhile_append_dropWhile, List.reverse_reverse]
  refine ⟨s.takeWhile p, ((s.dropWhile p).reverse.takeWhile p).reverse, ?_, ?_, ?_⟩
  · rw [List.append_assoc, ← hback, List.takeWhile_append_dropWhile]
  · exact fun c hc => List.mem_takeWhile_imp hc
  · exact fun c hc => List.mem_takeWhile_imp (List.mem_reverse.mp hc)

end Text

namespace Key

/-- The keys of a line are the same with text in front of it that holds neither the first letter of
a call nor an opening bracket. -/
theorem candidates_prepend {u : Text} (h : 'f' ∉ u) (h' : '[' ∉ u) (line : Text) :
    candidates (u ++ line) = candidates line := by
  have hdig : digKeys (u ++ line) = digKeys line := by
    rw [digKeys_eq_bodies, digKeys_eq_bodies, Delimiter.bodies_append_of_not_mem rfl h]
  have hsubscript : subscriptKeys (u ++ line) = subscriptKeys line :=
    Delimiter.bodies_append_of_not_mem (d := subscript) rfl h' line
  rw [candidates, candidates, hdig, hsubscript]

end Key

section
variable {u w : Text} (hu : ∀ c ∈ u, Text.isBlank c = true) (hw : ∀ c ∈ w, Text.isBlank c = true)

include hu

/-- Blanks in front of a line have no effect on its violations. -/
theorem scanLine_blanks_append (number : Int) (line : Text) :
    scanLine number (u ++ line) = scanLine number line := by
  have hletter : 'f' ∉ u := fun hmem => absurd (hu _ hmem) (by decide)
  have hbracket : '[' ∉ u := fun hmem => absurd (hu _ hmem) (by decide)
  have hstrip : (u ++ line).strip = line.strip := Text.trim_prepend hu line
  unfold scanLine
  rw [Key.candidates_prepend hletter hbracket, hstrip]

include hw

/-- Blanks on both sides of a line have no effect on its violations. -/
theorem scanLine_between_blanks (number : Int) (line : Text) :
    scanLine number (u ++ line ++ w) = scanLine number line := by
  rw [scanLine_append_blanks hw, scanLine_blanks_append hu]

end

/-- A stripped line has the violations of the line. -/
theorem scanLine_strip (number : Int) (line : Text) :
    scanLine number line.strip = scanLine number line := by
  obtain ⟨u, w, hline, hu, hw⟩ := Text.exists_eq_append_trim Text.isBlank line
  calc scanLine number line.strip
      = scanLine number (u ++ line.strip ++ w) :=
        (scanLine_between_blanks hu hw number line.strip).symm
    _ = scanLine number line := by rw [Text.strip, ← hline]

/-- What a scan lists under the number of a violation are the violations of the line that it was
found in. -/
theorem exists_line_of_mem_violations {lines : List Text} {v : Violation}
    (h : v ∈ (scanLines lines).violations) :
    ∃ line, lines[(v.line - 1).toNat]? = some line ∧ v.context = line.strip ∧
      (scanLines lines).violations.filter (fun w => w.line = v.line) = scanLine v.line line := by
  obtain ⟨i, line, hline, hv⟩ := mem_scanFrom_iff.mp h
  have hnumber : v.line = i + 1 := by
    rw [line_of_mem_scanLine hv, Int.add_comm]
  obtain ⟨key, -, -, rfl⟩ := mem_scanLine_iff.mp hv
  refine ⟨line, ?_, rfl, ?_⟩
  · rw [hnumber, Int.add_sub_cancel]
    exact hline
  · -- The line splits the lines at its place, which is its number less one.
    obtain ⟨hlt, rfl⟩ := List.getElem?_eq_some_iff.mp hline
    have hsplit : lines.take i ++ lines[i] :: lines.drop (i + 1) = lines := by
      rw [← List.drop_eq_getElem_cons hlt, List.take_append_drop]
    have hfilter := (filter_line (lines.take i) lines[i] (lines.drop (i + 1))).1
    rw [hsplit, List.length_take, Nat.min_eq_left (Nat.le_of_lt hlt)] at hfilter
    rw [hnumber]
    exact hfilter

/-- Blanks on either side of a line have no effect on its violations, so a stripped line has the
violations of the line. In particular, scanning the context of a violation gives the violations of
the line that the violation was found in, which are those that the scan lists under its number. -/
theorem scanLine_blanks_around :
    (∀ (number : Int) (line u w : Text), (∀ c ∈ u, Text.isBlank c = true) →
      (∀ c ∈ w, Text.isBlank c = true) →
      scanLine number (u ++ line ++ w) = scanLine number line) ∧
    (∀ (number : Int) (line : Text), scanLine number line.strip = scanLine number line) ∧
    (∀ (lines : List Text), ∀ v ∈ (scanLines lines).violations,
      ∃ line, lines[(v.line - 1).toNat]? = some line ∧
        scanLine v.line v.context = scanLine v.line line ∧
        scanLine v.line v.context =
          (scanLines lines).violations.filter fun w => w.line = v.line) := by
  refine ⟨?_, scanLine_strip, ?_⟩
  · intro number line u w hu hw
    exact scanLine_between_blanks hu hw number line
  · intro lines v hv
    obtain ⟨line, hline, hcontext, hfilter⟩ := exists_line_of_mem_violations hv
    have hsame : scanLine v.line v.context = scanLine v.line line := by
      rw [hcontext, scanLine_strip]
    exact ⟨line, hline, hsame, hsame.trans hfilter.symm⟩

/-- A line whose last quote is never closed, between a wide blank, control characters and a line
end. -/
theorem scanLine_blanks_around_open_quote :
    Key.candidates "form.data.dig(' aB')['cD'] '".toList = [" aB".toList, "cD".toList] ∧
    (∀ c ∈ ['\u3000', '\x1f'], Text.isBlank c = true) ∧
    (∀ c ∈ ['\u0085', '\r', '\n'], Text.isBlank c = true) ∧
    scanLine 7 (['\u3000', '\x1f'] ++ "form.data.dig(' aB')['cD'] '".toList ++
        ['\u0085', '\r', '\n']) =
      scanLine 7 "form.data.dig(' aB')['cD'] '".toList := by
  have hkeys : Key.candidates "form.data.dig(' aB')['cD'] '".toList =
      [" aB".toList, "cD".toList] := by cbv
  have hu : ∀ c ∈ ['\u3000', '\x1f'], Text.isBlank c = true :=
    List.all_eq_true.mp (by decide)
  have hw : ∀ c ∈ ['\u0085', '\r', '\n'], Text.isBlank c = true :=
    List.all_eq_true.mp (by decide)
  exact ⟨hkeys, hu, hw, scanLine_blanks_around.1 7 _ _ _ hu hw⟩

end TemplateLint
