import TemplateLint.Proofs.Key.Appended
import TemplateLint.Proofs.Scan.Utf8File

/-!
# Line ends

A line keeps its line end, and the carriage return in front of a line feed belongs to the line like
any other character. It makes no difference all the same: no key reaches into the blanks at the end
of a line or needs them, and they are stripped from its context. So a file has the same violations
whether its lines end with a line feed or with a carriage return and a line feed.
-/

namespace TemplateLint

namespace Text

/-- Characters that are trimmed may be added at the end. -/
theorem trim_append {p : Char → Bool} {t : Text} (h : ∀ c ∈ t, p c = true) (s : Text) :
    (s ++ t).trim p = s.trim p := by
  unfold trim
  rw [List.dropWhile_append]
  split
  · next hempty =>
    rw [List.isEmpty_iff.mp hempty, List.dropWhile_eq_nil_iff.mpr h]
  · have hreverse : ∀ c ∈ t.reverse, p c = true := fun c hc => h c (List.mem_reverse.mp hc)
    rw [List.reverse_append, List.dropWhile_append_of_pos hreverse]

/-- A text with a carriage return put in front of every line feed. -/
def addReturns (s : Text) : Text := s.flatMap fun c => if c = '\n' then ['\r', '\n'] else [c]

/-- A line feed in front gets a carriage return. -/
theorem addReturns_lineFeed (s : Text) : addReturns ('\n' :: s) = '\r' :: '\n' :: addReturns s :=
  rfl

/-- Any other character in front stays as it is. -/
theorem addReturns_cons {c : Char} (h : c ≠ '\n') (s : Text) :
    addReturns (c :: s) = c :: addReturns s := by
  rw [addReturns, List.flatMap_cons, if_neg h]
  rfl

/-- Carriage returns in front of line feeds belong to the lines that these end. -/
theorem lines_addReturns (s : Text) : (addReturns s).lines = s.lines.map addReturns := by
  fun_induction lines s with
  | case1 => rfl
  | case2 s ih =>
    rw [addReturns_lineFeed, lines, if_neg (by decide), lines_cons_lineFeed, ih]
    rfl
  | case3 c s hc hs ih =>
    rw [hs, List.map_nil] at ih
    rw [addReturns_cons hc, lines, if_neg hc, ih, List.map_singleton, addReturns_cons hc]
    rfl
  | case4 c s hc line rest hs ih =>
    rw [hs, List.map_cons] at ih
    rw [addReturns_cons hc, lines, if_neg hc, ih, List.map_cons, addReturns_cons hc]

/-- A text without a line feed stays as it is. -/
theorem addReturns_of_not_mem {s : Text} (h : '\n' ∉ s) : addReturns s = s := by
  induction s with
  | nil => rfl
  | cons c s ih =>
    have hc : '\n' ≠ c := List.ne_of_not_mem_cons h
    rw [addReturns_cons (Ne.symm hc), ih (List.not_mem_of_not_mem_cons h)]

/-- Carriage returns are added part by part. -/
theorem addReturns_append (s t : Text) : addReturns (s ++ t) = addReturns s ++ addReturns t :=
  List.flatMap_append

/-- A line holds a line feed at its end or nowhere. -/
theorem exists_body_of_mem_lines {s line : Text} (h : line ∈ s.lines) :
    ∃ body, '\n' ∉ body ∧ (line = body ++ ['\n'] ∨ line = body) := by
  obtain ⟨closed, remainder, hclosed, hremainder, -, hlines⟩ := isCut_iff.mpr (Eq.refl s.lines)
  rw [hlines, List.mem_append, List.mem_map] at h
  rcases h with ⟨body, hbody, rfl⟩ | h
  · exact ⟨body, hclosed body hbody, .inl rfl⟩
  · refine ⟨remainder, hremainder, .inr ?_⟩
    split at h
    · cases h
    · exact List.mem_singleton.mp h

end Text

/-- Blanks at the end of a line have no effect on its violations. -/
theorem scanLine_append_blanks {t : Text} (h : ∀ c ∈ t, Text.isBlank c = true) (number : Int)
    (line : Text) : scanLine number (line ++ t) = scanLine number line := by
  have hparenthesis : ')' ∉ t := fun hmem => absurd (h _ hmem) (by decide)
  have hbracket : ']' ∉ t := fun hmem => absurd (h _ hmem) (by decide)
  have hstrip : (line ++ t).strip = line.strip := Text.trim_append h line
  unfold scanLine
  rw [Key.candidates_append hparenthesis hbracket, hstrip]

/-- A carriage return in front of its line feed has no effect on the violations of a line. -/
theorem scanLine_addReturns {s line : Text} (h : line ∈ s.lines) (number : Int) :
    scanLine number line.addReturns = scanLine number line := by
  obtain ⟨body, hbody, rfl | rfl⟩ := Text.exists_body_of_mem_lines h
  · -- With or without the carriage return, the line is its body with blanks behind it.
    have hend : Text.addReturns ['\n'] = ['\r', '\n'] := rfl
    have hblank : Text.isBlank '\r' = true ∧ Text.isBlank '\n' = true := by decide
    rw [Text.addReturns_append, Text.addReturns_of_not_mem hbody, hend,
      scanLine_append_blanks (by simp [hblank]), scanLine_append_blanks (by simp [hblank])]
  · rw [Text.addReturns_of_not_mem hbody]

/-- Lines that have the same violations each have the same violations together. -/
theorem scanFrom_map {f : Text → Text} {lines : List Text}
    (h : ∀ line ∈ lines, ∀ number, scanLine number (f line) = scanLine number line)
    (number : Int) : scanFrom number (lines.map f) = scanFrom number lines := by
  induction lines generalizing number with
  | nil => rfl
  | cons line rest ih =>
    rw [List.map_cons, scanFrom, scanFrom, h line List.mem_cons_self,
      ih fun other hother => h other (List.mem_cons_of_mem line hother)]

/-- Carriage returns in front of line feeds have no effect on the result of a scan. -/
theorem scanLines_addReturns (s : Text) : scanLines s.addReturns.lines = scanLines s.lines := by
  rw [Text.lines_addReturns, scanLines, scanLines, List.length_map,
    scanFrom_map fun line hline number => scanLine_addReturns hline number]

open Encoding.Utf8 (encodeChar)

/-- A file that holds a text in UTF-8, and one that holds it with a carriage return in front of
every line feed, are both scanned to their end, and both have the result of the lines of the
text. -/
theorem scanFile_lineEnd_independent (text : Text) (settings : Settings)
    (hsettings : settings.encoding = .text (.plain .utf8)) (fs fs' : FileSystem)
    (path path' : Path)
    (hfs : fs path = .present (.regular (text.flatMap encodeChar)) true)
    (hfs' : fs' path' = .present (.regular (text.addReturns.flatMap encodeChar)) true) :
    scanFile fs settings path = .ok (scanLines text.lines) ∧
    scanFile fs' settings path' = .ok (scanLines text.lines) := by
  constructor
  · exact scanFile_encode_utf8 hsettings hfs
  · rw [scanFile_encode_utf8 hsettings hfs', scanLines_addReturns]

/-- A call that is closed in the next line, a line that ends with a carriage return already, one in
the midst of a line, and a last line without an end. -/
theorem scanFile_lineEnd_independent_stray :
    let text : Text := "form.data.dig('aB',\n'cD')['eF']\r\n]\r['gH']".toList
    let fs : FileSystem := fun _ => .present (.regular (text.flatMap encodeChar)) true
    let fs' : FileSystem := fun _ => .present (.regular (text.addReturns.flatMap encodeChar)) true
    scanFile fs {} (Path.ofText "a.erb".toList) = .ok (scanLines text.lines) ∧
    scanFile fs' {} (Path.ofText "b.erb".toList) = .ok (scanLines text.lines) := by
  intro text fs fs'
  exact scanFile_lineEnd_independent text {} rfl fs fs' _ _ rfl rfl

end TemplateLint
