import TemplateLint.Proofs.Key.Suggestion
import TemplateLint.Proofs.Scan.Margin
import TemplateLint.Proofs.Style.Strip
import TemplateLint.Report.Detailed

/-!
# What the plain text of a detailed report says

The texts in a report may imitate its own lines, but they cannot add a line to it: a key, its
suggestion and its context hold no line feed, as long as the lines of the file hold one at their end
only. So the lines of a report are known from its plain text, five of them for each violation, and
what stands in a line is known from what is always the same around it. Two results have the same
report exactly if all that a report shows of them is the same (`render_detailed_eq_iff`).
-/

namespace TemplateLint

namespace Text

/-- Different natural numbers have different numerals. -/
theorem ofNat_injective : Function.Injective ofNat := by
  intro m n h
  rw [← Nat.ofDigitChars_toDigits (b := 10) (n := m) (by omega) (by omega),
    ← Nat.ofDigitChars_toDigits (b := 10) (n := n) (by omega) (by omega)]
  exact congrArg (fun digits => Nat.ofDigitChars 10 digits 0) h

private theorem not_mem_ofNat {c : Char} (hc : c.isDigit = false) (n : Nat) : c ∉ ofNat n := by
  intro hmem
  rw [Nat.isDigit_of_mem_toDigits (by omega) (by omega) hmem] at hc
  cases hc

/-- A numeral of an integer says which integer it is. -/
theorem ofInt_injective : Function.Injective ofInt := by
  -- A minus sign stands in front of the negative integers and in no numeral of a natural number.
  have hminus : ∀ m n, ofNat m ≠ '-' :: ofNat n := by
    intro m n h
    exact not_mem_ofNat (c := '-') rfl m (h ▸ List.mem_cons_self)
  intro m n h
  cases m with
  | ofNat m =>
    cases n with
    | ofNat n => rw [ofNat_injective h]
    | negSucc n => exact absurd h (hminus m (n + 1))
  | negSucc m =>
    cases n with
    | ofNat n => exact absurd h.symm (hminus n (m + 1))
    | negSucc n =>
      have hnat := ofNat_injective (List.cons.inj h).2
      rw [Nat.succ.inj hnat]

/-- A numeral has no line feed. -/
theorem lineFeed_not_mem_ofInt (n : Int) : '\n' ∉ ofInt n := by
  cases n with
  | ofNat n => exact not_mem_ofNat rfl n
  | negSucc n => exact List.not_mem_cons_of_ne_of_not_mem (by decide) (not_mem_ofNat rfl (n + 1))

/-- A line that holds a line feed at its end only holds none when it is stripped. -/
theorem lineFeed_not_mem_strip {line : Text} (h : '\n' ∉ line.dropLast) : '\n' ∉ line.strip := by
  intro hmem
  rcases List.eq_nil_or_concat line with rfl | ⟨body, c, rfl⟩
  · cases hmem
  · rw [List.concat_eq_append, List.dropLast_concat] at h
    rw [List.concat_eq_append] at hmem
    have hbody : ∀ s : Text, '\n' ∈ s.strip → '\n' ∈ s := by
      intro s hs
      obtain ⟨u, w, heq, -, -⟩ := exists_eq_append_trim isBlank s
      rw [heq]
      exact List.mem_append_left w (List.mem_append_right u hs)
    by_cases hc : c = '\n'
    · have hblank : ∀ d ∈ [c], isBlank d = true := by
        rw [hc]
        exact List.all_eq_true.mp (by decide)
      rw [strip, trim_append hblank] at hmem
      exact h (hbody body hmem)
    · rcases List.mem_append.mp (hbody _ hmem) with hin | hin
      · exact h hin
      · exact hc (List.mem_singleton.mp hin).symm

end Text

/-! ### Violations without line feeds -/

/-- A violation whose texts hold no line feed. -/
structure Violation.IsFlat (v : Violation) : Prop where
  key : '\n' ∉ v.key
  suggestion : '\n' ∉ v.suggestion
  context : '\n' ∉ v.context

/-- The violations of lines that hold a line feed at their end only hold none. -/
theorem isFlat_of_mem_violations {lines : List Text} (h : ∀ line ∈ lines, '\n' ∉ line.dropLast)
    {v : Violation} (hv : v ∈ (scanLines lines).violations) : v.IsFlat := by
  obtain ⟨i, line, hline, hv⟩ := mem_scanFrom_iff.mp hv
  obtain ⟨key, hkey, -, rfl⟩ := mem_scanLine_iff.mp hv
  obtain ⟨-, -, hinfix⟩ := Key.infix_strip_of_mem_candidates hkey
  have hcontext : '\n' ∉ line.strip :=
    Text.lineFeed_not_mem_strip (h line (List.mem_of_getElem? hline))
  have hkey : '\n' ∉ key := by
    intro hmem
    apply hcontext
    apply hinfix.subset
    simp [hmem]
  exact ⟨hkey, fun hmem => hkey (Key.mem_of_mem_suggestion hmem (by decide) (by decide)), hcontext⟩

/-! ### The lines of a document -/

namespace Document

/-- The lines of a document without its labels. -/
def plainLines (d : Document) : List Text := d.map fun line => line.flatMap Fragment.text

/-- Without styles, a document is its lines joined by line feeds. -/
theorem render_plain (d : Document) : d.render .plain = Text.unlines d.plainLines := by
  have htext : Fragment.render .plain = Fragment.text := funext Fragment.render_plain
  rw [render, plainLines, htext]

/-- The plain text of documents without line feeds says which lines they have. -/
theorem render_plain_eq_iff {d d' : Document} (h : ∀ line ∈ d.plainLines, '\n' ∉ line)
    (h' : ∀ line ∈ d'.plainLines, '\n' ∉ line) (hne : d.plainLines ≠ [])
    (hne' : d'.plainLines ≠ []) :
    d.render .plain = d'.render .plain ↔ d.plainLines = d'.plainLines := by
  rw [render_plain, render_plain]
  exact Text.unlines_inj h h' hne hne'

end Document

namespace Report

open Document (plainLines)

/-! ### The lines about one violation -/

private theorem mem_of_mem_cut {width : Int} {context : Text} {c : Char}
    (h : c ∈ cut width context) : c ∈ context := by
  unfold cut at h
  split at h
  · exact List.mem_of_mem_take h
  · exact List.mem_of_mem_take h

/-- A context without a line feed is cut to one without. -/
theorem lineFeed_not_mem_truncateContext {context : Text} (h : '\n' ∉ context) (width : Int) :
    '\n' ∉ truncateContext width context := by
  unfold truncateContext
  split
  · exact h
  · rw [List.mem_append, not_or]
    exact ⟨fun hmem => h (mem_of_mem_cut hmem), by decide⟩

private theorem truncateContext_ne {width : Int} {a b : Text} (ha : (a.length : Int) ≤ width)
    (hb : ¬ (b.length : Int) ≤ width) : truncateContext width a ≠ truncateContext width b := by
  intro h
  -- a context that is cut is shown longer than the width
  have hwidth : 0 ≤ width := by omega
  rw [truncateContext, if_pos ha, truncateContext, if_neg hb, cut, if_pos hwidth] at h
  have hlength := congrArg List.length h
  have hpoints : "...".toList.length = 3 := rfl
  rw [List.length_append, List.length_take_of_le (by omega), hpoints] at hlength
  omega

/-- Contexts that are shown alike are the same up to the width. -/
theorem take_eq_of_truncateContext_eq {width : Int} {a b : Text}
    (h : truncateContext width a = truncateContext width b) :
    a.take width.toNat = b.take width.toNat := by
  by_cases ha : (a.length : Int) ≤ width
  · by_cases hb : (b.length : Int) ≤ width
    · rw [truncateContext, if_pos ha, truncateContext, if_pos hb] at h
      rw [h]
    · exact absurd h (truncateContext_ne ha hb)
  · by_cases hb : (b.length : Int) ≤ width
    · exact absurd h.symm (truncateContext_ne hb ha)
    · rw [truncateContext, if_neg ha, truncateContext, if_neg hb, List.append_cancel_right_eq] at h
      by_cases hwidth : 0 ≤ width
      · rwa [cut, if_pos hwidth, cut, if_pos hwidth] at h
      · rw [Int.toNat_eq_zero.mpr (by omega), List.take_zero, List.take_zero]

/-- Violations of which a report shows the same: all but the contexts are the same, and these are
cut to the same text, so that they are the same up to the width. -/
structure ShownAlike (width : Int) (v w : Violation) : Prop where
  line_eq : v.line = w.line
  key_eq : v.key = w.key
  suggestion_eq : v.suggestion = w.suggestion
  context_eq : truncateContext width v.context = truncateContext width w.context
  take_eq : v.context.take width.toNat = w.context.take width.toNat

/-- The lines of the report about a violation. -/
theorem plainLines_violation (width : Int) (v : Violation) :
    plainLines (violation width v) =
      ["  Line ".toList ++ Text.ofInt v.line ++ [':'],
       "    camelCase: ".toList ++ quoteKey v.key,
       "    should be: ".toList ++ quoteKey v.suggestion,
       "    Context:   ".toList ++ truncateContext width v.context,
       []] := by
  simp [plainLines, violation, Fragment.literal, Fragment.error, Fragment.success, Fragment.bare]

/-- Different keys are quoted differently. -/
theorem quoteKey_injective : Function.Injective quoteKey := by
  intro a b h
  simpa [quoteKey] using h

/-- The lines about two violations are the same exactly if they are shown alike. -/
theorem plainLines_violation_eq_iff {width : Int} {v w : Violation} :
    plainLines (violation width v) = plainLines (violation width w) ↔ ShownAlike width v w := by
  simp only [plainLines_violation, List.cons.injEq, List.append_cancel_left_eq,
    List.append_cancel_right_eq, and_true]
  constructor
  · rintro ⟨hline, hkey, hsuggestion, hcontext⟩
    exact ⟨Text.ofInt_injective hline, quoteKey_injective hkey, quoteKey_injective hsuggestion,
      hcontext, take_eq_of_truncateContext_eq hcontext⟩
  · rintro ⟨hline, hkey, hsuggestion, hcontext, -⟩
    rw [hline, hkey, hsuggestion, hcontext]
    exact ⟨rfl, rfl, rfl, rfl⟩

/-- The lines about a flat violation have no line feed. -/
theorem lineFeed_not_mem_plainLines_violation {v : Violation} (h : v.IsFlat) (width : Int) :
    ∀ line ∈ plainLines (violation width v), '\n' ∉ line := by
  have hquote : ∀ key : Text, '\n' ∉ key → '\n' ∉ quoteKey key := by
    intro key hkey
    simp [quoteKey, hkey]
  simp only [plainLines_violation, List.forall_mem_cons, List.mem_append, not_or]
  refine ⟨⟨⟨by decide, Text.lineFeed_not_mem_ofInt v.line⟩, by decide⟩,
    ⟨by decide, hquote _ h.key⟩, ⟨by decide, hquote _ h.suggestion⟩,
    ⟨by decide, lineFeed_not_mem_truncateContext h.context width⟩, by simp⟩

/-! ### The lines of a report -/

/-- The lines of the report about a file without violations. -/
theorem plainLines_clean (lines : Int) (file : Text) :
    plainLines (clean lines file) =
      ["[OK] All keys in ".toList ++ file ++ " are properly snake_cased!".toList, [],
       "Total lines scanned: ".toList ++ Text.ofInt lines] := by
  simp [plainLines, clean, Fragment.literal, Fragment.success, Fragment.bare]

/-- The lines of the report about a file with violations. -/
theorem plainLines_violations (settings : Settings) (r : ScanResult) (file : Text) :
    plainLines (violations settings r file) =
      ("[FAIL] Found ".toList ++ Text.ofNat r.count ++ " camelCase violation(s) in ".toList ++
        file ++ [':']) :: [] ::
        (r.violations.flatMap (fun v => plainLines (violation settings.contextWidth v)) ++
          (settings.tips.map (fun tip => "Tip: ".toList ++ tip) ++ [[]])) := by
  simp [plainLines, violations, tip, Fragment.error, Fragment.warning, Fragment.bare,
    List.map_flatMap]

private theorem flatMap_eq_flatMap_iff {α β : Type} {f : α → List β} {n : Nat} (hn : 0 < n)
    (hlength : ∀ a, (f a).length = n) {as bs : List α} :
    as.flatMap f = bs.flatMap f ↔ List.Forall₂ (fun a b => f a = f b) as bs := by
  constructor
  · intro h
    induction as generalizing bs with
    | nil =>
      cases bs with
      | nil => exact .nil
      | cons b bs =>
        have := congrArg List.length h
        simp [hlength] at this
        omega
    | cons a as ih =>
      cases bs with
      | nil =>
        have := congrArg List.length h
        simp [hlength] at this
        omega
      | cons b bs =>
        rw [List.flatMap_cons, List.flatMap_cons] at h
        obtain ⟨hfirst, hrest⟩ := List.append_inj h ((hlength a).trans (hlength b).symm)
        exact .cons hfirst (ih hrest)
  · intro h
    induction h with
    | nil => rfl
    | cons hfirst _ ih => rw [List.flatMap_cons, List.flatMap_cons, hfirst, ih]

/-- The lines about a file without violations say which file it is and how many lines it has. -/
theorem plainLines_clean_eq_iff {lines lines' : Int} {file file' : Text} :
    plainLines (clean lines file) = plainLines (clean lines' file') ↔
      file = file' ∧ lines = lines' := by
  simp only [plainLines_clean, List.cons.injEq, List.append_cancel_left_eq,
    List.append_cancel_right_eq, and_true, true_and, Text.ofInt_injective.eq_iff]

/-- The lines about violations are the same exactly if the file is the same and the violations are
shown alike, one by one. -/
theorem plainLines_violations_eq_iff {settings : Settings} {r r' : ScanResult} {file file' : Text} :
    plainLines (violations settings r file) = plainLines (violations settings r' file') ↔
      file = file' ∧
        List.Forall₂ (ShownAlike settings.contextWidth) r.violations r'.violations := by
  have hblocks : ∀ v, (plainLines (violation settings.contextWidth v)).length = 5 := by
    intro v
    rw [plainLines_violation]
    rfl
  simp only [plainLines_violations, List.cons.injEq, List.append_cancel_right_eq, true_and,
    flatMap_eq_flatMap_iff (by omega) hblocks, plainLines_violation_eq_iff]
  -- The header also counts the violations, and as many are shown as are counted.
  constructor
  · rintro ⟨hheader, halike⟩
    rw [ScanResult.count, ScanResult.count, halike.length_eq] at hheader
    exact ⟨List.append_cancel_left hheader, halike⟩
  · rintro ⟨rfl, halike⟩
    rw [ScanResult.count, ScanResult.count, halike.length_eq]
    exact ⟨rfl, halike⟩

/-- The first lines of the two kinds of report start differently. -/
theorem plainLines_clean_ne_violations (lines : Int) (file : Text) (settings : Settings)
    (r : ScanResult) (file' : Text) :
    plainLines (clean lines file) ≠ plainLines (violations settings r file') := by
  rw [plainLines_clean, plainLines_violations]
  intro h
  simp at h

/-- The lines of a report have no line feed if the tips, the violations and the name of the file
have none. -/
theorem lineFeed_not_mem_plainLines_detailed {settings : Settings}
    (htips : ∀ tip ∈ settings.tips, '\n' ∉ tip) {r : ScanResult}
    (hr : ∀ v ∈ r.violations, v.IsFlat) {file : Text} (hfile : '\n' ∉ file) :
    ∀ line ∈ plainLines (detailed settings r file), '\n' ∉ line := by
  unfold detailed
  split
  · rw [plainLines_violations, List.forall_mem_cons, List.forall_mem_cons, List.forall_mem_append,
      List.forall_mem_append]
    simp only [List.mem_append, not_or]
    refine ⟨⟨⟨⟨⟨by decide, Text.lineFeed_not_mem_ofInt r.count⟩, by decide⟩, hfile⟩, by decide⟩,
      by simp, ?_, ?_, by simp⟩
    · intro line hline
      obtain ⟨v, hv, hline⟩ := List.mem_flatMap.mp hline
      exact lineFeed_not_mem_plainLines_violation (hr v hv) settings.contextWidth line hline
    · intro line hline
      obtain ⟨tip, htip, rfl⟩ := List.mem_map.mp hline
      rw [List.mem_append, not_or]
      exact ⟨by decide, htips tip htip⟩
  · simp only [plainLines_clean, List.forall_mem_cons, List.mem_append, not_or]
    exact ⟨⟨⟨by decide, hfile⟩, by decide⟩, by simp,
      ⟨by decide, Text.lineFeed_not_mem_ofInt r.lines⟩, by simp⟩

/-- A report has at least one line. -/
theorem plainLines_detailed_ne_nil (settings : Settings) (r : ScanResult) (file : Text) :
    plainLines (detailed settings r file) ≠ [] := by
  unfold detailed
  split
  · rw [plainLines_violations]
    exact List.cons_ne_nil _ _
  · rw [plainLines_clean]
    exact List.cons_ne_nil _ _

/-- Two results have the same report exactly if they are about the same file, their violations are
shown alike one by one, and, where there are none, as many lines were scanned. -/
theorem render_detailed_eq_iff {settings : Settings} (htips : ∀ tip ∈ settings.tips, '\n' ∉ tip)
    {r r' : ScanResult} (hr : ∀ v ∈ r.violations, v.IsFlat) (hr' : ∀ v ∈ r'.violations, v.IsFlat)
    {file file' : Text} (hfile : '\n' ∉ file) (hfile' : '\n' ∉ file') :
    (detailed settings r file).render .plain = (detailed settings r' file').render .plain ↔
      file = file' ∧ List.Forall₂ (ShownAlike settings.contextWidth) r.violations r'.violations ∧
        (r.violations = [] → r.lines = r'.lines) := by
  rw [Document.render_plain_eq_iff (lineFeed_not_mem_plainLines_detailed htips hr hfile)
    (lineFeed_not_mem_plainLines_detailed htips hr' hfile')
    (plainLines_detailed_ne_nil settings r file) (plainLines_detailed_ne_nil settings r' file')]
  obtain ⟨lines, vs⟩ := r
  obtain ⟨lines', vs'⟩ := r'
  cases vs with
  | nil =>
    cases vs' with
    | nil => simp [detailed, ScanResult.hasViolations, plainLines_clean_eq_iff]
    | cons v' vs' =>
      simp [detailed, ScanResult.hasViolations, plainLines_clean_ne_violations]
  | cons v vs =>
    cases vs' with
    | nil =>
      simp [detailed, ScanResult.hasViolations, (plainLines_clean_ne_violations _ _ _ _ _).symm]
    | cons v' vs' => simp [detailed, ScanResult.hasViolations, plainLines_violations_eq_iff]

/-- The report of a scan in plain text is unambiguous: whatever report lines the lines of a file
imitate, the report says which file it is about, whether there are violations, how many lines were
scanned if there are none, and otherwise each violation up to the part of its context that the width
leaves out. -/
theorem detailed_plain_unambiguous {settings : Settings}
    (htips : ∀ tip ∈ settings.tips, '\n' ∉ tip) {lines lines' : List Text}
    (hlines : ∀ line ∈ lines, '\n' ∉ line.dropLast)
    (hlines' : ∀ line ∈ lines', '\n' ∉ line.dropLast)
    {file file' : Text} (hfile : '\n' ∉ file) (hfile' : '\n' ∉ file')
    (heq : (detailed settings (scanLines lines) file).render .plain =
      (detailed settings (scanLines lines') file').render .plain) :
    file = file' ∧ (scanLines lines).hasViolations = (scanLines lines').hasViolations ∧
      ((scanLines lines).hasViolations = false →
        (scanLines lines).lines = (scanLines lines').lines) ∧
      ((scanLines lines).hasViolations = true →
        (scanLines lines).violations.length = (scanLines lines').violations.length ∧
        List.Forall₂ (ShownAlike settings.contextWidth) (scanLines lines).violations
          (scanLines lines').violations) := by
  obtain ⟨hfiles, halike, hclean⟩ :=
    (render_detailed_eq_iff htips (fun v => isFlat_of_mem_violations hlines)
      (fun v => isFlat_of_mem_violations hlines') hfile hfile').mp heq
  have hlength := halike.length_eq
  refine ⟨hfiles, ?_, ?_, fun _ => ⟨hlength, halike⟩⟩
  · rw [ScanResult.hasViolations, ScanResult.hasViolations, Bool.eq_iff_iff]
    simp only [Bool.not_eq_true', List.isEmpty_eq_false_iff, ← List.length_pos_iff, hlength]
  · intro hnone
    apply hclean
    simpa [ScanResult.hasViolations] using hnone

/-- Two lines that imitate a tip and differ behind the width have the same report. -/
theorem detailed_plain_unambiguous_cut_tip :
    (detailed { contextWidth := 10, tips := ["  Line 3:".toList] }
        (scanLines ["['aB'] Tip: x\n".toList]) "in a.erb:".toList).render .plain =
      (detailed { contextWidth := 10, tips := ["  Line 3:".toList] }
        (scanLines ["['aB'] Tip: y".toList]) "in a.erb:".toList).render .plain ∧
    (scanLines ["['aB'] Tip: x\n".toList]).hasViolations = true ∧
    List.Forall₂ (ShownAlike 10) (scanLines ["['aB'] Tip: x\n".toList]).violations
      (scanLines ["['aB'] Tip: y".toList]).violations := by
  have heq : (detailed { contextWidth := 10, tips := ["  Line 3:".toList] }
        (scanLines ["['aB'] Tip: x\n".toList]) "in a.erb:".toList).render .plain =
      (detailed { contextWidth := 10, tips := ["  Line 3:".toList] }
        (scanLines ["['aB'] Tip: y".toList]) "in a.erb:".toList).render .plain := by
    decide +kernel
  have hviolations : (scanLines ["['aB'] Tip: x\n".toList]).hasViolations = true := by
    decide +kernel
  have hsame := detailed_plain_unambiguous (by simp) (by simp) (by simp) (by decide) (by decide) heq
  exact ⟨heq, hviolations, (hsame.2.2.2 hviolations).2⟩

end Report
end TemplateLint
