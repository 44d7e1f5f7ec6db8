import TemplateLint.Proofs.Key.Cell
import TemplateLint.Proofs.Key.Pieces
import TemplateLint.Proofs.Key.Span
import TemplateLint.Scan.Line

/-!
# What a violation says

Every violation of a scan can be traced to the line it was found in, and holds what a reader needs
to mend it (`IsTraceable`): the key stands between quotes in the context, has a hump, and is to be
replaced by another key that has none. The key survives stripping because the quotes around it are
no blanks.
-/

namespace TemplateLint

namespace Text

private theorem dropWhile_append_of_false {p : Char → Bool} {a : Char} (ha : p a = false)
    (front back : Text) : (front ++ a :: back).dropWhile p = front.dropWhile p ++ a :: back := by
  rw [List.dropWhile_append]
  split
  · next hempty => simp [List.isEmpty_iff.mp hempty, ha]
  · rfl

/-- What stands between two characters that are not trimmed, and these themselves, are not
trimmed. -/
theorem infix_trim {p : Char → Bool} {a b : Char} {s t : Text} (ha : p a = false)
    (hb : p b = false) (h : a :: t ++ [b] <:+: s) : a :: t ++ [b] <:+: s.trim p := by
  obtain ⟨front, back, rfl⟩ := h
  refine ⟨front.dropWhile p, (back.reverse.dropWhile p).reverse, ?_⟩
  have hfront : (front ++ (a :: t ++ [b]) ++ back).dropWhile p =
      front.dropWhile p ++ a :: (t ++ b :: back) := by
    rw [← dropWhile_append_of_false ha]
    simp
  have hback : (front.dropWhile p ++ a :: (t ++ b :: back)).reverse =
      back.reverse ++ b :: (front.dropWhile p ++ a :: t).reverse := by
    simp
  rw [trim, hfront, hback, dropWhile_append_of_false hb]
  simp

end Text

namespace Key

/-- A key in which a lower-case letter of ASCII is directly followed by an upper-case one. -/
def HasHump (key : Text) : Prop :=
  ∃ front a b back, key = front ++ a :: b :: back ∧ ('a' ≤ a ∧ a ≤ 'z') ∧ 'A' ≤ b ∧ b ≤ 'Z'

private theorem isCamelCase_cons {s : Text} (c : Char) (h : isCamelCase s = true) :
    isCamelCase (c :: s) = true := by
  cases s with
  | nil => cases h
  | cons d s => rw [isCamelCase, h, Bool.or_true]

/-- A key is camelCase exactly when it has a hump. -/
theorem isCamelCase_iff_hasHump {key : Text} : isCamelCase key = true ↔ HasHump key := by
  constructor
  · intro h
    fun_induction isCamelCase key with
    | case1 a b s ih =>
      rcases Bool.or_eq_true_iff.mp h with h | h
      · exact ⟨[], a, b, s, rfl, isHump_iff.mp h⟩
      · obtain ⟨front, c, d, back, hs, hhump⟩ := ih h
        exact ⟨a :: front, c, d, back, by rw [hs, List.cons_append], hhump⟩
    | case2 s => cases h
  · rintro ⟨front, a, b, back, rfl, hhump⟩
    induction front with
    | nil => rw [List.nil_append, isCamelCase, isHump_iff.mpr hhump, Bool.true_or]
    | cons c front ih => exact isCamelCase_cons c ih

/-- A camelCase key is not the suggestion for it. -/
theorem suggestion_ne {key : Text} (h : isCamelCase key = true) : suggestion key ≠ key := by
  intro heq
  rw [← heq, isCamelCase_suggestion] at h
  cases h

/-- A key that a line names stands between quotes in the stripped line. -/
theorem infix_strip_of_mem_candidates {line key : Text} (h : key ∈ candidates line) :
    key ≠ [] ∧ '\'' ∉ key ∧ '\'' :: key ++ ['\''] <:+: line.strip := by
  rw [candidates_eq] at h
  obtain ⟨span, hspan, rfl⟩ := List.mem_map.mp h
  obtain ⟨hne, hquote, front, back, hline, -⟩ := isQuotedRun_of_mem_spans hspan
  refine ⟨hne, hquote, ?_⟩
  apply Text.infix_trim
  · decide
  · decide
  · exact ⟨front, back, by rw [hline]; simp⟩

end Key

/-! ### The violations of consecutive lines -/

/-- The violations of a line are the camelCase keys that it names. -/
theorem mem_scanLine_iff {number : Int} {line : Text} {v : Violation} :
    v ∈ scanLine number line ↔
      ∃ key ∈ Key.candidates line, Key.isCamelCase key = true ∧
        v = ⟨number, key, Key.suggestion key, line.strip⟩ := by
  unfold scanLine
  simp only [List.mem_map, List.mem_filter, and_assoc, eq_comm]

/-- The violations of consecutive lines are those of each line under its number. -/
theorem mem_scanFrom_iff {number : Int} {lines : List Text} {v : Violation} :
    v ∈ scanFrom number lines ↔
      ∃ i line, lines[i]? = some line ∧ v ∈ scanLine (number + (i : Nat)) line := by
  induction lines generalizing number with
  | nil => simp [scanFrom]
  | cons first rest ih =>
    rw [scanFrom, List.mem_append, ih]
    constructor
    · rintro (h | ⟨i, line, hline, h⟩)
      · exact ⟨0, first, rfl, by simpa using h⟩
      · refine ⟨i + 1, line, hline, ?_⟩
        rw [show number + ((i + 1 : Nat) : Int) = number + 1 + (i : Int) by omega]
        exact h
    · rintro ⟨i, line, hline, h⟩
      cases i with
      | zero =>
        obtain rfl : first = line := Option.some.inj hline
        exact .inl (by simpa using h)
      | succ i =>
        refine .inr ⟨i, line, hline, ?_⟩
        rw [show number + 1 + (i : Int) = number + ((i + 1 : Nat) : Int) by omega]
        exact h

/-- A violation in a line has the number of the line. -/
theorem line_of_mem_scanLine {number : Int} {line : Text} {v : Violation}
    (h : v ∈ scanLine number line) : v.line = number := by
  obtain ⟨key, -, -, rfl⟩ := mem_scanLine_iff.mp h
  rfl

/-- No violation has a smaller number than the line where the scan starts. -/
theorem le_line_of_mem_scanFrom {number : Int} {lines : List Text} {v : Violation}
    (h : v ∈ scanFrom number lines) : number ≤ v.line := by
  obtain ⟨i, line, -, hv⟩ := mem_scanFrom_iff.mp h
  rw [line_of_mem_scanLine hv]
  omega

/-- Violations come in the order of their lines. -/
theorem pairwise_scanFrom (number : Int) (lines : List Text) :
    (scanFrom number lines).Pairwise fun v w => v.line ≤ w.line := by
  induction lines generalizing number with
  | nil => exact List.Pairwise.nil
  | cons first rest ih =>
    rw [scanFrom, List.pairwise_append]
    refine ⟨?_, ih (number + 1), ?_⟩
    · apply List.pairwise_of_forall_mem_list
      intro v hv w hw
      rw [line_of_mem_scanLine hv, line_of_mem_scanLine hw]
    · intro v hv w hw
      have hle := le_line_of_mem_scanFrom hw
      rw [line_of_mem_scanLine hv]
      omega

/-- A violation that names a line among some lines and a key in it, and offers a better key. -/
structure Violation.IsTraceable (lines : List Text) (v : Violation) : Prop where
  one_le_line : 1 ≤ v.line
  line_le : v.line ≤ lines.length
  context_eq : ∃ line, lines[(v.line - 1).toNat]? = some line ∧ v.context = line.strip
  context_ne_nil : v.context ≠ []
  /-- the key stands between quotes in the context -/
  quoted_infix : '\'' :: v.key ++ ['\''] <:+: v.context
  key_ne_nil : v.key ≠ []
  quote_not_mem : '\'' ∉ v.key
  hasHump : Key.HasHump v.key
  suggestion_ne_nil : v.suggestion ≠ []
  suggestion_ne : v.suggestion ≠ v.key
  upper_not_mem : ∀ c ∈ v.suggestion, ¬ ('A' ≤ c ∧ c ≤ 'Z')
  not_hasHump : ¬ Key.HasHump v.suggestion

private theorem isTraceable_of_mem {lines : List Text} {i : Nat} {line : Text} {v : Violation}
    (hline : lines[i]? = some line) (h : v ∈ scanLine (1 + (i : Nat)) line) :
    v.IsTraceable lines := by
  obtain ⟨hlt, -⟩ := List.getElem?_eq_some_iff.mp hline
  obtain ⟨key, hkey, hcamel, rfl⟩ := mem_scanLine_iff.mp h
  obtain ⟨hne, hquote, hinfix⟩ := Key.infix_strip_of_mem_candidates hkey
  refine ⟨?_, ?_, ⟨line, ?_, rfl⟩, ?_, hinfix, hne, hquote, Key.isCamelCase_iff_hasHump.mp hcamel,
    Key.suggestion_ne_nil hne, Key.suggestion_ne hcamel, ?_, ?_⟩
  · show (1 : Int) ≤ 1 + i
    omega
  · show (1 + i : Int) ≤ lines.length
    omega
  · show lines[(1 + (i : Int) - 1).toNat]? = some line
    rw [show (1 + (i : Int) - 1).toNat = i by omega]
    exact hline
  · intro hempty
    have hnil : line.strip = [] := hempty
    rw [hnil] at hinfix
    cases List.infix_nil.mp hinfix
  · intro c hc
    rw [← Key.isUpper_iff_range, Key.isUpper_of_mem_suggestion hc]
    exact Bool.false_ne_true
  · rw [← Key.isCamelCase_iff_hasHump, Key.isCamelCase_suggestion]
    exact Bool.false_ne_true

/-- A scan counts its lines and lists the violations in the order of the lines. Every violation can
be traced to its line and offers a better key, and every camelCase key that a line names is among
them. -/
theorem scanLines_isTraceable (lines : List Text) :
    let r := scanLines lines
    r.lines = lines.length ∧
    r.violations.Pairwise (fun v w => v.line ≤ w.line) ∧
    (∀ v ∈ r.violations, v.IsTraceable lines) ∧
    (∀ (i : Nat) (line : Text), lines[i]? = some line →
      ∀ key ∈ Key.candidates line, Key.HasHump key →
        ⟨i + 1, key, Key.suggestion key, line.strip⟩ ∈ r.violations) := by
  refine ⟨rfl, pairwise_scanFrom 1 lines, ?_, ?_⟩
  · intro v hv
    obtain ⟨i, line, hline, hv⟩ := mem_scanFrom_iff.mp hv
    exact isTraceable_of_mem hline hv
  · intro i line hline key hkey hhump
    apply mem_scanFrom_iff.mpr
    refine ⟨i, line, hline, mem_scanLine_iff.mpr ⟨key, hkey, ?_, ?_⟩⟩
    · exact Key.isCamelCase_iff_hasHump.mpr hhump
    · rw [Int.add_comm]

/-- A key with blanks inside and other blanks around its call, and one in a line that ends with a
wide blank. -/
theorem scanLines_isTraceable_blanks :
    let lines := ["plain\n".toList, "\t form.data.dig(' aB ')\x0c\n".toList,
      "x['fooBar']\u3000".toList]
    (scanLines lines).violations =
      [⟨2, " aB ".toList, " a_b ".toList, "form.data.dig(' aB ')".toList⟩,
       ⟨3, "fooBar".toList, "foo_bar".toList, "x['fooBar']".toList⟩] ∧
    (⟨2, " aB ".toList, " a_b ".toList, "form.data.dig(' aB ')".toList⟩ :
      Violation).IsTraceable lines := by
  intro lines
  have hscan : (scanLines lines).violations =
      [⟨2, " aB ".toList, " a_b ".toList, "form.data.dig(' aB ')".toList⟩,
       ⟨3, "fooBar".toList, "foo_bar".toList, "x['fooBar']".toList⟩] := by cbv
  refine ⟨hscan, (scanLines_isTraceable lines).2.2.1 _ ?_⟩
  rw [hscan]
  exact List.mem_cons_self

end TemplateLint
