import TemplateLint.Proofs.Key.Cell
import TemplateLint.Proofs.Key.Pieces

/-!
# Suggestions are stable

A suggestion is in the spelling that it asks for: it has no hump and is in lower case, so that the
suggestion for it is the suggestion itself. On the way from a key to its suggestion no quote,
bracket or parenthesis comes or goes.
-/

namespace TemplateLint.Key

/-- A key without a hump gets no underscore. -/
theorem separate_eq_self {key : Text} (h : isCamelCase key = false) : separate key = key := by
  fun_induction separate key with
  | case1 a b s hump ih =>
    rw [isCamelCase, hump, Bool.true_or] at h
    cases h
  | case2 a b s hump ih =>
    rw [isCamelCase, Bool.or_eq_false_iff] at h
    rw [ih h.2]
  | case3 s => rfl

/-- The suggestion for a suggestion is that suggestion. -/
theorem suggestion_suggestion (key : Text) : suggestion (suggestion key) = suggestion key :=
  calc suggestion (suggestion key)
      = (suggestion key).lower := by
        rw [suggestion, separate_eq_self (isCamelCase_suggestion key)]
    _ = suggestion key := Text.lower_lower (separate key)

/-- Only the empty key has an empty suggestion. -/
theorem suggestion_eq_nil_iff {key : Text} : suggestion key = [] ↔ key = [] := by
  constructor
  · intro h
    by_contra hne
    exact suggestion_ne_nil hne h
  · rintro rfl
    rfl

/-- A suggestion has the marks of its key in the same order. -/
theorem filter_isMark_suggestion (key : Text) :
    (suggestion key).filter isMark = key.filter isMark := by
  obtain ⟨cells, rfl, hafter⟩ := Cell.exists_cells_suggestion key
  rw [← hafter]
  exact Cell.filter_isMark_after cells

/-- The underscores apart, a separated key holds the characters of the key. -/
theorem mem_of_mem_separate {key : Text} {c : Char} (h : c ∈ separate key) (hc : c ≠ '_') :
    c ∈ key := by
  fun_induction separate key with
  | case1 a b s hump ih =>
    simp only [List.mem_cons, hc, false_or] at h ⊢
    exact h.imp_right (Or.imp_right ih)
  | case2 a b s hump ih =>
    rw [List.mem_cons] at h ⊢
    exact h.imp_right ih
  | case3 s => exact h

/-- A character that lowercasing has no say in stands in a suggestion only if it stands in the key,
the underscore apart. -/
theorem mem_of_mem_suggestion {key : Text} {c : Char} (h : c ∈ suggestion key)
    (hinert : Text.isInert c = true) (hc : c ≠ '_') : c ∈ key :=
  mem_of_mem_separate (Text.mem_of_mem_lowerFrom hinert h) hc

/-- A suggestion has no upper-case letter of ASCII and no hump, is empty only for the empty key, has
the quotes, brackets and parentheses of its key in their order, and stays if it is respelled once
more. -/
theorem suggestion_stable (key : Text) :
    (∀ c ∈ suggestion key, ¬ ('A' ≤ c ∧ c ≤ 'Z')) ∧
    isCamelCase (suggestion key) = false ∧
    (suggestion key = [] ↔ key = []) ∧
    (suggestion key).filter isMark = key.filter isMark ∧
    suggestion (suggestion key) = suggestion key := by
  refine ⟨?_, isCamelCase_suggestion key, suggestion_eq_nil_iff, filter_isMark_suggestion key,
    suggestion_suggestion key⟩
  intro c hc
  rw [← isUpper_iff_range, isUpper_of_mem_suggestion hc]
  exact Bool.false_ne_true

/-- A key with a final sigma, a capital I with a dot above, and a Kelvin sign, whose lower case is a
letter of ASCII. -/
theorem suggestion_stable_beyond_ascii :
    suggestion "\u039F\u03A3['\u0130aB(\u212A)']".toList =
      "\u03BF\u03C2['i\u0307a_b(k)']".toList ∧
    ¬ ('A' ≤ 'k' ∧ 'k' ≤ 'Z') ∧
    suggestion "\u03BF\u03C2['i\u0307a_b(k)']".toList = "\u03BF\u03C2['i\u0307a_b(k)']".toList := by
  have hkey : suggestion "\u039F\u03A3['\u0130aB(\u212A)']".toList =
      "\u03BF\u03C2['i\u0307a_b(k)']".toList := by decide +kernel
  obtain ⟨hupper, -, -, -, hstays⟩ := suggestion_stable "\u039F\u03A3['\u0130aB(\u212A)']".toList
  rw [hkey] at hupper hstays
  exact ⟨hkey, hupper 'k' (by decide), hstays⟩

end TemplateLint.Key
