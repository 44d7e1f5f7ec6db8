import TemplateLint.Key.Candidate
import TemplateLint.Key.Casing
import TemplateLint.Proofs.Text.Lowercase

/-!
# Texts laid out in cells

To compare a text with a respelling of it, both are laid out in cells: a cell holds a character of
the text and what stands in its place. The marks that delimit keys (quotes, brackets and
parentheses) stand for themselves, and nothing else becomes a mark, which is part of what a cell is.
A suggestion can be laid out over its key in this way (`exists_cells_suggestion`), and reading up to
a mark, or reading marks off the front, gives the same cells before and after.
-/

namespace TemplateLint.Key

/-- Whether a character is one of the marks around keys. -/
def isMark (c : Char) : Bool := c == '\'' || c == '[' || c == ']' || c == '(' || c == ')'

/-- A character and what stands in its place: a mark for itself, and for anything else one or more
characters that are no marks. -/
structure Cell where
  char : Char
  text : Text
  mark : isMark char = true → text = [char]
  plain : isMark char = false → text ≠ [] ∧ ∀ c ∈ text, isMark c = false

namespace Cell

/-- The cell of a character that stays. -/
def keep (c : Char) : Cell where
  char := c
  text := [c]
  mark _ := rfl
  plain h := ⟨List.cons_ne_nil _ _, fun _ hd => (List.mem_singleton.mp hd) ▸ h⟩

/-- The text that cells were laid out for. -/
def before (cells : List Cell) : Text := cells.map Cell.char

/-- The text that stands in its place. -/
def after (cells : List Cell) : Text := cells.flatMap Cell.text

/-- A cell in front has its character in front of the text before the change. -/
theorem before_cons (p : Cell) (cells : List Cell) : before (p :: cells) = p.char :: before cells :=
  rfl

/-- A cell in front has its text in front of the text after the change. -/
theorem after_cons (p : Cell) (cells : List Cell) : after (p :: cells) = p.text ++ after cells :=
  rfl

/-- The text before the change is put together part by part. -/
theorem before_append (cells others : List Cell) :
    before (cells ++ others) = before cells ++ before others := List.map_append

/-- The text after the change is put together part by part. -/
theorem after_append (cells others : List Cell) :
    after (cells ++ others) = after cells ++ after others := List.flatMap_append

/-- There is a cell for every character of the text before the change. -/
theorem length_before (cells : List Cell) : (before cells).length = cells.length :=
  List.length_map _

/-- The first cells are those of the first characters. -/
theorem before_take (n : Nat) (cells : List Cell) :
    before (cells.take n) = (before cells).take n := List.map_take

/-- The other cells are those of the other characters. -/
theorem before_drop (n : Nat) (cells : List Cell) :
    before (cells.drop n) = (before cells).drop n := List.map_drop

/-- Something stands in the place of every character. -/
theorem text_ne_nil (p : Cell) : p.text ≠ [] := by
  cases h : isMark p.char with
  | true =>
    rw [p.mark h]
    exact List.cons_ne_nil _ _
  | false => exact (p.plain h).1

/-- Cells that stay leave their text as it is. -/
theorem after_eq_before {cells : List Cell} (h : ∀ p ∈ cells, p.text = [p.char]) :
    after cells = before cells := by
  induction cells with
  | nil => rfl
  | cons p cells ih =>
    rw [after_cons, before_cons, h p List.mem_cons_self,
      ih fun q hq => h q (List.mem_cons_of_mem _ hq)]
    rfl

/-- A mark in the place of a character is that character. -/
theorem text_eq_of_mem {p : Cell} {c : Char} (hc : isMark c = true) (h : c ∈ p.text) :
    p.char = c ∧ p.text = [c] := by
  cases hp : isMark p.char with
  | true =>
    have ht := p.mark hp
    rw [ht, List.mem_singleton] at h
    exact ⟨h.symm, h ▸ ht⟩
  | false =>
    rw [(p.plain hp).2 c h] at hc
    exact absurd hc Bool.false_ne_true

/-- Nothing stands only in the place of nothing. -/
theorem after_eq_nil_iff {cells : List Cell} : after cells = [] ↔ cells = [] := by
  cases cells with
  | nil => simp [after]
  | cons p cells => simp [after_cons, p.text_ne_nil]

/-- The marks after are those before, in the same order. -/
theorem filter_isMark_after (cells : List Cell) :
    (after cells).filter isMark = (before cells).filter isMark := by
  induction cells with
  | nil => rfl
  | cons p cells ih =>
    rw [after_cons, before_cons, List.filter_append, ih]
    cases hp : isMark p.char with
    | true => rw [p.mark hp, List.filter_cons_of_pos hp, List.filter_cons_of_pos hp]; rfl
    | false =>
      have hnone : p.text.filter isMark = [] := by
        rw [List.filter_eq_nil_iff]
        intro c hc
        rw [(p.plain hp).2 c hc]
        exact Bool.false_ne_true
      rw [hnone, List.filter_cons_of_neg (Bool.eq_false_iff.mp hp)]
      rfl

/-! ### Reading marks -/

private theorem ne_of_mem_text {p : Cell} {m c : Char} (hm : isMark m = true) (hp : p.char ≠ m)
    (hc : c ∈ p.text) : c ≠ m := by
  rintro rfl
  exact hp (text_eq_of_mem hm hc).1

/-- Reading up to a mark takes the same cells before and after. -/
theorem takeWhile_after {m : Char} (hm : isMark m = true) (cells : List Cell) :
    (after cells).takeWhile (· != m) = after (cells.takeWhile (·.char != m)) := by
  induction cells with
  | nil => rfl
  | cons p cells ih =>
    rw [after_cons, List.takeWhile_cons]
    by_cases hp : p.char = m
    · have ht : p.text = [m] := hp ▸ p.mark (hp ▸ hm)
      simp [ht, hp, after]
    · have hall : ∀ c ∈ p.text, (c != m) = true := by
        intro c hc
        rw [bne_iff_ne]
        exact ne_of_mem_text hm hp hc
      rw [List.takeWhile_append_of_pos hall, ih, if_pos (bne_iff_ne.mpr hp), after_cons]

/-- What is left from a mark on is the same cells before and after. -/
theorem dropWhile_after {m : Char} (hm : isMark m = true) (cells : List Cell) :
    (after cells).dropWhile (· != m) = after (cells.dropWhile (·.char != m)) := by
  induction cells with
  | nil => rfl
  | cons p cells ih =>
    rw [after_cons, List.dropWhile_cons]
    by_cases hp : p.char = m
    · have ht : p.text = [m] := hp ▸ p.mark (hp ▸ hm)
      simp [ht, hp, after_cons]
    · have hall : ∀ c ∈ p.text, (c != m) = true := by
        intro c hc
        rw [bne_iff_ne]
        exact ne_of_mem_text hm hp hc
      rw [List.dropWhile_append_of_pos hall, ih, if_pos (bne_iff_ne.mpr hp)]

/-- Reading a literal leaves the cells behind it. -/
theorem eq_before_of_after? {literal t : Text} {cells : List Cell}
    (h : Text.after? literal (before cells) = some t) : t = before (cells.drop literal.length) := by
  rw [before_drop, Text.after?_eq_some_iff.mp h, List.drop_left]

/-- A literal of marks is read off the front after if and only if it is before, and leaves the same
cells. -/
theorem after?_after {literal : Text} (hl : ∀ c ∈ literal, isMark c = true) (cells : List Cell) :
    Text.after? literal (after cells) =
      (Text.after? literal (before cells)).map fun _ => after (cells.drop literal.length) := by
  induction literal generalizing cells with
  | nil => rfl
  | cons m literal ih =>
    have hm : isMark m = true := hl m List.mem_cons_self
    cases cells with
    | nil => rfl
    | cons p cells =>
      by_cases hp : p.char = m
      · have ht : p.text = [m] := hp ▸ p.mark (hp ▸ hm)
        rw [after_cons, ht, before_cons, hp]
        simp only [List.singleton_append, Text.after?, if_true, List.length_cons,
          List.drop_succ_cons]
        exact ih (fun c hc => hl c (List.mem_cons_of_mem _ hc)) cells
      · obtain ⟨c, t, ht⟩ := List.exists_cons_of_ne_nil p.text_ne_nil
        have hc : c ≠ m := ne_of_mem_text hm hp (ht ▸ List.mem_cons_self)
        rw [after_cons, ht, before_cons]
        simp only [List.cons_append, Text.after?, if_neg (Ne.symm hc), if_neg (Ne.symm hp),
          Option.map_none]

/-! ### Laying out a suggestion over its key -/

private theorem isInert_of_isMark {c : Char} (h : isMark c = true) : Text.isInert c = true := by
  simp only [isMark, Bool.or_eq_true, beq_iff_eq] at h
  rcases h with (((rfl | rfl) | rfl) | rfl) | rfl <;> decide

private theorem isMark_of_mem_lowerAt {preceded : Bool} {c d : Char} {following : Text}
    (h : isMark c = false) (hd : d ∈ Text.lowerAt preceded c following) : isMark d = false := by
  cases hi : Text.isInert c with
  | true =>
    rw [Text.lowerAt_of_isInert hi, List.mem_singleton] at hd
    exact hd ▸ h
  | false =>
    have hd' := Text.isInert_of_mem_lowerAt hi hd
    cases hm : isMark d with
    | false => rfl
    | true => exact (isInert_of_isMark hm).symm.trans hd'

private def lowered (preceded : Bool) (c : Char) (following : Text) : Cell where
  char := c
  text := Text.lowerAt preceded c following
  mark h := Text.lowerAt_of_isInert (isInert_of_isMark h)
  plain h := ⟨Text.lowerAt_ne_nil preceded c following, fun _ hd => isMark_of_mem_lowerAt h hd⟩

private theorem exists_cells_lowerFrom (preceded : Bool) (s : Text) :
    ∃ cells, before cells = s ∧ after cells = Text.lowerFrom preceded s := by
  induction s generalizing preceded with
  | nil => exact ⟨[], rfl, rfl⟩
  | cons c s ih =>
    obtain ⟨cells, hb, ha⟩ := ih (Text.casedAfter preceded c)
    refine ⟨lowered preceded c s :: cells, ?_, ?_⟩
    · rw [before_cons, hb]
      rfl
    · rw [after_cons, ha]
      rfl

private theorem isMark_of_isUpper {c : Char} (h : c.isUpper = true) : isMark c = false := by
  cases hm : isMark c with
  | false => rfl
  | true =>
    have hi := isInert_of_isMark hm
    have hu := Text.isUpper_iff.mp h
    simp only [Text.isInert, Bool.or_eq_true, Bool.and_eq_true, decide_eq_true_eq] at hi
    omega

private theorem isMark_of_mem_separated {b d : Char} (h : isMark b = false) (hd : d ∈ ['_', b]) :
    isMark d = false := by
  simp only [List.mem_cons, List.not_mem_nil, or_false] at hd
  rcases hd with rfl | rfl
  · rfl
  · exact h

-- An underscore shares the cell of the upper-case letter behind it.
private def separated (b : Char) (h : b.isUpper = true) : Cell where
  char := b
  text := ['_', b]
  mark hm := absurd ((isMark_of_isUpper h).symm.trans hm) Bool.false_ne_true
  plain hm := ⟨List.cons_ne_nil _ _, fun _ hd => isMark_of_mem_separated hm hd⟩

private theorem before_keep (s : Text) : before (s.map keep) = s := by
  rw [before, List.map_map]
  exact List.map_id s

private theorem after_keep (s : Text) : after (s.map keep) = s := by
  rw [after, List.flatMap_map]
  exact List.flatMap_singleton' s

private theorem exists_cells_separate (key : Text) :
    ∃ cells, before cells = key ∧ after cells = separate key := by
  fun_induction separate key with
  | case1 a b s hump ih =>
    obtain ⟨cells, hb, ha⟩ := ih
    rw [isHump, Bool.and_eq_true] at hump
    refine ⟨keep a :: separated b hump.2 :: cells, ?_, ?_⟩
    · rw [before_cons, before_cons, hb]
      rfl
    · rw [after_cons, after_cons, ha]
      rfl
  | case2 a b s hump ih =>
    obtain ⟨cells, hb, ha⟩ := ih
    refine ⟨keep a :: cells, ?_, ?_⟩
    · rw [before_cons, hb]
      rfl
    · rw [after_cons, ha]
      rfl
  | case3 s => exact ⟨s.map keep, before_keep s, after_keep s⟩

-- Cells over cells: a cell takes what stands in the places of all the characters in its place.
private theorem exists_cells_trans (cells others : List Cell) (h : after cells = before others) :
    ∃ joined, before joined = before cells ∧ after joined = after others := by
  induction cells generalizing others with
  | nil =>
    obtain rfl : others = [] := List.map_eq_nil_iff.mp h.symm
    exact ⟨[], rfl, rfl⟩
  | cons p cells ih =>
    obtain ⟨front, rest, rfl, hfront, hrest⟩ := List.map_eq_append_iff.mp h.symm
    obtain ⟨joined, hb, ha⟩ := ih rest hrest.symm
    have hmark : isMark p.char = true → after front = [p.char] := by
      intro hp
      rw [p.mark hp, List.map_eq_singleton_iff] at hfront
      obtain ⟨q, rfl, hq⟩ := hfront
      rw [after_cons, q.mark (hq ▸ hp), hq]
      rfl
    have hplain : isMark p.char = false →
        after front ≠ [] ∧ ∀ c ∈ after front, isMark c = false := by
      intro hp
      obtain ⟨hne, hall⟩ := p.plain hp
      refine ⟨?_, fun c hc => ?_⟩
      · rw [Ne, after_eq_nil_iff]
        rintro rfl
        exact hne hfront.symm
      · obtain ⟨q, hq, hc⟩ := List.mem_flatMap.mp hc
        have hqc : isMark q.char = false := hall q.char (hfront ▸ List.mem_map_of_mem hq)
        exact (q.plain hqc).2 c hc
    refine ⟨⟨p.char, after front, hmark, hplain⟩ :: joined, ?_, ?_⟩
    · rw [before_cons, hb]
      rfl
    · rw [after_cons, ha, after_append]

/-- A suggestion can be laid out over its key. -/
theorem exists_cells_suggestion (key : Text) :
    ∃ cells, before cells = key ∧ after cells = suggestion key := by
  obtain ⟨cells, hb, ha⟩ := exists_cells_separate key
  obtain ⟨others, hb', ha'⟩ := exists_cells_lowerFrom false (separate key)
  obtain ⟨joined, hj, hj'⟩ := exists_cells_trans cells others (ha.trans hb'.symm)
  exact ⟨joined, hj.trans hb, hj'.trans ha'⟩

end Cell

/-- A key has a suggestion that is not empty, unless the key is. -/
theorem suggestion_ne_nil {key : Text} (h : key ≠ []) : suggestion key ≠ [] := by
  obtain ⟨cells, rfl, hafter⟩ := Cell.exists_cells_suggestion key
  rw [← hafter, Ne, Cell.after_eq_nil_iff]
  rintro rfl
  exact h rfl

/-- No suggestion holds an upper-case letter of ASCII. -/
theorem isUpper_of_mem_suggestion {key : Text} {c : Char} (h : c ∈ suggestion key) :
    c.isUpper = false := Text.isUpper_of_mem_lower h

/-- No suggestion is camelCase. -/
theorem isCamelCase_suggestion (key : Text) : isCamelCase (suggestion key) = false := by
  have h : ∀ c ∈ suggestion key, c.isUpper = false := fun _ hc => isUpper_of_mem_suggestion hc
  generalize suggestion key = s at h
  fun_induction isCamelCase s with
  | case1 a b s ih =>
    have hb : b.isUpper = false := h b (by simp)
    rw [isHump, hb, Bool.and_false, Bool.false_or]
    exact ih fun c hc => h c (List.mem_cons_of_mem _ hc)
  | case2 s => rfl

end TemplateLint.Key
