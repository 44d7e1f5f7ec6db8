import TemplateLint.Proofs.Basic
import TemplateLint.Text.Line

/-!
# Cutting a text into lines

A cut after every line feed and nowhere else takes a text apart into stretches without a line feed,
each closed by one, and a remainder without one. The remainder is a line of its own unless it is
empty. Every text has exactly one such cut, its lines (`isCut_iff`). What stands behind a line feed
is cut as if it stood alone (`lines_append`), and the number of lines can be read off the text
(`length_lines`). Lines without line feeds that are joined by line feeds can be told apart again
(`unlines_inj`).
-/

namespace TemplateLint.Text

/-- Lines that a text is cut into after every line feed and nowhere else. -/
def IsCut (s : Text) (ls : List Text) : Prop :=
  ∃ (closed : List Text) (remainder : Text),
    (∀ body ∈ closed, '\n' ∉ body) ∧ '\n' ∉ remainder ∧
    s = closed.flatMap (· ++ ['\n']) ++ remainder ∧
    ls = closed.map (· ++ ['\n']) ++ if remainder = [] then [] else [remainder]

/-- A line feed closes the line that it ends. -/
theorem lines_cons_lineFeed (s : Text) : lines ('\n' :: s) = ['\n'] :: lines s := by
  rw [lines, if_pos rfl]

/-- A stretch without a line feed is a line of its own. -/
theorem lines_of_not_mem {s : Text} (h : '\n' ∉ s) : lines s = if s = [] then [] else [s] := by
  induction s with
  | nil => rfl
  | cons c s ih =>
    have hc : '\n' ≠ c := List.ne_of_not_mem_cons h
    rw [lines, if_neg (Ne.symm hc), ih (List.not_mem_of_not_mem_cons h)]
    by_cases he : s = []
    · simp [he]
    · simp [he]

/-- A stretch without a line feed, and the line feed behind it, are the first line. -/
theorem lines_append_lineFeed {body : Text} (h : '\n' ∉ body) (s : Text) :
    lines (body ++ '\n' :: s) = (body ++ ['\n']) :: lines s := by
  induction body with
  | nil => exact lines_cons_lineFeed s
  | cons c body ih =>
    have hc : '\n' ≠ c := List.ne_of_not_mem_cons h
    rw [List.cons_append, lines, if_neg (Ne.symm hc), ih (List.not_mem_of_not_mem_cons h)]
    rfl

/-- The lines of a text are the only cut of it after every line feed and nowhere else. -/
theorem isCut_iff {s : Text} {ls : List Text} : IsCut s ls ↔ ls = lines s := by
  constructor
  · rintro ⟨closed, remainder, hclosed, hremainder, rfl, rfl⟩
    induction closed with
    | nil => exact (lines_of_not_mem hremainder).symm
    | cons body closed ih =>
      have hbody : '\n' ∉ body := hclosed body List.mem_cons_self
      have hrest : ∀ b ∈ closed, '\n' ∉ b := fun b hb => hclosed b (List.mem_cons_of_mem _ hb)
      rw [List.map_cons, List.cons_append, ih hrest, List.flatMap_cons]
      simp only [List.append_assoc, List.singleton_append]
      exact (lines_append_lineFeed hbody _).symm
  · rintro rfl
    fun_induction lines s with
    | case1 => exact ⟨[], [], by simp, by simp, rfl, rfl⟩
    | case2 s ih =>
      obtain ⟨closed, remainder, hclosed, hremainder, hs, hls⟩ := ih
      refine ⟨[] :: closed, remainder, ?_, hremainder, ?_, ?_⟩
      · simpa using hclosed
      · rw [List.flatMap_cons, List.nil_append, List.append_assoc, ← hs]
        rfl
      · rw [List.map_cons, List.nil_append, List.cons_append, ← hls]
    | case3 c s hc hs ih =>
      obtain rfl : s = [] := by
        rw [← flatten_lines s, hs]
        rfl
      exact ⟨[], [c], by simp, by simpa using Ne.symm hc, rfl, rfl⟩
    | case4 c s hc line rest hs ih =>
      rw [hs] at ih
      obtain ⟨closed, remainder, hclosed, hremainder, rfl, hls⟩ := ih
      cases closed with
      | nil =>
        have hne : remainder ≠ [] := by
          rintro rfl
          cases hls
        rw [if_neg hne] at hls
        obtain ⟨rfl, rfl⟩ := List.cons.inj hls
        exact ⟨[], c :: line, by simp, by simp [hremainder, Ne.symm hc], rfl, rfl⟩
      | cons body closed =>
        obtain ⟨rfl, rfl⟩ := List.cons.inj hls
        refine ⟨(c :: body) :: closed, remainder, ?_, hremainder, rfl, rfl⟩
        intro b hb
        rcases List.mem_cons.mp hb with rfl | hb
        · exact List.not_mem_cons_of_ne_of_not_mem (Ne.symm hc) (hclosed body List.mem_cons_self)
        · exact hclosed b (List.mem_cons_of_mem _ hb)

/-- Behind a line feed, or at the front, a text is cut into lines as if it stood alone. -/
theorem lines_append {s : Text} (h : s = [] ∨ s.getLast? = some '\n') (t : Text) :
    lines (s ++ t) = lines s ++ lines t := by
  fun_induction lines s with
  | case1 => rfl
  | case2 s ih =>
    have hs : s = [] ∨ s.getLast? = some '\n' := by
      cases s with
      | nil => exact .inl rfl
      | cons d s => simpa using h
    rw [List.cons_append, lines_cons_lineFeed, ih hs, List.cons_append]
  | case3 c s hc hs ih =>
    obtain rfl : s = [] := by
      rw [← flatten_lines s, hs]
      rfl
    simp [hc] at h
  | case4 c s hc line rest hs ih =>
    have hne : s ≠ [] := by
      rintro rfl
      cases hs
    obtain ⟨d, u, rfl⟩ := List.exists_cons_of_ne_nil hne
    have hlast : (d :: u).getLast? = some '\n' := by simpa using h
    rw [hs] at ih
    rw [List.cons_append, lines, if_neg hc, ih (.inr hlast)]
    rfl

/-- There is a line for each line feed, and one more if something stands behind the last of them. -/
theorem length_lines (s : Text) :
    (lines s).length = s.count '\n' + if s ≠ [] ∧ s.getLast? ≠ some '\n' then 1 else 0 := by
  fun_induction lines s with
  | case1 => rfl
  | case2 s ih =>
    rw [List.length_cons, ih, List.count_cons_self]
    cases s with
    | nil => rfl
    | cons d s =>
      rw [List.getLast?_cons_cons]
      simp only [ne_eq, reduceCtorEq, not_false_eq_true, true_and]
      omega
  | case3 c s hc hs ih =>
    obtain rfl : s = [] := by
      rw [← flatten_lines s, hs]
      rfl
    simp [hc]
  | case4 c s hc line rest hs ih =>
    have hne : s ≠ [] := by
      rintro rfl
      cases hs
    obtain ⟨d, t, rfl⟩ := List.exists_cons_of_ne_nil hne
    rw [hs] at ih
    rw [List.length_cons] at ih ⊢
    rw [ih, List.count_cons_of_ne hc, List.getLast?_cons_cons]
    simp

/-- Lines without a line feed are known from the text that they are joined to. -/
theorem unlines_inj {a b : List Text} (ha : ∀ line ∈ a, '\n' ∉ line) (hb : ∀ line ∈ b, '\n' ∉ line)
    (hne : a ≠ []) (hne' : b ≠ []) : unlines a = unlines b ↔ a = b := by
  constructor
  · intro h
    rw [← List.splitOn_intercalate '\n' ha hne, ← List.splitOn_intercalate '\n' hb hne']
    exact congrArg (List.splitOn '\n') h
  · exact congrArg unlines

end TemplateLint.Text
