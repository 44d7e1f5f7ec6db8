import TemplateLint.Text.Basic

/-!
# Lines

A line ends after a line feed and nowhere else; the line feed belongs to its line. A text that
does not end with a line feed has a last line without one, and the empty text has no lines. Where
output is collected, a carriage return in front of a line feed is dropped.
-/

namespace TemplateLint.Text

/-- The lines of a text, each with its line feed. -/
def lines : Text → List Text
  | [] => []
  | c :: s =>
    if c = '\n' then [c] :: lines s
    else match lines s with
      | [] => [[c]]
      | line :: rest => (c :: line) :: rest

/-- Cutting a text into lines loses nothing. -/
theorem flatten_lines (s : Text) : (lines s).flatten = s := by
  fun_induction lines s with
  | case1 => rfl
  | case2 s ih => simp [ih]
  | case3 c s hc hs ih => simp_all
  | case4 c s hc line rest hs ih => simp_all

/-- A text with a line feed in place of every carriage return and line feed. -/
def unifyLineEnds : Text → Text
  | [] => []
  | '\r' :: '\n' :: s => '\n' :: unifyLineEnds s
  | c :: s => c :: unifyLineEnds s

end TemplateLint.Text
