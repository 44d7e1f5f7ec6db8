import TemplateLint.Style.Basic

/-!
# Removing escape sequences

A control sequence is the escape character, an opening bracket, any number of parameter characters
`0` to `?`, any number of intermediate characters from the space to `/`, and one final character
from `@` to `~`. Stripping removes every control sequence of a text, from left to right.
-/

namespace TemplateLint.Style

/-- Whether a character may be a parameter of a control sequence. -/
def isParameter (c : Char) : Bool := '0' ≤ c && c ≤ '?'

/-- Whether a character may stand between the parameters and the end of a control sequence. -/
def isIntermediate (c : Char) : Bool := ' ' ≤ c && c ≤ '/'

/-- Whether a character may end a control sequence. -/
def isFinal (c : Char) : Bool := '@' ≤ c && c ≤ '~'

/-- What follows the control sequence at the front of a text, if there is one. -/
def afterSequence? : Text → Option Text
  | e :: '[' :: s =>
    if e = escape then
      match (s.dropWhile isParameter).dropWhile isIntermediate with
      | c :: rest => if isFinal c then some rest else none
      | [] => none
    else none
  | _ => none

/-- What follows a control sequence is shorter than the text that starts with it. -/
theorem length_lt_of_afterSequence? {s rest : Text} (h : afterSequence? s = some rest) :
    rest.length < s.length := by
  unfold afterSequence? at h
  split at h
  · next e s =>
    split at h
    · split at h
      · next c rest' hd =>
        split at h
        · obtain rfl := Option.some.inj h
          have h1 := ((List.dropWhile_suffix isIntermediate).trans
            (List.dropWhile_suffix (l := s) isParameter)).length_le
          rw [hd] at h1
          simp only [List.length_cons] at h1 ⊢
          omega
        · cases h
      · cases h
    · cases h
  · cases h

/-- A text without its control sequences. -/
def strip (s : Text) : Text :=
  match s with
  | [] => []
  | c :: t =>
    match _found : afterSequence? (c :: t) with
    | none => c :: strip t
    | some rest => strip rest
termination_by s.length
decreasing_by
  · exact Nat.lt_succ_self _
  · exact length_lt_of_afterSequence? _found

end TemplateLint.Style
