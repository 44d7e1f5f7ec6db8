import TemplateLint.Text.Basic

/-!
# Delimited stretches of a line

A delimiter is an opening literal, a character that the body may not hold, and a closing literal.
The delimited bodies of a line are found from left to right: at the first place where an opening
literal, a non-empty body and the closing literal follow one another, the body is taken and the
search goes on behind the closing literal; everywhere else it moves on by one character.
-/

namespace TemplateLint

/-- A stretch of a line: how many characters stand before it, and its own characters. -/
structure Span where
  start : Nat
  text : Text
deriving Repr, DecidableEq

/-- How many characters of the line stand before the end of the span. -/
def Span.stop (s : Span) : Nat := s.start + s.text.length

/-- The literals around a body, and the character that ends the body. -/
structure Delimiter where
  opening : Text
  barrier : Char
  closing : Text
deriving Repr, DecidableEq

namespace Delimiter

/-- The body that a text starts with, once opened and closed, and the text behind it. -/
def bodyAt? (d : Delimiter) (s : Text) : Option (Text × Text) :=
  match Text.after? d.opening s with
  | none => none
  | some t =>
    let body := t.takeWhile (· != d.barrier)
    if body.isEmpty then none
    else (Text.after? d.closing (t.dropWhile (· != d.barrier))).map fun rest => (body, rest)

/-- A body found at the front of a text is not empty, is free of the barrier, and stands between
the two literals. -/
theorem bodyAt?_eq_some {d : Delimiter} {s body rest : Text} (h : d.bodyAt? s = some (body, rest)) :
    s = d.opening ++ body ++ d.closing ++ rest ∧ body ≠ [] ∧ d.barrier ∉ body := by
  unfold bodyAt? at h
  split at h
  · cases h
  · next t ht =>
    have hs := Text.after?_eq_some_iff.1 ht
    simp only at h
    split at h
    · cases h
    · next hne =>
      obtain ⟨r, hr, he⟩ := Option.map_eq_some_iff.1 h
      obtain ⟨rfl, rfl⟩ := Prod.mk.inj he
      have hc := Text.after?_eq_some_iff.1 hr
      refine ⟨?_, by simpa using hne, ?_⟩
      · rw [hs, List.append_assoc, List.append_assoc, ← hc, List.takeWhile_append_dropWhile]
      · intro hm
        have := List.all_takeWhile (p := (· != d.barrier)) (l := t)
        simpa using List.all_eq_true.1 this _ hm

/-- What follows a body is shorter than the text that starts with it. -/
theorem length_lt_of_bodyAt? {d : Delimiter} {s body rest : Text}
    (h : d.bodyAt? s = some (body, rest)) : rest.length < s.length := by
  obtain ⟨hs, hne, _⟩ := bodyAt?_eq_some h
  have : 0 < body.length := List.length_pos_iff.2 hne
  have := congrArg List.length hs
  simp only [List.length_append] at this
  omega

/-- The delimited bodies of a text, from left to right, the text itself starting at `offset`. -/
def spansFrom (d : Delimiter) (offset : Nat) (s : Text) : List Span :=
  match s with
  | [] => []
  | c :: t =>
    match h : d.bodyAt? (c :: t) with
    | none => spansFrom d (offset + 1) t
    | some (body, rest) =>
      ⟨offset + d.opening.length, body⟩ ::
        spansFrom d (offset + d.opening.length + body.length + d.closing.length) rest
termination_by s.length
decreasing_by
  · exact Nat.lt_succ_self _
  · exact length_lt_of_bodyAt? h

/-- The delimited bodies of a line with their places. -/
def spans (d : Delimiter) (line : Text) : List Span := d.spansFrom 0 line

end Delimiter

end TemplateLint
