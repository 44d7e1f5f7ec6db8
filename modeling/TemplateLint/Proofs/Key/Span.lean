import TemplateLint.Key.Candidate
import TemplateLint.Proofs.Basic

/-!
# Where keys stand in a line

What a search for delimited bodies finds: each body stands where its span says, between the two
literals, is not empty and is free of the barrier (`exists_of_mem_spansFrom`), and the offset only
moves the places. For the keys of a line this means that each fills the room between two quotes
that follow one another (`IsQuotedRun`). So any two keys have the same place or none in common,
whichever of the two rules found them.
-/

namespace TemplateLint

namespace Delimiter

variable {d : Delimiter}

/-- Nothing is found in the empty text. -/
theorem spansFrom_nil (offset : Nat) : d.spansFrom offset [] = [] := by
  rw [spansFrom]

/-- Where no body starts, the search moves on by a character. -/
theorem spansFrom_of_none {offset : Nat} {c : Char} {s : Text} (h : d.bodyAt? (c :: s) = none) :
    d.spansFrom offset (c :: s) = d.spansFrom (offset + 1) s := by
  rw [spansFrom]
  split
  · rfl
  · next body rest hb =>
    rw [h] at hb
    cases hb

/-- Where a body starts, the search takes it and goes on behind the closing literal. -/
theorem spansFrom_of_some {offset : Nat} {s body rest : Text}
    (h : d.bodyAt? s = some (body, rest)) :
    d.spansFrom offset s =
      ⟨offset + d.opening.length, body⟩ ::
        d.spansFrom (offset + d.opening.length + body.length + d.closing.length) rest := by
  cases s with
  | nil => exact absurd (length_lt_of_bodyAt? h) (Nat.not_lt_zero _)
  | cons c s =>
    rw [spansFrom]
    split
    · next hb =>
      rw [h] at hb
      cases hb
    · next body' rest' hb =>
      rw [h] at hb
      obtain ⟨rfl, rfl⟩ := Prod.mk.inj (Option.some.inj hb)
      rfl

/-- A body that is found stands between the literals at the place its span gives, is not empty, and
is free of the barrier. -/
theorem exists_of_mem_spansFrom {offset : Nat} {s : Text} {span : Span}
    (h : span ∈ d.spansFrom offset s) :
    ∃ front back, s = front ++ d.opening ++ span.text ++ d.closing ++ back ∧
      span.start = offset + front.length + d.opening.length ∧
      span.text ≠ [] ∧ d.barrier ∉ span.text := by
  fun_induction d.spansFrom offset s with
  | case1 offset => cases h
  | case2 offset c s hb ih =>
    obtain ⟨front, back, hs, hstart, hne, hbar⟩ := ih h
    refine ⟨c :: front, back, ?_, ?_, hne, hbar⟩
    · rw [hs]
      rfl
    · rw [hstart, List.length_cons]
      omega
  | case3 offset c s body rest hb ih =>
    obtain ⟨hs, hne, hbar⟩ := bodyAt?_eq_some hb
    rcases List.mem_cons.mp h with rfl | h
    · exact ⟨[], rest, hs, rfl, hne, hbar⟩
    · obtain ⟨front, back, hrest, hstart, hne, hbar⟩ := ih h
      refine ⟨d.opening ++ body ++ d.closing ++ front, back, ?_, ?_, hne, hbar⟩
      · rw [hs, hrest]
        simp only [List.append_assoc]
      · rw [hstart]
        simp only [List.length_append]
        omega

/-- Bodies start behind the offset and the opening literal. -/
theorem le_start_of_mem_spansFrom {offset : Nat} {s : Text} {span : Span}
    (h : span ∈ d.spansFrom offset s) : offset + d.opening.length ≤ span.start := by
  obtain ⟨front, back, -, hstart, -⟩ := exists_of_mem_spansFrom h
  omega

/-- Bodies end before the end of the text. -/
theorem stop_le_of_mem_spansFrom {offset : Nat} {s : Text} {span : Span}
    (h : span ∈ d.spansFrom offset s) : span.stop ≤ offset + s.length := by
  obtain ⟨front, back, hs, hstart, -⟩ := exists_of_mem_spansFrom h
  rw [Span.stop, hstart, hs]
  simp only [List.length_append]
  omega

/-- A body is what the text holds at the place of its span. -/
theorem take_drop_of_mem_spansFrom {offset : Nat} {s : Text} {span : Span}
    (h : span ∈ d.spansFrom offset s) :
    (s.drop (span.start - offset)).take span.text.length = span.text := by
  obtain ⟨front, back, hs, hstart, -⟩ := exists_of_mem_spansFrom h
  have hlength : span.start - offset = (front ++ d.opening).length := by
    rw [hstart, List.length_append]
    omega
  rw [hlength, hs, List.append_assoc, List.append_assoc, List.drop_left, List.take_left]

/-- The offset moves the places of the bodies and leaves the bodies. -/
theorem map_text_spansFrom (offset other : Nat) (s : Text) :
    (d.spansFrom offset s).map Span.text = (d.spansFrom other s).map Span.text := by
  fun_induction d.spansFrom offset s generalizing other with
  | case1 offset => rw [spansFrom_nil]
  | case2 offset c s hb ih => rw [spansFrom_of_none hb, ih]
  | case3 offset c s body rest hb ih =>
    rw [spansFrom_of_some hb, List.map_cons, List.map_cons, ih]

/-- A front in which no body starts is passed over. -/
theorem map_text_spansFrom_skip {front s : Text} (offset other : Nat)
    (h : ∀ x y, front = x ++ y → y ≠ [] → d.bodyAt? (y ++ s) = none) :
    (d.spansFrom offset (front ++ s)).map Span.text = (d.spansFrom other s).map Span.text := by
  induction front generalizing offset with
  | nil => exact map_text_spansFrom offset other s
  | cons c front ih =>
    have hc : d.bodyAt? (c :: (front ++ s)) = none := h [] (c :: front) rfl (List.cons_ne_nil _ _)
    rw [List.cons_append, spansFrom_of_none hc]
    apply ih
    intro x y hxy hy
    exact h (c :: x) y (by rw [hxy, List.cons_append]) hy

end Delimiter

namespace Key

/-- A span that fills the room between two quotes that follow one another in a line. -/
def IsQuotedRun (line : Text) (span : Span) : Prop :=
  span.text ≠ [] ∧ '\'' ∉ span.text ∧
    ∃ front back, line = front ++ '\'' :: (span.text ++ '\'' :: back) ∧
      span.start = front.length + 1

/-- The subscripts of a line fill the room between quotes. -/
theorem isQuotedRun_of_mem_subscriptSpans {line : Text} {span : Span}
    (h : span ∈ subscriptSpans line) : IsQuotedRun line span := by
  obtain ⟨front, back, hs, hstart, hne, hbar⟩ := Delimiter.exists_of_mem_spansFrom h
  refine ⟨hne, hbar, front ++ ['['], ']' :: back, ?_, ?_⟩
  · rw [hs]
    simp [subscript]
  · rw [hstart]
    simp [subscript]

/-- The quoted arguments of the calls in a line fill the room between quotes. -/
theorem isQuotedRun_of_mem_digSpans {line : Text} {span : Span} (h : span ∈ digSpans line) :
    IsQuotedRun line span := by
  obtain ⟨call, hcall, hspan⟩ := List.mem_flatMap.mp h
  obtain ⟨front, back, hline, hcallStart, -⟩ := Delimiter.exists_of_mem_spansFrom hcall
  obtain ⟨inner, rest, htext, hstart, hne, hbar⟩ := Delimiter.exists_of_mem_spansFrom hspan
  refine ⟨hne, hbar, front ++ digCall.opening ++ inner, rest ++ digCall.closing ++ back, ?_, ?_⟩
  · rw [hline, htext]
    simp [quoted]
  · rw [hstart, hcallStart]
    simp only [quoted, List.length_append, List.length_cons, List.length_nil]
    omega

/-- The keys of a line are the texts of its spans. -/
theorem candidates_eq (line : Text) :
    candidates line = (digSpans line ++ subscriptSpans line).map Span.text := by
  rw [candidates, digKeys, subscriptKeys, List.map_append]

/-- Whichever rule found it, a key of a line fills the room between quotes. -/
theorem isQuotedRun_of_mem_spans {line : Text} {span : Span}
    (h : span ∈ digSpans line ++ subscriptSpans line) : IsQuotedRun line span := by
  rcases List.mem_append.mp h with h | h
  · exact isQuotedRun_of_mem_digSpans h
  · exact isQuotedRun_of_mem_subscriptSpans h

namespace IsQuotedRun

variable {s : Text} {span other : Span}

/-- The line from the start of a run on. -/
theorem exists_drop_eq (h : IsQuotedRun s span) :
    ∃ back, s.drop span.start = span.text ++ '\'' :: back := by
  obtain ⟨-, -, front, back, rfl, hstart⟩ := h
  refine ⟨back, ?_⟩
  rw [hstart, List.drop_append, List.drop_of_length_le (Nat.le_succ _), List.nil_append,
    Nat.add_sub_cancel_left, List.drop_succ_cons, List.drop_zero]

/-- A quote stands before a run. -/
theorem getElem?_before (h : IsQuotedRun s span) :
    0 < span.start ∧ s[span.start - 1]? = some '\'' := by
  obtain ⟨-, -, front, back, rfl, hstart⟩ := h
  refine ⟨by omega, ?_⟩
  rw [hstart, Nat.add_sub_cancel, List.getElem?_append_right (Nat.le_refl _), Nat.sub_self]
  rfl

/-- The characters of a run are those of the line. -/
theorem getElem?_inside (h : IsQuotedRun s span) {i : Nat} (hi : span.start ≤ i)
    (hi' : i < span.stop) : s[i]? = span.text[i - span.start]? := by
  obtain ⟨back, hdrop⟩ := h.exists_drop_eq
  have hlt : i - span.start < span.text.length := by
    rw [Span.stop] at hi'
    omega
  calc s[i]? = (s.drop span.start)[i - span.start]? := by
        rw [List.getElem?_drop, Nat.add_sub_cancel' hi]
    _ = span.text[i - span.start]? := by
        rw [hdrop, List.getElem?_append_left hlt]

/-- No quote stands in a run. -/
theorem not_quote_inside (h : IsQuotedRun s span) {i : Nat} (hi : span.start ≤ i)
    (hi' : i < span.stop) : s[i]? ≠ some '\'' := by
  rw [h.getElem?_inside hi hi']
  intro hq
  exact h.2.1 (List.mem_of_getElem? hq)

/-- A quote stands behind a run. -/
theorem getElem?_behind (h : IsQuotedRun s span) : s[span.stop]? = some '\'' := by
  obtain ⟨back, hdrop⟩ := h.exists_drop_eq
  rw [Span.stop, ← List.getElem?_drop, hdrop, List.getElem?_append_right (Nat.le_refl _),
    Nat.sub_self]
  rfl

/-- Runs that have a character in common start at the same place. -/
theorem start_le (h : IsQuotedRun s span) (ho : IsQuotedRun s other)
    (hlt : other.start < span.stop) : other.start ≤ span.start := by
  apply Nat.le_of_not_lt
  intro hs
  have hq := ho.getElem?_before
  exact h.not_quote_inside (by omega) (by omega) hq.2

/-- Runs that start at the same place are the same. -/
theorem eq_of_start_eq (h : IsQuotedRun s span) (ho : IsQuotedRun s other)
    (hs : span.start = other.start) : span = other := by
  have hstop : span.stop = other.stop := by
    rcases Nat.lt_trichotomy span.stop other.stop with hlt | heq | hlt
    · have hle : other.start ≤ span.stop := by
        rw [← hs, Span.stop]
        omega
      exact absurd h.getElem?_behind (ho.not_quote_inside hle hlt)
    · exact heq
    · have hle : span.start ≤ other.stop := by
        rw [hs, Span.stop]
        omega
      exact absurd ho.getElem?_behind (h.not_quote_inside hle hlt)
  have hlength : span.text.length = other.text.length := by
    simp only [Span.stop] at hstop
    omega
  obtain ⟨back, hdrop⟩ := h.exists_drop_eq
  obtain ⟨back', hdrop'⟩ := ho.exists_drop_eq
  rw [hs, hdrop'] at hdrop
  have htext : other.text = span.text := List.append_inj_left hdrop hlength.symm
  cases span
  cases other
  rw [Span.mk.injEq]
  exact ⟨hs, htext.symm⟩

/-- Two runs of a line are the same or have no place in common. -/
theorem eq_or_disjoint (h : IsQuotedRun s span) (ho : IsQuotedRun s other) :
    span = other ∨ span.stop ≤ other.start ∨ other.stop ≤ span.start := by
  by_cases hlt : other.start < span.stop
  · by_cases hlt' : span.start < other.stop
    · left
      exact h.eq_of_start_eq ho (Nat.le_antisymm (ho.start_le h hlt') (h.start_le ho hlt))
    · exact .inr (.inr (Nat.le_of_not_lt hlt'))
  · exact .inr (.inl (Nat.le_of_not_lt hlt))

end IsQuotedRun

end Key

end TemplateLint
