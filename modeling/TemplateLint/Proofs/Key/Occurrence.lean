import TemplateLint.Proofs.Key.Appended

/-!
# What a search finds and what it passes over

A delimited body occurs wherever the opening literal, a body and the closing literal follow one
another (`Occurs`). A search finds occurrences only, each behind the one before, and passes over an
occurrence only if that starts inside one that is found (`mem_or_overlaps_of_occursFrom`). What a
search finds is what one gets by taking the leftmost occurrence and going on behind it, again and
again (`takes_iff`).
-/

namespace TemplateLint

namespace Delimiter

/-- A body that stands between the two literals of a delimiter at its place in a text, the text
itself starting at `offset`. It is not empty and free of the barrier. -/
def OccursFrom (d : Delimiter) (offset : Nat) (s : Text) (span : Span) : Prop :=
  ∃ front back, s = front ++ d.opening ++ span.text ++ d.closing ++ back ∧
    span.start = offset + front.length + d.opening.length ∧ span.text ≠ [] ∧ d.barrier ∉ span.text

/-- A body that stands between the two literals of a delimiter at its place in a line. -/
def Occurs (d : Delimiter) (line : Text) (span : Span) : Prop := d.OccursFrom 0 line span

/-- How many characters of the line stand before the opening literal of a body. -/
def place (d : Delimiter) (span : Span) : Nat := span.start - d.opening.length

/-- A body whose closing literal ends before the opening literal of another starts. -/
def Precedes (d : Delimiter) (a b : Span) : Prop := a.stop + d.closing.length ≤ d.place b

variable {d : Delimiter}

namespace OccursFrom

variable {offset : Nat} {s : Text} {span : Span}

/-- The opening literal of an occurrence is not before the text. -/
theorem le_start (h : d.OccursFrom offset s span) : offset + d.opening.length ≤ span.start := by
  obtain ⟨front, back, -, hstart, -⟩ := h
  omega

/-- The opening literal stands at the place of an occurrence. -/
theorem place_add_length (h : d.OccursFrom offset s span) :
    d.place span + d.opening.length = span.start := by
  have hle := h.le_start
  rw [place]
  omega

/-- An occurrence that does not start in the front of a text is one of the rest. -/
theorem of_append (front : Text) (h : d.OccursFrom offset (front ++ s) span)
    (hle : offset + front.length + d.opening.length ≤ span.start) :
    d.OccursFrom (offset + front.length) s span := by
  obtain ⟨before, back, hsplit, hstart, hne, hfree⟩ := h
  have hlength : front.length ≤ before.length := by omega
  have hfront : front <+: before := by
    refine List.prefix_of_prefix_length_le (List.prefix_append front s) ?_ hlength
    rw [hsplit]
    simp only [List.append_assoc]
    exact List.prefix_append _ _
  obtain ⟨rest, rfl⟩ := hfront
  refine ⟨rest, back, ?_, ?_, hne, hfree⟩
  · simpa only [List.append_assoc, List.append_cancel_left_eq] using hsplit
  · rw [hstart, List.length_append]
    omega

/-- An occurrence stays one with more text in front. -/
theorem append (front : Text) (h : d.OccursFrom (offset + front.length) s span) :
    d.OccursFrom offset (front ++ s) span := by
  obtain ⟨before, back, rfl, hstart, hne, hfree⟩ := h
  refine ⟨front ++ before, back, ?_, ?_, hne, hfree⟩
  · simp only [List.append_assoc]
  · rw [hstart, List.length_append]
    omega

/-- An occurrence stays one with more text behind. -/
theorem append_right (h : d.OccursFrom offset s span) (back : Text) :
    d.OccursFrom offset (s ++ back) span := by
  obtain ⟨front, rest, rfl, hstart, hne, hfree⟩ := h
  exact ⟨front, rest ++ back, List.append_assoc _ _ _, hstart, hne, hfree⟩

/-- A search at the place of an occurrence finds its body. -/
theorem exists_bodyAt? (hbarrier : d.closing.head? = some d.barrier)
    (h : d.OccursFrom offset s span) (hstart : span.start = offset + d.opening.length) :
    ∃ rest, d.bodyAt? s = some (span.text, rest) := by
  obtain ⟨front, back, hsplit, hfront, hne, hfree⟩ := h
  obtain rfl : front = [] := List.length_eq_zero_iff.mp (by omega)
  exact ⟨back, (bodyAt?_eq_some_iff hbarrier).mpr ⟨hsplit, hne, hfree⟩⟩

/-- Where a search finds nothing, no occurrence starts, so that all are those of the tail. -/
theorem tail_of_none (hbarrier : d.closing.head? = some d.barrier) {c : Char}
    (h : d.OccursFrom offset (c :: s) span) (hnone : d.bodyAt? (c :: s) = none) :
    d.OccursFrom (offset + 1) s span := by
  have hne : span.start ≠ offset + d.opening.length := by
    intro heq
    obtain ⟨rest, hbody⟩ := h.exists_bodyAt? hbarrier heq
    rw [hnone] at hbody
    cases hbody
  have hle := h.le_start
  apply of_append [c] h
  rw [List.length_singleton]
  omega

/-- Two occurrences at the same place are the same. -/
theorem eq_of_start_eq (hbarrier : d.closing.head? = some d.barrier) {other : Span}
    (h : d.OccursFrom offset s span) (ho : d.OccursFrom offset s other)
    (heq : span.start = other.start) : span = other := by
  obtain ⟨front, back, hsplit, hstart, -⟩ := id h
  simp only [List.append_assoc] at hsplit
  rw [hsplit] at h ho
  obtain ⟨rest, hbody⟩ := (h.of_append front (by omega)).exists_bodyAt? hbarrier hstart
  obtain ⟨rest', hbody'⟩ := (ho.of_append front (by omega)).exists_bodyAt? hbarrier (by omega)
  rw [hbody] at hbody'
  obtain ⟨htext, -⟩ := Prod.mk.inj (Option.some.inj hbody')
  cases span
  cases other
  rw [Span.mk.injEq]
  exact ⟨heq, htext⟩

end OccursFrom

/-! ### The characters of an occurrence -/

namespace Occurs

variable {s : Text} {span other : Span}

/-- The body of an occurrence starts behind the opening literal. -/
theorem place_add_length (h : d.Occurs s span) : d.place span + d.opening.length = span.start :=
  OccursFrom.place_add_length h

/-- From its place on, an occurrence is an opening literal, a body and a closing literal. -/
theorem exists_drop_eq (h : d.Occurs s span) :
    ∃ back, s.drop (d.place span) = d.opening ++ (span.text ++ (d.closing ++ back)) := by
  have hplace := h.place_add_length
  obtain ⟨front, back, hsplit, hstart, -⟩ := h
  have hfront : d.place span = front.length := by omega
  refine ⟨back, ?_⟩
  rw [hfront, hsplit]
  simp only [List.append_assoc, List.drop_left]

/-- The opening literal stands at the place of an occurrence. -/
theorem getElem?_opening (h : d.Occurs s span) {i : Nat} (hi : i < d.opening.length) :
    s[d.place span + i]? = d.opening[i]? := by
  obtain ⟨back, hdrop⟩ := h.exists_drop_eq
  rw [← List.getElem?_drop, hdrop, List.getElem?_append_left hi]

/-- The body stands where its span says. -/
theorem getElem?_text (h : d.Occurs s span) {i : Nat} (hi : i < span.text.length) :
    s[span.start + i]? = span.text[i]? := by
  obtain ⟨back, hdrop⟩ := h.exists_drop_eq
  rw [← h.place_add_length, Nat.add_assoc, ← List.getElem?_drop, hdrop,
    List.getElem?_append_right (Nat.le_add_right _ _), Nat.add_sub_cancel_left,
    List.getElem?_append_left hi]

/-- The closing literal stands behind the body. -/
theorem getElem?_closing (h : d.Occurs s span) {i : Nat} (hi : i < d.closing.length) :
    s[span.stop + i]? = d.closing[i]? := by
  obtain ⟨back, hdrop⟩ := h.exists_drop_eq
  rw [Span.stop, ← h.place_add_length, Nat.add_assoc, Nat.add_assoc, ← List.getElem?_drop, hdrop,
    List.getElem?_append_right (Nat.le_add_right _ _), Nat.add_sub_cancel_left,
    List.getElem?_append_right (Nat.le_add_right _ _), Nat.add_sub_cancel_left,
    List.getElem?_append_left hi]

/-- The barrier does not stand inside a body. -/
theorem ne_barrier_inside (h : d.Occurs s span) {i : Nat} (hi : span.start ≤ i)
    (hi' : i < span.stop) : s[i]? ≠ some d.barrier := by
  rw [Span.stop] at hi'
  obtain ⟨j, rfl⟩ := Nat.exists_eq_add_of_le hi
  rw [h.getElem?_text (by omega)]
  intro hbarrier
  obtain ⟨front, back, -, -, -, hfree⟩ := h
  exact hfree (List.mem_of_getElem? hbarrier)

/-- Where the closing literal starts with the barrier, the barrier stands behind a body. -/
theorem barrier_behind (hbarrier : d.closing.head? = some d.barrier) (h : d.Occurs s span) :
    s[span.stop]? = some d.barrier := by
  have hpos : 0 < d.closing.length := by
    rw [List.length_pos_iff]
    rintro hnil
    rw [hnil] at hbarrier
    cases hbarrier
  rw [← Nat.add_zero span.stop, h.getElem?_closing hpos, ← List.head?_eq_getElem?, hbarrier]

/-- Of two occurrences, the one that starts later does not end earlier: otherwise the barrier behind
its body would stand inside the body of the other. -/
theorem stop_le_stop (hbarrier : d.closing.head? = some d.barrier) (h : d.Occurs s span)
    (ho : d.Occurs s other) (hle : d.place span ≤ d.place other) : span.stop ≤ other.stop := by
  have hplace := h.place_add_length
  have hplace' := ho.place_add_length
  have hstop : other.start ≤ other.stop := Nat.le_add_right _ _
  apply Nat.le_of_not_lt
  intro hgt
  exact h.ne_barrier_inside (by omega) hgt (ho.barrier_behind hbarrier)

/-- If the opening literal is free of the barrier, an occurrence that starts inside the body of
another ends with it. -/
theorem stop_eq_of_starts_inside (hbarrier : d.closing.head? = some d.barrier)
    (hopening : d.barrier ∉ d.opening) (h : d.Occurs s span) (ho : d.Occurs s other)
    (hle : other.start ≤ d.place span) (hlt : d.place span < other.stop) :
    span.stop = other.stop := by
  have hplace := h.place_add_length
  have hplace' := ho.place_add_length
  apply Nat.le_antisymm
  · -- The barrier behind the other body stands neither in the opening literal nor in the body.
    apply Nat.le_of_not_lt
    intro hgt
    have hbehind := ho.barrier_behind hbarrier
    by_cases hin : other.stop < span.start
    · obtain ⟨i, hi⟩ := Nat.exists_eq_add_of_le (Nat.le_of_lt hlt)
      rw [hi, h.getElem?_opening (by omega)] at hbehind
      exact hopening (List.mem_of_getElem? hbehind)
    · exact h.ne_barrier_inside (Nat.le_of_not_lt hin) hgt hbehind
  · exact ho.stop_le_stop hbarrier h (by omega)

end Occurs

/-! ### The spans of a search -/

/-- A search finds occurrences only. -/
theorem occursFrom_of_mem_spansFrom {offset : Nat} {s : Text} {span : Span}
    (h : span ∈ d.spansFrom offset s) : d.OccursFrom offset s span := exists_of_mem_spansFrom h

/-- What a search finds is in order and has no character in common, the literals included. -/
theorem pairwise_spansFrom (offset : Nat) (s : Text) :
    (d.spansFrom offset s).Pairwise d.Precedes := by
  fun_induction d.spansFrom offset s with
  | case1 offset => exact List.Pairwise.nil
  | case2 offset c s hnone ih => exact ih
  | case3 offset c s body rest hbody ih =>
    refine List.pairwise_cons.mpr ⟨?_, ih⟩
    intro span hspan
    have hle := le_start_of_mem_spansFrom hspan
    rw [Precedes, place, Span.stop]
    simp only
    omega

/-- Any two bodies that a search finds are the same, or one precedes the other. -/
theorem eq_or_precedes_of_mem_spansFrom {offset : Nat} {s : Text} {a b : Span}
    (ha : a ∈ d.spansFrom offset s) (hb : b ∈ d.spansFrom offset s) :
    a = b ∨ d.Precedes a b ∨ d.Precedes b a := by
  have hpairwise := pairwise_spansFrom (d := d) offset s
  refine List.Pairwise.forall_of_forall_of_flip
    (R := fun a b => a = b ∨ d.Precedes a b ∨ d.Precedes b a) ?_ ?_ ?_ ha hb
  · exact fun _ _ => .inl rfl
  · exact hpairwise.imp fun h => .inr (.inl h)
  · exact hpairwise.imp fun h => .inr (.inr h)

/-- An occurrence is found, or it starts inside one that is found, be it in the body or in one of
the literals. -/
theorem mem_or_overlaps_of_occursFrom (hbarrier : d.closing.head? = some d.barrier) {offset : Nat}
    {s : Text} {span : Span} (h : d.OccursFrom offset s span) :
    span ∈ d.spansFrom offset s ∨ ∃ found ∈ d.spansFrom offset s,
      d.place found < d.place span ∧ d.place span < found.stop + d.closing.length := by
  fun_induction d.spansFrom offset s with
  | case1 offset =>
    obtain ⟨front, back, hsplit, -, hne, -⟩ := h
    simp [hne] at hsplit
  | case2 offset c s hnone ih =>
    exact ih (h.tail_of_none hbarrier hnone)
  | case3 offset c s body rest hbody ih =>
    have hplace := h.place_add_length
    have hle := h.le_start
    by_cases hfirst : span.start = offset + d.opening.length
    · obtain ⟨rest', hbody'⟩ := h.exists_bodyAt? hbarrier hfirst
      rw [hbody] at hbody'
      obtain ⟨htext, -⟩ := Prod.mk.inj (Option.some.inj hbody')
      left
      rw [htext, ← hfirst]
      exact List.mem_cons_self
    · by_cases hinside :
        d.place span < offset + d.opening.length + body.length + d.closing.length
      · right
        refine ⟨_, List.mem_cons_self, ?_, hinside⟩
        rw [place]
        simp only
        omega
      · have hsplit := (bodyAt?_eq_some hbody).1
        have hlength : (d.opening ++ body ++ d.closing).length =
            d.opening.length + body.length + d.closing.length := by
          simp only [List.length_append]
        rw [hsplit] at h
        have hrest := h.of_append _ (by omega)
        rw [hlength, ← Nat.add_assoc, ← Nat.add_assoc] at hrest
        rcases ih hrest with hmem | ⟨found, hfound, hover⟩
        · exact .inl (List.mem_cons_of_mem _ hmem)
        · exact .inr ⟨found, List.mem_cons_of_mem _ hfound, hover⟩

/-! ### Taking the leftmost occurrence -/

/-- The bodies that one gets from a text by taking the leftmost occurrence, then the leftmost one in
what stands behind its closing literal, and so on until there is none. -/
inductive Takes (d : Delimiter) : Nat → Text → List Span → Prop
  | done {offset : Nat} {s : Text} (absent : ∀ span, ¬ d.OccursFrom offset s span) :
      Takes d offset s []
  | next {offset : Nat} {s : Text} {span : Span} {spans : List Span}
      (occurs : d.OccursFrom offset s span)
      (leftmost : ∀ other, d.OccursFrom offset s other → span.start ≤ other.start)
      (behind : Takes d (span.stop + d.closing.length)
        (s.drop (span.stop + d.closing.length - offset)) spans) :
      Takes d offset s (span :: spans)

section
variable (hbarrier : d.closing.head? = some d.barrier)

include hbarrier

private theorem Takes.cons {offset : Nat} {c : Char} {s : Text} {spans : List Span}
    (hnone : d.bodyAt? (c :: s) = none) (h : d.Takes (offset + 1) s spans) :
    d.Takes offset (c :: s) spans := by
  cases h with
  | done absent => exact .done fun span hspan => absent span (hspan.tail_of_none hbarrier hnone)
  | @next _ _ span _ occurs leftmost behind =>
    refine .next (OccursFrom.append [c] occurs)
      (fun other hother => leftmost other (hother.tail_of_none hbarrier hnone)) ?_
    have hle := occurs.le_start
    have hdrop : span.stop + d.closing.length - offset =
        span.stop + d.closing.length - (offset + 1) + 1 := by
      rw [Span.stop]
      omega
    rw [hdrop, List.drop_succ_cons]
    exact behind

/-- A search takes leftmost occurrences. -/
theorem takes_spansFrom (offset : Nat) (s : Text) :
    d.Takes offset s (d.spansFrom offset s) := by
  fun_induction d.spansFrom offset s with
  | case1 offset =>
    refine .done ?_
    rintro span ⟨front, back, hsplit, -, hne, -⟩
    simp [hne] at hsplit
  | case2 offset c s hnone ih => exact Takes.cons hbarrier hnone ih
  | case3 offset c s body rest hbody ih =>
    have hsplit := (bodyAt?_eq_some hbody).1
    refine .next ?_ (fun other hother => hother.le_start) ?_
    · apply occursFrom_of_mem_spansFrom
      rw [spansFrom_of_some hbody]
      exact List.mem_cons_self
    · have hdrop : (c :: s).drop (offset + d.opening.length + body.length + d.closing.length -
          offset) = rest := by
        have hlength : offset + d.opening.length + body.length + d.closing.length - offset =
            (d.opening ++ body ++ d.closing).length := by
          simp only [List.length_append]
          omega
        rw [hlength, hsplit, List.drop_left]
      rw [Span.stop]
      simp only
      rw [hdrop]
      exact ih

/-- Taking leftmost occurrences leaves no choice. -/
theorem Takes.unique {offset : Nat} {s : Text} {spans others : List Span}
    (h : d.Takes offset s spans) (ho : d.Takes offset s others) : spans = others := by
  induction h generalizing others with
  | done absent =>
    cases ho with
    | done _ => rfl
    | next occurs _ _ => exact absurd occurs (absent _)
  | next occurs leftmost behind ih =>
    cases ho with
    | done absent => exact absurd occurs (absent _)
    | next occurs' leftmost' behind' =>
      have hstart := Nat.le_antisymm (leftmost _ occurs') (leftmost' _ occurs)
      obtain rfl := occurs.eq_of_start_eq hbarrier occurs' hstart
      rw [ih behind']

/-- What a search finds is what one takes from left to right. -/
theorem takes_iff {offset : Nat} {s : Text} {spans : List Span} :
    d.Takes offset s spans ↔ spans = d.spansFrom offset s := by
  constructor
  · intro h
    exact h.unique hbarrier (takes_spansFrom hbarrier offset s)
  · rintro rfl
    exact takes_spansFrom hbarrier offset s

end

end Delimiter

end TemplateLint
