import TemplateLint.Proofs.Key.Span

/-!
# Text behind a line

A search for delimited bodies finds the same bodies in a line whatever stands behind it, as long as
that is free of the character with which the closing literal ends: no body can then reach into it,
and none depends on it. For the keys of a line the two characters are the closing parenthesis and
the closing bracket.
-/

namespace TemplateLint

namespace Delimiter

variable {d : Delimiter}

/-- Where the closing literal starts with the barrier, what the search takes for a body is what
stands between the literals. -/
theorem bodyAt?_eq_some_iff (hbarrier : d.closing.head? = some d.barrier) {s body rest : Text} :
    d.bodyAt? s = some (body, rest) ↔
      s = d.opening ++ body ++ d.closing ++ rest ∧ body ≠ [] ∧ d.barrier ∉ body := by
  constructor
  · exact bodyAt?_eq_some
  · rintro ⟨rfl, hne, hfree⟩
    obtain ⟨tail, hclosing⟩ := List.head?_eq_some_iff.mp hbarrier
    have hinside : ∀ c ∈ body, (c != d.barrier) = true := by
      intro c hc
      rw [bne_iff_ne]
      rintro rfl
      exact hfree hc
    have htake : (body ++ (d.closing ++ rest)).takeWhile (· != d.barrier) = body := by
      rw [List.takeWhile_append_of_pos hinside, hclosing]
      simp
    have hdrop : (body ++ (d.closing ++ rest)).dropWhile (· != d.barrier) = d.closing ++ rest := by
      rw [List.dropWhile_append_of_pos hinside, hclosing]
      simp
    have hempty : ¬ body.isEmpty = true := by simpa using hne
    simp only [bodyAt?, List.append_assoc, Text.after?_append, htake, hdrop, if_neg hempty,
      Option.map_some]

/-- A body at the front of a text is there with more text behind it too. -/
theorem bodyAt?_append_of_some (hbarrier : d.closing.head? = some d.barrier) {s body rest : Text}
    (h : d.bodyAt? s = some (body, rest)) (t : Text) :
    d.bodyAt? (s ++ t) = some (body, rest ++ t) := by
  obtain ⟨hsplit, hne, hfree⟩ := bodyAt?_eq_some h
  apply (bodyAt?_eq_some_iff hbarrier).mpr
  refine ⟨?_, hne, hfree⟩
  rw [← List.append_assoc, ← hsplit]

section
variable {last : Char} (hlast : d.closing.getLast? = some last) {t : Text} (ht : last ∉ t)

include hlast ht

private theorem exists_eq_append_of_closing {s front rest : Text}
    (h : s ++ t = front ++ d.closing ++ rest) : ∃ more, s = front ++ d.closing ++ more := by
  rcases List.append_eq_append_iff.mp h with ⟨more, hwhole, hmore⟩ | ⟨more, hwhole, -⟩
  · -- The literal ends with the text or behind it, and then its last character stands in `t`.
    rcases List.eq_nil_or_concat more with rfl | ⟨front', c, rfl⟩
    · rw [List.append_nil] at hwhole
      exact ⟨[], by rw [hwhole, List.append_nil]⟩
    · have hend : (front ++ d.closing).getLast? = some last := by
        rw [List.getLast?_append, hlast, Option.some_or]
      rw [hwhole, List.concat_eq_append, ← List.append_assoc, List.getLast?_concat] at hend
      obtain rfl := Option.some.inj hend
      refine absurd ?_ ht
      rw [hmore, List.concat_eq_append]
      simp
  · exact ⟨more, hwhole⟩

variable (hbarrier : d.closing.head? = some d.barrier)

include hbarrier

/-- The body at the front of a text stays the same with more text behind it. -/
theorem bodyAt?_append (s : Text) :
    d.bodyAt? (s ++ t) = (d.bodyAt? s).map fun found => (found.1, found.2 ++ t) := by
  cases hs : d.bodyAt? s with
  | some found => exact bodyAt?_append_of_some hbarrier hs t
  | none =>
    apply Option.eq_none_iff_forall_ne_some.mpr
    rintro ⟨body, rest⟩ hfound
    obtain ⟨hsplit, hne, hfree⟩ := bodyAt?_eq_some hfound
    obtain ⟨more, hmore⟩ := exists_eq_append_of_closing hlast ht hsplit
    rw [(bodyAt?_eq_some_iff hbarrier).mpr ⟨hmore, hne, hfree⟩] at hs
    cases hs

omit hbarrier in
private theorem spansFrom_eq_nil (offset : Nat) : d.spansFrom offset t = [] := by
  apply List.eq_nil_iff_forall_not_mem.mpr
  intro span hspan
  obtain ⟨front, back, hsplit, -⟩ := exists_of_mem_spansFrom hspan
  refine absurd ?_ ht
  rw [hsplit]
  simp [List.mem_of_getLast? hlast]

/-- The bodies of a text are the same with more text behind it. -/
theorem spansFrom_append (offset : Nat) (s : Text) :
    d.spansFrom offset (s ++ t) = d.spansFrom offset s := by
  fun_induction d.spansFrom offset s with
  | case1 offset => exact spansFrom_eq_nil hlast ht offset
  | case2 offset c s hs ih =>
    have hnone : d.bodyAt? (c :: (s ++ t)) = none := by
      rw [← List.cons_append, bodyAt?_append hlast ht hbarrier, hs, Option.map_none]
    rw [List.cons_append, spansFrom_of_none hnone, ih]
  | case3 offset c s body rest hs ih =>
    have hsome : d.bodyAt? (c :: s ++ t) = some (body, rest ++ t) := by
      rw [bodyAt?_append hlast ht hbarrier, hs, Option.map_some]
    rw [spansFrom_of_some hsome, ih]

end

end Delimiter

namespace Key

/-- The calls of a line are the same with text behind it that closes no parenthesis. -/
theorem digSpans_append {t : Text} (h : ')' ∉ t) (line : Text) :
    digSpans (line ++ t) = digSpans line := by
  unfold digSpans Delimiter.spans
  rw [Delimiter.spansFrom_append (d := digCall) rfl h rfl]

/-- The subscripts of a line are the same with text behind it that closes no bracket. -/
theorem subscriptSpans_append {t : Text} (h : ']' ∉ t) (line : Text) :
    subscriptSpans (line ++ t) = subscriptSpans line := by
  unfold subscriptSpans Delimiter.spans
  rw [Delimiter.spansFrom_append (d := subscript) rfl h rfl]

/-- The keys of a line are the same with text behind it that closes neither. -/
theorem candidates_append {t : Text} (h : ')' ∉ t) (h' : ']' ∉ t) (line : Text) :
    candidates (line ++ t) = candidates line := by
  rw [candidates_eq, candidates_eq, digSpans_append h, subscriptSpans_append h']

end Key

end TemplateLint
