import TemplateLint.Proofs.Key.Extraction
import TemplateLint.Scan.Line

/-!
# Longer lines

Whatever is found in a line is found, and found first, if more text stands behind the line. Text
behind a line can complete an occurrence that the end of the line cuts short; but no occurrence of
the line itself starts behind the beginning of such a one, since it would have to end later
(`Occurs.stop_le_stop`).
-/

namespace TemplateLint

namespace Delimiter

variable {d : Delimiter}

section
variable (hbarrier : d.closing.head? = some d.barrier)

include hbarrier

/-- Where a text holds an occurrence, a body at its front ends inside the text, whatever stands
behind. -/
theorem exists_bodyAt?_of_append {s t body rest : Text} {span : Span} (h : d.Occurs s span)
    (hbody : d.bodyAt? (s ++ t) = some (body, rest)) : ∃ more, d.bodyAt? s = some (body, more) := by
  obtain ⟨hsplit, hne, hfree⟩ := bodyAt?_eq_some hbody
  have hfirst : d.Occurs (s ++ t) ⟨d.opening.length, body⟩ :=
    ⟨[], rest, hsplit, by simp, hne, hfree⟩
  have hplace : d.place ⟨d.opening.length, body⟩ = 0 := Nat.sub_self _
  have hstop : d.opening.length + body.length ≤ span.stop :=
    hfirst.stop_le_stop hbarrier (OccursFrom.append_right h t) (by omega)
  -- The closing literal of the occurrence stands in the text, so that of the body does.
  have hlength : (d.opening ++ body ++ d.closing).length ≤ s.length := by
    obtain ⟨front, back, rfl, hstart, -⟩ := h
    simp only [Span.stop] at hstop
    simp only [List.length_append]
    omega
  have hfront : d.opening ++ body ++ d.closing <+: s := by
    refine List.prefix_of_prefix_length_le ?_ (List.prefix_append s t) hlength
    rw [hsplit]
    exact List.prefix_append _ rest
  obtain ⟨more, hmore⟩ := hfront
  exact ⟨more, (bodyAt?_eq_some_iff hbarrier).mpr ⟨hmore.symm, hne, hfree⟩⟩

/-- If a body at the front of a text is only found with more text behind it, nothing at all is found
without. -/
theorem spansFrom_eq_nil_of_append {s t : Text} (hnone : d.bodyAt? s = none)
    (hsome : d.bodyAt? (s ++ t) ≠ none) (offset : Nat) : d.spansFrom offset s = [] := by
  apply List.eq_nil_iff_forall_not_mem.mpr
  intro span hspan
  obtain ⟨front, back, hsplit, -, hne, hfree⟩ := occursFrom_of_mem_spansFrom hspan
  have hoccurs : d.Occurs s ⟨front.length + d.opening.length, span.text⟩ :=
    ⟨front, back, hsplit, by simp, hne, hfree⟩
  obtain ⟨⟨body, rest⟩, hbody⟩ := Option.ne_none_iff_exists'.mp hsome
  obtain ⟨more, hmore⟩ := exists_bodyAt?_of_append hbarrier hoccurs hbody
  rw [hnone] at hmore
  cases hmore

/-- What a search finds in a text, it finds first in the text with more behind it. -/
theorem spansFrom_prefix_append (offset : Nat) (s t : Text) :
    d.spansFrom offset s <+: d.spansFrom offset (s ++ t) := by
  fun_induction d.spansFrom offset s with
  | case1 offset => exact List.nil_prefix
  | case2 offset c s hnone ih =>
    by_cases hlonger : d.bodyAt? (c :: s ++ t) = none
    · rw [List.cons_append] at hlonger ⊢
      rw [spansFrom_of_none hlonger]
      exact ih
    · rw [← spansFrom_of_none hnone, spansFrom_eq_nil_of_append hbarrier hnone hlonger]
      exact List.nil_prefix
  | case3 offset c s body rest hbody ih =>
    rw [spansFrom_of_some (bodyAt?_append_of_some hbarrier hbody t), List.cons_prefix_cons]
    exact ⟨rfl, ih⟩

end

end Delimiter

namespace Key

/-- The keys of the calls in a line come first among those of a longer line. -/
theorem digKeys_prefix_append (a b : Text) : digKeys a <+: digKeys (a ++ b) := by
  obtain ⟨more, hmore⟩ := Delimiter.spansFrom_prefix_append (d := digCall) rfl 0 a b
  rw [digKeys_eq_flatMap, digKeys_eq_flatMap, Delimiter.spans, Delimiter.spans, ← hmore,
    List.flatMap_append]
  exact List.prefix_append _ _

/-- The subscripts of a line come first among those of a longer line. -/
theorem subscriptKeys_prefix_append (a b : Text) : subscriptKeys a <+: subscriptKeys (a ++ b) :=
  (Delimiter.spansFrom_prefix_append (d := subscript) rfl 0 a b).map Span.text

end Key

/-- More text behind a line adds keys behind those of its calls and behind its subscripts, and takes
none away. So the violations of the line are among those of the longer line, in order and as often
as before. -/
theorem scanLine_append_keeps (a b : Text) :
    Key.digKeys a <+: Key.digKeys (a ++ b) ∧
    Key.subscriptKeys a <+: Key.subscriptKeys (a ++ b) ∧
    ∀ number, ((scanLine number a).map fun v => (v.key, v.suggestion)).Sublist
      ((scanLine number (a ++ b)).map fun v => (v.key, v.suggestion)) := by
  have hdig := Key.digKeys_prefix_append a b
  have hsubscript := Key.subscriptKeys_prefix_append a b
  refine ⟨hdig, hsubscript, fun number => ?_⟩
  have hcandidates : (Key.candidates a).Sublist (Key.candidates (a ++ b)) :=
    hdig.sublist.append hsubscript.sublist
  rw [map_scanLine Prod.mk, map_scanLine Prod.mk]
  exact (hcandidates.filter _).map _

end TemplateLint
