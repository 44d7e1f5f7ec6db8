import TemplateLint.Proofs.Key.Occurrence

/-!
# Exactly which keys are taken from a line

The calls that dig into the form data, and the subscripts, are found without exception but for
occurrences that start inside one that is found. For a call this is a call among the arguments of
another, and both end with the same parenthesis. For a subscript it is one whose bracket is the last
character of a key, so that the two share a quote.
-/

namespace TemplateLint.Key

/-! ### Calls -/

/-- A call that starts among the arguments of another. -/
def StartsInside (span call : Span) : Prop :=
  call.start ≤ digCall.place span ∧ digCall.place span < call.stop

section
variable {s : Text} {span call other : Span}

private theorem occurs_of_mem_calls (h : call ∈ digCall.spans s) : digCall.Occurs s call :=
  Delimiter.occursFrom_of_mem_spansFrom h

/-- The name of a call starts with a letter that stands nowhere else in it. -/
theorem not_mem_tail_opening : 'f' ∉ digCall.opening.tail := by decide

/-- A call is found, or it starts among the arguments of one that is. -/
theorem mem_or_startsInside (h : digCall.Occurs s span) :
    span ∈ digCall.spans s ∨ ∃ call ∈ digCall.spans s, StartsInside span call := by
  rcases Delimiter.mem_or_overlaps_of_occursFrom rfl h with hmem | ⟨call, hcall, hlt, hlt'⟩
  · exact .inl hmem
  · refine .inr ⟨call, hcall, ?_⟩
    have hoccurs := occurs_of_mem_calls hcall
    have hplace := hoccurs.place_add_length
    have hletter : s[digCall.place span]? = some 'f' := h.getElem?_opening (i := 0) (by decide)
    constructor
    · apply Nat.le_of_not_lt
      intro hbefore
      obtain ⟨i, hi⟩ := Nat.exists_eq_add_of_lt hlt
      rw [hi, Nat.add_assoc, hoccurs.getElem?_opening (by omega), ← List.getElem?_tail] at hletter
      exact not_mem_tail_opening (List.mem_of_getElem? hletter)
    · apply Nat.lt_of_le_of_ne (Nat.le_of_lt_succ hlt')
      intro heq
      rw [heq, hoccurs.barrier_behind rfl] at hletter
      cases hletter

/-- A call that starts among the arguments of another ends with it. -/
theorem StartsInside.stop_eq (h : StartsInside span call) (hspan : digCall.Occurs s span)
    (hcall : digCall.Occurs s call) : span.stop = call.stop :=
  hspan.stop_eq_of_starts_inside rfl (by decide) hcall h.1 h.2

/-- A call starts among the arguments of one found call at most. -/
theorem StartsInside.unique (h : StartsInside span call) (ho : StartsInside span other)
    (hcall : call ∈ digCall.spans s) (hother : other ∈ digCall.spans s) : other = call := by
  have hplace := (occurs_of_mem_calls hcall).place_add_length
  have hplace' := (occurs_of_mem_calls hother).place_add_length
  obtain ⟨hle, hlt⟩ := h
  obtain ⟨hle', hlt'⟩ := ho
  rcases Delimiter.eq_or_precedes_of_mem_spansFrom hother hcall with heq | hprec | hprec
  · exact heq
  · rw [Delimiter.Precedes] at hprec
    omega
  · rw [Delimiter.Precedes] at hprec
    omega

/-- A call that is found starts among the arguments of none that is. -/
theorem not_startsInside_of_mem (hspan : span ∈ digCall.spans s) (hcall : call ∈ digCall.spans s) :
    ¬ StartsInside span call := by
  rintro ⟨hle, hlt⟩
  have hplace := (occurs_of_mem_calls hspan).place_add_length
  have hplace' := (occurs_of_mem_calls hcall).place_add_length
  have hpos : 0 < digCall.opening.length := by decide
  rcases Delimiter.eq_or_precedes_of_mem_spansFrom hspan hcall with rfl | hprec | hprec
  · omega
  · rw [Delimiter.Precedes, Span.stop] at hprec
    omega
  · rw [Delimiter.Precedes] at hprec
    omega

end

/-- The keys of a line are those that its calls hold between quotes, call by call. -/
theorem digKeys_eq_flatMap (line : Text) :
    digKeys line = (digCall.spans line).flatMap fun call =>
      (quoted.spansFrom call.start call.text).map Span.text := by
  rw [digKeys, digSpans, List.map_flatMap]

/-- The calls that are found in a line are in order, have no character in common, and are calls with
arguments up to the first closing parenthesis. Every other such call starts among the arguments of
exactly one of them and ends with it. The keys are taken from the arguments of one call after the
other, each time the leftmost text between quotes that is left; so they are not empty, and free of
quotes and closing parentheses. -/
theorem digKeys_exact (line : Text) :
    let calls := digCall.spans line
    calls.Pairwise digCall.Precedes ∧
    (∀ call ∈ calls, digCall.Occurs line call) ∧
    (∀ span, digCall.Occurs line span →
      (span ∈ calls ∧ ∀ call ∈ calls, ¬ StartsInside span call) ∨
      (span ∉ calls ∧ ∃ call ∈ calls, StartsInside span call ∧ span.stop = call.stop ∧
        ∀ other ∈ calls, StartsInside span other → other = call)) ∧
    (∀ call ∈ calls, ∃ taken, quoted.Takes call.start call.text taken) ∧
    (∀ taken : Span → List Span,
      (∀ call ∈ calls, quoted.Takes call.start call.text (taken call)) →
      digKeys line = calls.flatMap fun call => (taken call).map Span.text) ∧
    (∀ key ∈ digKeys line, key ≠ [] ∧ '\'' ∉ key ∧ ')' ∉ key) := by
  intro calls
  refine ⟨Delimiter.pairwise_spansFrom 0 line, fun call => occurs_of_mem_calls, ?_, ?_, ?_, ?_⟩
  · intro span hspan
    by_cases hmem : span ∈ calls
    · exact .inl ⟨hmem, fun call hcall => not_startsInside_of_mem hmem hcall⟩
    · obtain ⟨call, hcall, hinside⟩ := (mem_or_startsInside hspan).resolve_left hmem
      refine .inr ⟨hmem, call, hcall, hinside, ?_, ?_⟩
      · exact hinside.stop_eq hspan (occurs_of_mem_calls hcall)
      · exact fun other hother ho => hinside.unique ho hcall hother
  · exact fun call _ => ⟨_, Delimiter.takes_spansFrom rfl call.start call.text⟩
  · intro taken htaken
    rw [digKeys_eq_flatMap, List.flatMap_def, List.flatMap_def]
    refine congrArg List.flatten (List.map_congr_left fun call hcall => ?_)
    rw [(Delimiter.takes_iff rfl).mp (htaken call hcall)]
  · intro key hkey
    rw [digKeys_eq_flatMap] at hkey
    obtain ⟨call, hcall, hkey⟩ := List.mem_flatMap.mp hkey
    obtain ⟨span, hspan, rfl⟩ := List.mem_map.mp hkey
    obtain ⟨-, -, -, -, -, hparen⟩ := occurs_of_mem_calls hcall
    obtain ⟨front, back, htext, -, hne, hquote⟩ := Delimiter.occursFrom_of_mem_spansFrom hspan
    have hinside : span.text <:+: call.text := by
      rw [htext, List.append_assoc _ _ back]
      exact List.infix_append _ _ _
    exact ⟨hne, hquote, fun hmem => hparen (hinside.subset hmem)⟩

/-- A call among the arguments of another is passed over, and an empty text between quotes is
skipped by a quote. -/
theorem digKeys_exact_nested :
    digCall.spans "form.data.dig('a', form.data.dig(''b'))".toList =
      [⟨14, "'a', form.data.dig(''b'".toList⟩] ∧
    digCall.Occurs "form.data.dig('a', form.data.dig(''b'))".toList ⟨33, "''b'".toList⟩ ∧
    StartsInside ⟨33, "''b'".toList⟩ ⟨14, "'a', form.data.dig(''b'".toList⟩ ∧
    digKeys "form.data.dig('a', form.data.dig(''b'))".toList = ["a".toList, "b".toList] := by
  have hcalls : digCall.spans "form.data.dig('a', form.data.dig(''b'))".toList =
      [⟨14, "'a', form.data.dig(''b'".toList⟩] := by cbv
  have hinner : digCall.Occurs "form.data.dig('a', form.data.dig(''b'))".toList
      ⟨33, "''b'".toList⟩ :=
    ⟨"form.data.dig('a', ".toList, ")".toList, by decide, by decide, by decide, by decide⟩
  obtain ⟨-, -, hpassed, -, hkeys, -⟩ :=
    digKeys_exact "form.data.dig('a', form.data.dig(''b'))".toList
  rw [hcalls] at hpassed hkeys
  obtain ⟨-, call, hcall, hinside, -⟩ :=
    (hpassed _ hinner).resolve_left (fun h => absurd h.1 (by decide))
  obtain rfl := List.mem_singleton.mp hcall
  refine ⟨hcalls, hinner, hinside, ?_⟩
  rw [hkeys (fun call => quoted.spansFrom call.start call.text)
    (fun call _ => Delimiter.takes_spansFrom rfl _ _)]
  cbv

/-! ### Subscripts -/

section
variable {s : Text} {span found : Span}

private theorem occurs_of_mem_subscriptSpans (h : span ∈ subscriptSpans s) :
    subscript.Occurs s span := Delimiter.occursFrom_of_mem_spansFrom h

/-- The bracket of a subscript is the last character of a key. -/
def EndsWithBracketOf (found span : Span) : Prop :=
  found.text.getLast? = some '[' ∧ subscript.place span + 1 = found.stop

/-- A subscript that is passed over has its bracket at the end of a key that is found. -/
theorem mem_or_endsWithBracketOf (h : subscript.Occurs s span) :
    span ∈ subscriptSpans s ∨ ∃ found ∈ subscriptSpans s, EndsWithBracketOf found span := by
  rcases Delimiter.mem_or_overlaps_of_occursFrom rfl h with hmem | ⟨found, hfound, hlt, hlt'⟩
  · exact .inl hmem
  · refine .inr ⟨found, hfound, ?_⟩
    have hoccurs := occurs_of_mem_subscriptSpans hfound
    have hplace : subscript.place found + 2 = found.start := hoccurs.place_add_length
    have hlt' : subscript.place span < found.stop + 2 := hlt'
    have hbracket : s[subscript.place span]? = some '[' := h.getElem?_opening (i := 0) (by decide)
    have hquote : s[subscript.place span + 1]? = some '\'' :=
      h.getElem?_opening (i := 1) (by decide)
    -- None of the quotes around the key, nor the bracket behind it, is an opening bracket.
    have hne : subscript.place span ≠ subscript.place found + 1 := by
      intro heq
      rw [heq, hoccurs.getElem?_opening (by decide)] at hbracket
      cases hbracket
    have hne' : subscript.place span ≠ found.stop := by
      intro heq
      rw [heq, hoccurs.barrier_behind rfl] at hbracket
      cases hbracket
    have hne'' : subscript.place span ≠ found.stop + 1 := by
      intro heq
      rw [heq, hoccurs.getElem?_closing (by decide)] at hbracket
      cases hbracket
    have hstop : subscript.place span + 1 = found.stop := by
      apply Nat.le_antisymm (by omega)
      apply Nat.le_of_not_lt
      intro hinside
      exact hoccurs.ne_barrier_inside (by omega) hinside hquote
    refine ⟨?_, hstop⟩
    rw [Span.stop] at hstop
    rw [List.getLast?_eq_getElem?, ← hoccurs.getElem?_text (by omega), ← hbracket]
    congr 1
    omega

/-- A subscript that is found has its bracket at the end of no key that is. -/
theorem not_endsWithBracketOf_of_mem (hspan : span ∈ subscriptSpans s)
    (hfound : found ∈ subscriptSpans s) : ¬ EndsWithBracketOf found span := by
  rintro ⟨-, hstop⟩
  have hplace : subscript.place span + 2 = span.start :=
    (occurs_of_mem_subscriptSpans hspan).place_add_length
  have hplace' : subscript.place found + 2 = found.start :=
    (occurs_of_mem_subscriptSpans hfound).place_add_length
  rcases Delimiter.eq_or_precedes_of_mem_spansFrom hspan hfound with rfl | hprec | hprec
  · rw [Span.stop] at hstop
    omega
  · rw [Delimiter.Precedes, Span.stop] at hprec
    rw [Span.stop] at hstop
    omega
  · rw [Delimiter.Precedes] at hprec
    omega

end

/-- No subscript is listed twice. -/
theorem nodup_subscriptSpans (line : Text) : (subscriptSpans line).Nodup := by
  refine (Delimiter.pairwise_spansFrom 0 line).imp_of_mem ?_
  rintro a b ha - hprec rfl
  have hplace := (occurs_of_mem_subscriptSpans ha).place_add_length
  have hpos : 0 < subscript.opening.length := by decide
  rw [Delimiter.Precedes, Span.stop] at hprec
  omega

/-- The subscripts that are found in a line are in order, have no character in common, and hold a
key between quotes. A subscript of the line is among them exactly if its bracket is not the last
character of the key of one of them; so if no key ends with an opening bracket, every subscript is
listed once. -/
theorem subscriptKeys_exact (line : Text) :
    let spans := subscriptSpans line
    subscriptKeys line = spans.map Span.text ∧
    spans.Pairwise subscript.Precedes ∧
    (∀ span ∈ spans, subscript.Occurs line span) ∧
    (∀ span, subscript.Occurs line span →
      (span ∈ spans ↔ ¬ ∃ found ∈ spans, EndsWithBracketOf found span)) ∧
    ((∀ key ∈ subscriptKeys line, key.getLast? ≠ some '[') →
      ∀ span, subscript.Occurs line span → spans.count span = 1) := by
  intro spans
  have hexact : ∀ span, subscript.Occurs line span →
      (span ∈ spans ↔ ¬ ∃ found ∈ spans, EndsWithBracketOf found span) := by
    intro span hspan
    constructor
    · rintro hmem ⟨found, hfound, hends⟩
      exact not_endsWithBracketOf_of_mem hmem hfound hends
    · exact fun hnot => (mem_or_endsWithBracketOf hspan).resolve_right hnot
  refine ⟨rfl, Delimiter.pairwise_spansFrom 0 line, fun span => occurs_of_mem_subscriptSpans,
    hexact, ?_⟩
  intro hkeys span hspan
  apply List.count_eq_one_of_mem (nodup_subscriptSpans line)
  apply (hexact span hspan).mpr
  rintro ⟨found, hfound, hlast, -⟩
  exact hkeys found.text (List.mem_map_of_mem hfound) hlast

/-- A subscript whose bracket ends the key of another is passed over; elsewhere the same key is
listed at each of its places. -/
theorem subscriptKeys_exact_shared_quote :
    subscriptSpans "['a[']x']".toList = [⟨2, "a[".toList⟩] ∧
    subscript.Occurs "['a[']x']".toList ⟨5, "]x".toList⟩ ∧
    EndsWithBracketOf ⟨2, "a[".toList⟩ ⟨5, "]x".toList⟩ ∧
    (subscriptSpans "['aB']['aB']".toList).count ⟨8, "aB".toList⟩ = 1 := by
  have hspans : subscriptSpans "['a[']x']".toList = [⟨2, "a[".toList⟩] := by cbv
  have hpassed : subscript.Occurs "['a[']x']".toList ⟨5, "]x".toList⟩ :=
    ⟨"['a".toList, [], by decide, by decide, by decide, by decide⟩
  have hlisted : subscript.Occurs "['aB']['aB']".toList ⟨8, "aB".toList⟩ :=
    ⟨"['aB']".toList, [], by decide, by decide, by decide, by decide⟩
  have hkeys : subscriptKeys "['aB']['aB']".toList = ["aB".toList, "aB".toList] := by cbv
  refine ⟨hspans, hpassed, ?_, ?_⟩
  · have hexact := (subscriptKeys_exact "['a[']x']".toList).2.2.2.1 _ hpassed
    rw [hspans, iff_not_comm] at hexact
    obtain ⟨found, hfound, hends⟩ := hexact.mpr (by decide)
    obtain rfl := List.mem_singleton.mp hfound
    exact hends
  · refine (subscriptKeys_exact _).2.2.2.2 ?_ _ hlisted
    rw [hkeys]
    decide

end TemplateLint.Key
