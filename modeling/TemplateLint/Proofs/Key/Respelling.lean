import TemplateLint.Proofs.Key.Cell
import TemplateLint.Proofs.Key.Span
import TemplateLint.Scan.Line

/-!
# Following the suggestions

A line is respelled by putting in place of every camelCase key that it names the suggestion for it.
The respelled line names the same keys in the same order, the camelCase ones respelled, so that a
scan finds nothing in it any more. The one condition is that no camelCase key holds an opening
parenthesis: such a key may turn into the start of a call.

The line and its respelling are laid out in cells. A search finds the same cells in both as long as
its opening literal is found in both (`Opens`). Literals of marks always are. The name of a call is
no literal of marks, but it ends with a parenthesis, and a respelled key is free of these and
enclosed by quotes (`IsCalm`).
-/

namespace TemplateLint.Key

open Cell (before after)

/-- The places of the camelCase keys that a line names. -/
def camelSpans (line : Text) : List Span :=
  (digSpans line ++ subscriptSpans line).filter fun span => isCamelCase span.text

/-- A text that starts at a place of a line, with the suggestion in place of each of some spans. -/
def respellFrom (spans : List Span) (offset : Nat) (s : Text) : Text :=
  match s with
  | [] => []
  | c :: t =>
    match spans.find? fun span => span.start == offset with
    | none => c :: respellFrom spans (offset + 1) t
    | some span =>
      suggestion span.text ++ respellFrom spans span.stop (t.drop (span.text.length - 1))
termination_by s.length
decreasing_by
  · exact Nat.lt_succ_self _
  · simp only [List.length_drop, List.length_cons]
    omega

/-- A line with the suggestion in place of every camelCase key that it names. -/
def respell (line : Text) : Text := respellFrom (camelSpans line) 0 line

/-! ### A search before and after -/

/-- An opening literal is found at the front of a cell after if and only if it is before, and never
inside a cell. -/
def Opens (d : Delimiter) (cells : List Cell) : Prop :=
  ∀ p rest, (p :: rest) <:+ cells →
    Text.after? d.opening (after (p :: rest)) =
      (Text.after? d.opening (before (p :: rest))).map
        (fun _ => after ((p :: rest).drop d.opening.length)) ∧
    ∀ front back, p.text = front ++ back → front ≠ [] → back ≠ [] →
      Text.after? d.opening (back ++ after rest) = none

private theorem Opens.of_suffix {d : Delimiter} {cells others : List Cell} (h : Opens d cells)
    (hs : others <:+ cells) : Opens d others :=
  fun p rest hr => h p rest (hr.trans hs)

section
variable {d : Delimiter} (hbarrier : isMark d.barrier = true)
  (hclosing : d.closing.all isMark = true)

include hbarrier hclosing

/-- If the opening literal is found in both, the same cells are the body and the rest in both. -/
theorem bodyAt?_after {cells : List Cell}
    (hopen : Text.after? d.opening (after cells) =
      (Text.after? d.opening (before cells)).map fun _ => after (cells.drop d.opening.length)) :
    d.bodyAt? (after cells) =
      (d.bodyAt? (before cells)).map fun found =>
        (after ((cells.drop d.opening.length).take found.1.length),
          after (cells.drop (d.opening.length + found.1.length + d.closing.length))) := by
  unfold Delimiter.bodyAt?
  rw [hopen]
  cases h : Text.after? d.opening (before cells) with
  | none => rfl
  | some t =>
    obtain rfl := Cell.eq_before_of_after? h
    simp only [Option.map_some, Nat.add_assoc, ← List.drop_drop]
    generalize cells.drop d.opening.length = rest
    have htake : (before rest).takeWhile (· != d.barrier) =
        before (rest.takeWhile (·.char != d.barrier)) := List.takeWhile_map
    have hdrop : (before rest).dropWhile (· != d.barrier) =
        before (rest.dropWhile (·.char != d.barrier)) := List.dropWhile_map
    rw [Cell.takeWhile_after hbarrier, Cell.dropWhile_after hbarrier, htake, hdrop,
      Cell.after?_after (List.all_eq_true.mp hclosing)]
    have hsplit := List.takeWhile_append_dropWhile (p := fun p : Cell => p.char != d.barrier)
      (l := rest)
    generalize rest.takeWhile (·.char != d.barrier) = inside at hsplit ⊢
    generalize rest.dropWhile (·.char != d.barrier) = outside at hsplit ⊢
    subst hsplit
    cases inside with
    | nil => rfl
    | cons p inside =>
      have hne : after (p :: inside) ≠ [] := by simp [Cell.after_eq_nil_iff]
      rw [if_neg (by simpa using hne), if_neg (by simp [Cell.before_cons])]
      cases Text.after? d.closing (before outside) with
      | none => rfl
      | some tail =>
        simp only [Option.map_some, Cell.length_before, List.take_left, List.drop_left]

/-- The bodies found after are what stands in the place of the bodies found before. -/
theorem map_text_spansFrom_after {cells : List Cell} (hopens : Opens d cells)
    (offset other : Nat) :
    (d.spansFrom other (after cells)).map Span.text =
      (d.spansFrom offset (before cells)).map fun span =>
        after ((cells.drop (span.start - offset)).take span.text.length) := by
  -- The search moves on by a cell or by a body, so the induction is on the number of cells left.
  generalize hn : cells.length = n
  induction n using Nat.strongRecOn generalizing cells offset other with
  | ind n ih =>
    cases cells with
    | nil => rw [show before [] = [] from rfl, show after [] = [] from rfl,
        Delimiter.spansFrom_nil, Delimiter.spansFrom_nil, List.map_nil, List.map_nil]
    | cons p rest =>
      obtain ⟨hopen, hinside⟩ := hopens p rest List.suffix_rfl
      have hbody := bodyAt?_after hbarrier hclosing hopen
      cases hfound : d.bodyAt? (before (p :: rest)) with
      | none =>
        rw [hfound, Option.map_none] at hbody
        have hskip : ∀ x y, p.text = x ++ y → y ≠ [] → d.bodyAt? (y ++ after rest) = none := by
          intro x y hxy hy
          cases x with
          | nil =>
            rw [List.nil_append] at hxy
            rw [← hxy]
            exact hbody
          | cons c x =>
            rw [Delimiter.bodyAt?, hinside (c :: x) y hxy (List.cons_ne_nil _ _) hy]
        rw [Cell.after_cons, Delimiter.map_text_spansFrom_skip other other hskip,
          ih rest.length (by rw [← hn]; exact Nat.lt_succ_self _)
            (hopens.of_suffix (List.suffix_cons p rest)) (offset + 1) other rfl]
        rw [Cell.before_cons] at hfound ⊢
        rw [Delimiter.spansFrom_of_none hfound]
        apply List.map_congr_left
        intro span hspan
        have hstart := Delimiter.le_start_of_mem_spansFrom hspan
        rw [show span.start - offset = span.start - (offset + 1) + 1 by omega, List.drop_succ_cons]
      | some found =>
        obtain ⟨body, tail⟩ := found
        rw [hfound, Option.map_some] at hbody
        rw [Delimiter.spansFrom_of_some hbody, Delimiter.spansFrom_of_some hfound, List.map_cons,
          List.map_cons, Nat.add_sub_cancel_left]
        congr 1
        have hcells := (Delimiter.bodyAt?_eq_some hfound).1
        have hlength : (d.opening ++ body ++ d.closing).length =
            d.opening.length + body.length + d.closing.length := by
          simp only [List.length_append]
        have htail : tail =
            before ((p :: rest).drop (d.opening.length + body.length + d.closing.length)) := by
          rw [Cell.before_drop, hcells, ← hlength, List.drop_left]
        have hlt := Delimiter.length_lt_of_bodyAt? hfound
        rw [htail, Cell.length_before, Cell.length_before, hn] at hlt
        rw [htail, ih _ hlt (hopens.of_suffix (List.drop_suffix _ _))
          (offset + d.opening.length + body.length + d.closing.length) _ rfl]
        apply List.map_congr_left
        intro span hspan
        have hstart := Delimiter.le_start_of_mem_spansFrom hspan
        rw [List.drop_drop]
        congr 3
        omega

end

/-! ### Opening literals before and after -/

private theorem isMark_eq_false_of_split {p : Cell} {front back : Text}
    (h : p.text = front ++ back) (hf : front ≠ []) (hb : back ≠ []) : isMark p.char = false := by
  cases hp : isMark p.char with
  | false => rfl
  | true =>
    have hl := congrArg List.length (h.symm.trans (p.mark hp))
    rw [List.length_append, List.length_singleton] at hl
    have hf' := List.length_pos_iff.mpr hf
    have hb' := List.length_pos_iff.mpr hb
    omega

/-- A literal of marks is found in both. -/
theorem opens_of_isMark {d : Delimiter} (hne : d.opening ≠ [])
    (hmarks : d.opening.all isMark = true) (cells : List Cell) : Opens d cells := by
  have hopening := List.all_eq_true.mp hmarks
  intro p rest _
  refine ⟨Cell.after?_after hopening (p :: rest), ?_⟩
  intro front back htext hf hb
  have hp := isMark_eq_false_of_split htext hf hb
  obtain ⟨m, literal, hl⟩ := List.exists_cons_of_ne_nil hne
  obtain ⟨c, t, rfl⟩ := List.exists_cons_of_ne_nil hb
  have hm : isMark m = true := hopening m (hl ▸ List.mem_cons_self)
  have hc : isMark c = false := (p.plain hp).2 c (by simp [htext])
  have hmc : m ≠ c := by
    rintro rfl
    rw [hm] at hc
    cases hc
  rw [hl, List.cons_append, Text.after?, if_neg hmc]

/-- Characters stay where an opening parenthesis follows before the next quote. -/
def IsCalm (cells : List Cell) : Prop :=
  ∀ p rest, (p :: rest) <:+ cells → '(' ∈ (before rest).takeWhile (· != '\'') → p.text = [p.char]

private theorem IsCalm.of_suffix {cells others : List Cell} (h : IsCalm cells)
    (hs : others <:+ cells) : IsCalm others :=
  fun p rest hr => h p rest (hr.trans hs)

private theorem mem_takeWhile_of_after? {literal s t : Text} (hl : '\'' ∉ literal)
    (h : Text.after? (literal ++ ['(']) s = some t) : '(' ∈ s.takeWhile (· != '\'') := by
  have hall : ∀ c ∈ literal, (c != '\'') = true := by
    intro c hc
    rw [bne_iff_ne]
    rintro rfl
    exact hl hc
  rw [Text.after?_eq_some_iff.mp h, List.append_assoc, List.takeWhile_append_of_pos hall]
  simp

private theorem mem_before_of_mem_after {cells : List Cell}
    (h : '(' ∈ (after cells).takeWhile (· != '\'')) :
    '(' ∈ (before cells).takeWhile (· != '\'') := by
  rw [Cell.takeWhile_after (by decide)] at h
  obtain ⟨p, hp, hc⟩ := List.mem_flatMap.mp h
  have hchar : p.char = '(' := (Cell.text_eq_of_mem (by decide) hc).1
  have htake : (before cells).takeWhile (· != '\'') =
      before (cells.takeWhile (·.char != '\'')) := List.takeWhile_map
  rw [htake, ← hchar]
  exact List.mem_map_of_mem hp

-- A name that is found from inside a cell on reaches a parenthesis before the next quote.
private theorem text_eq_of_after?_inside {p : Cell} {rest : List Cell} (hcalm : IsCalm (p :: rest))
    (hp : isMark p.char = false) {literal back t : Text} (hl : '\'' ∉ literal)
    (hback : ∀ c ∈ back, c ∈ p.text)
    (h : Text.after? (literal ++ ['(']) (back ++ after rest) = some t) : p.text = [p.char] := by
  have hplain : ∀ c ∈ back, isMark c = false := fun c hc => (p.plain hp).2 c (hback c hc)
  have hall : ∀ c ∈ back, (c != '\'') = true := by
    intro c hc
    rw [bne_iff_ne]
    rintro rfl
    exact absurd (hplain _ hc) (by decide)
  have hmem := mem_takeWhile_of_after? hl h
  rw [List.takeWhile_append_of_pos hall, List.mem_append] at hmem
  rcases hmem with hmem | hmem
  · exact absurd (hplain _ hmem) (by decide)
  · exact hcalm p rest List.suffix_rfl (mem_before_of_mem_after hmem)

-- The induction is on the name: while cells stay, both texts are read alike, and a cell that does
-- not stay ends the reading in both.
private theorem after?_name {literal : Text} (hl : '\'' ∉ literal) {cells : List Cell}
    (hcalm : IsCalm cells) :
    Text.after? (literal ++ ['(']) (after cells) =
      (Text.after? (literal ++ ['(']) (before cells)).map
        fun _ => after (cells.drop (literal ++ ['(']).length) := by
  induction literal generalizing cells with
  | nil => exact Cell.after?_after (List.all_eq_true.mp rfl) cells
  | cons a literal ih =>
    cases cells with
    | nil => rfl
    | cons p rest =>
      have hl' : '\'' ∉ literal := List.not_mem_of_not_mem_cons hl
      by_cases hstay : p.text = [p.char]
      · rw [Cell.after_cons, hstay, Cell.before_cons]
        simp only [List.cons_append, List.nil_append, Text.after?, List.length_cons,
          List.drop_succ_cons]
        split
        · exact ih hl' (hcalm.of_suffix (List.suffix_cons p rest))
        · rfl
      · have hp : isMark p.char = false := by
          cases hp : isMark p.char with
          | false => rfl
          | true => exact absurd (p.mark hp) hstay
        have hnone : Text.after? (a :: literal ++ ['(']) (after (p :: rest)) = none := by
          rw [Option.eq_none_iff_forall_ne_some]
          intro t ht
          exact hstay (text_eq_of_after?_inside hcalm hp hl (fun _ hc => hc) ht)
        have hnone' : Text.after? (a :: literal ++ ['(']) (before (p :: rest)) = none := by
          rw [Option.eq_none_iff_forall_ne_some]
          intro t ht
          rw [Cell.before_cons, List.cons_append, Text.after?] at ht
          split at ht
          · exact hstay (hcalm p rest List.suffix_rfl (mem_takeWhile_of_after? hl' ht))
          · cases ht
        rw [hnone, hnone', Option.map_none]

private def callName : Text := "form.data.dig".toList

private theorem digCall_opening : digCall.opening = callName ++ ['('] := rfl

/-- The name of a call is found in both where characters stay before a parenthesis. -/
theorem opens_digCall {cells : List Cell} (hcalm : IsCalm cells) : Opens digCall cells := by
  intro p rest hs
  have hcalm' := hcalm.of_suffix hs
  have hl : '\'' ∉ callName := by decide
  refine ⟨after?_name hl hcalm', ?_⟩
  intro front back htext hf hb
  have hp := isMark_eq_false_of_split htext hf hb
  rw [Option.eq_none_iff_forall_ne_some]
  intro t ht
  have hback : ∀ c ∈ back, c ∈ p.text := fun c hc => htext ▸ List.mem_append_right _ hc
  have hstay := text_eq_of_after?_inside hcalm' hp hl hback (digCall_opening ▸ ht)
  have hlength := congrArg List.length (htext.symm.trans hstay)
  rw [List.length_append, List.length_singleton] at hlength
  have hf' := List.length_pos_iff.mpr hf
  have hb' := List.length_pos_iff.mpr hb
  omega

/-! ### Keys before and after -/

/-- What stands in the place of a span. -/
def inPlaceOf (cells : List Cell) (span : Span) : Text :=
  after ((cells.drop span.start).take span.text.length)

/-- The subscripts after are what stands in the place of the subscripts before. -/
theorem subscriptKeys_after (cells : List Cell) :
    subscriptKeys (after cells) = (subscriptSpans (before cells)).map (inPlaceOf cells) := by
  have hopens : Opens subscript cells := opens_of_isMark (by decide) (by decide) cells
  exact map_text_spansFrom_after (by decide) (by decide) hopens 0 0

private theorem map_text_quoted_inPlaceOf {cells : List Cell} {call : Span}
    (h : call ∈ digCall.spans (before cells)) :
    (quoted.spansFrom 0 (inPlaceOf cells call)).map Span.text =
      (quoted.spansFrom call.start call.text).map (inPlaceOf cells) := by
  have htext : before ((cells.drop call.start).take call.text.length) = call.text := by
    rw [Cell.before_take, Cell.before_drop]
    exact Delimiter.take_drop_of_mem_spansFrom h
  have hopens : Opens quoted ((cells.drop call.start).take call.text.length) :=
    opens_of_isMark (by decide) (by decide) _
  rw [inPlaceOf, map_text_spansFrom_after (by decide) (by decide) hopens call.start 0, htext]
  apply List.map_congr_left
  intro span hspan
  have hstart := Delimiter.le_start_of_mem_spansFrom hspan
  have hstop := Delimiter.stop_le_of_mem_spansFrom hspan
  rw [Span.stop] at hstop
  rw [inPlaceOf, List.drop_take, List.drop_drop, List.take_take, Nat.min_eq_left (by omega),
    Nat.add_sub_cancel' (by omega)]

/-- The keys of calls after are what stands in the place of the keys of calls before. -/
theorem digKeys_after {cells : List Cell} (hcalm : IsCalm cells) :
    digKeys (after cells) = (digSpans (before cells)).map (inPlaceOf cells) := by
  have hcalls : (digCall.spans (after cells)).map Span.text =
      (digCall.spans (before cells)).map (inPlaceOf cells) :=
    map_text_spansFrom_after (by decide) (by decide) (opens_digCall hcalm) 0 0
  calc digKeys (after cells)
      = ((digCall.spans (after cells)).map Span.text).flatMap
          fun body => (quoted.spansFrom 0 body).map Span.text := by
        rw [digKeys, digSpans, List.map_flatMap, List.flatMap_map]
        simp only [fun call : Span => Delimiter.map_text_spansFrom (d := quoted) call.start 0]
    _ = (digCall.spans (before cells)).flatMap
          fun call => (quoted.spansFrom 0 (inPlaceOf cells call)).map Span.text := by
        rw [hcalls, List.flatMap_map]
    _ = (digCall.spans (before cells)).flatMap
          fun call => (quoted.spansFrom call.start call.text).map (inPlaceOf cells) := by
        rw [List.flatMap_def, List.flatMap_def]
        exact congrArg List.flatten (List.map_congr_left fun _ h => map_text_quoted_inPlaceOf h)
    _ = (digSpans (before cells)).map (inPlaceOf cells) := by
        rw [digSpans, List.map_flatMap]

/-! ### The cells of a respelled line -/

/-- Cells that respell some spans of a line, laid out over the line from an offset on. -/
structure Respells (spans : List Span) (line : Text) (offset : Nat) (cells : List Cell) : Prop where
  before_eq : before cells = line.drop offset
  after_eq : after cells = respellFrom spans offset (line.drop offset)
  /-- the suggestion stands in the place of a span -/
  swapped : ∀ span ∈ spans, offset ≤ span.start →
    after ((cells.drop (span.start - offset)).take span.text.length) = suggestion span.text
  /-- a character outside the spans stays -/
  kept : ∀ i p, cells[i]? = some p →
    (∀ span ∈ spans, offset + i < span.start ∨ span.stop ≤ offset + i) → p.text = [p.char]

private theorem stop_le_length {line : Text} {span : Span} (h : IsQuotedRun line span) :
    span.start < span.stop ∧ span.stop < line.length := by
  obtain ⟨hlt, -⟩ := List.getElem?_eq_some_iff.mp h.getElem?_behind
  have hpos := List.length_pos_iff.mpr h.1
  exact ⟨by rw [Span.stop]; omega, hlt⟩

private theorem respells_nil {spans : List Span} {line : Text} {offset : Nat}
    (hruns : ∀ span ∈ spans, IsQuotedRun line span) (hs : line.drop offset = []) :
    Respells spans line offset [] where
  before_eq := hs.symm
  after_eq := by
    rw [hs, respellFrom]
    rfl
  swapped span hspan hstart := by
    have hstop := stop_le_length (hruns span hspan)
    have hle := List.drop_eq_nil_iff.mp hs
    omega
  kept i p hp := by simp at hp

-- Where no span starts, the character stays.
private theorem Respells.cons_keep {spans : List Span} {line : Text} {offset : Nat} {c : Char}
    {t : Text} {cells : List Cell} (hs : line.drop offset = c :: t)
    (hfind : (spans.find? fun span => span.start == offset) = none)
    (h : Respells spans line (offset + 1) cells) :
    Respells spans line offset (Cell.keep c :: cells) := by
  have ht : line.drop (offset + 1) = t := by
    rw [← List.drop_drop, hs, List.drop_succ_cons, List.drop_zero]
  have hnot : ∀ span ∈ spans, span.start ≠ offset := by simpa using hfind
  refine ⟨?_, ?_, ?_, ?_⟩
  · rw [Cell.before_cons, h.before_eq, ht, hs]
    rfl
  · rw [Cell.after_cons, h.after_eq, ht, hs, respellFrom, hfind]
    rfl
  · intro span hspan hstart
    have hne := hnot span hspan
    rw [show span.start - offset = span.start - (offset + 1) + 1 by omega, List.drop_succ_cons]
    exact h.swapped span hspan (by omega)
  · intro i p hp hout
    cases i with
    | zero =>
      obtain rfl : Cell.keep c = p := Option.some.inj hp
      rfl
    | succ i =>
      refine h.kept i p hp fun span hspan => ?_
      have hi := hout span hspan
      omega

-- Where a span starts, the suggestion is laid out over its key.
private theorem Respells.append_swap {spans : List Span} {line : Text} {found : Span}
    {key cells : List Cell} (hruns : ∀ span ∈ spans, IsQuotedRun line span)
    (hfind : (spans.find? fun span => span.start == found.start) = some found)
    (hbefore : before key = found.text) (hafter : after key = suggestion found.text)
    (h : Respells spans line found.stop cells) :
    Respells spans line found.start (key ++ cells) := by
  have hfound := hruns found (List.mem_of_find?_eq_some hfind)
  have hlength : found.text.length = key.length := by rw [← hbefore, Cell.length_before]
  have hstop : found.stop = found.start + key.length := by rw [Span.stop, hlength]
  obtain ⟨back, hdrop⟩ := hfound.exists_drop_eq
  have hdrop' : line.drop found.stop = '\'' :: back := by
    rw [Span.stop, ← List.drop_drop, hdrop, List.drop_left]
  refine ⟨?_, ?_, ?_, ?_⟩
  · rw [Cell.before_append, hbefore, h.before_eq, hdrop, hdrop']
  · obtain ⟨c, t, htext⟩ := List.exists_cons_of_ne_nil hfound.1
    have hunfold : respellFrom spans found.start (c :: (t ++ '\'' :: back)) =
        suggestion found.text ++
          respellFrom spans found.stop ((t ++ '\'' :: back).drop (found.text.length - 1)) := by
      rw [respellFrom, hfind]
    have hlength' : found.text.length - 1 = t.length := by rw [htext, List.length_cons]; rfl
    rw [hlength', List.drop_left] at hunfold
    rw [Cell.after_append, hafter, h.after_eq, hdrop', hdrop, htext, List.cons_append, hunfold,
      htext]
  · intro span hspan hstart
    rcases hfound.eq_or_disjoint (hruns span hspan) with rfl | hle | hle
    · rw [Nat.sub_self, List.drop_zero, hlength, List.take_left, hafter]
    · rw [show span.start - found.start = key.length + (span.start - found.stop) by omega,
        List.drop_append, List.drop_of_length_le (Nat.le_add_right _ _), List.nil_append,
        Nat.add_sub_cancel_left]
      exact h.swapped span hspan hle
    · have hpos := stop_le_length (hruns span hspan)
      omega
  · intro i p hp hout
    have hi := hout found (List.mem_of_find?_eq_some hfind)
    have hle : key.length ≤ i := by omega
    rw [List.getElem?_append_right hle] at hp
    refine h.kept _ p hp fun span hspan => ?_
    have hj := hout span hspan
    omega

/-- Any quoted runs of a line can be respelled, from any place on that is not inside one of them. -/
theorem exists_respells {spans : List Span} {line : Text}
    (hruns : ∀ span ∈ spans, IsQuotedRun line span) (offset : Nat)
    (houtside : ∀ span ∈ spans, span.stop ≤ offset ∨ offset ≤ span.start) :
    ∃ cells, Respells spans line offset cells := by
  generalize hn : (line.drop offset).length = n
  induction n using Nat.strongRecOn generalizing offset with
  | ind n ih =>
    cases hs : line.drop offset with
    | nil => exact ⟨[], respells_nil hruns hs⟩
    | cons c t =>
      have hlength := congrArg List.length hs
      rw [List.length_drop, List.length_cons] at hlength
      cases hfind : spans.find? fun span => span.start == offset with
      | none =>
        have hnot : ∀ span ∈ spans, span.start ≠ offset := by simpa using hfind
        have hnext : ∀ span ∈ spans, span.stop ≤ offset + 1 ∨ offset + 1 ≤ span.start := by
          intro span hspan
          have hne := hnot span hspan
          have hout := houtside span hspan
          omega
        obtain ⟨cells, hcells⟩ := ih (line.drop (offset + 1)).length
          (by rw [← hn, List.length_drop, List.length_drop]; omega) (offset + 1) hnext rfl
        exact ⟨_, hcells.cons_keep hs hfind⟩
      | some found =>
        have hfound := hruns found (List.mem_of_find?_eq_some hfind)
        have hpos := stop_le_length hfound
        obtain rfl : found.start = offset := by simpa using List.find?_some hfind
        have hnext : ∀ span ∈ spans, span.stop ≤ found.stop ∨ found.stop ≤ span.start := by
          intro span hspan
          rcases hfound.eq_or_disjoint (hruns span hspan) with rfl | hle | hle
          · exact .inl (Nat.le_refl _)
          · exact .inr hle
          · exact .inl (by omega)
        obtain ⟨cells, hcells⟩ := ih (line.drop found.stop).length
          (by rw [← hn, List.length_drop, List.length_drop]; omega) found.stop hnext rfl
        obtain ⟨key, hbefore, hafter⟩ := Cell.exists_cells_suggestion found.text
        exact ⟨_, hcells.append_swap hruns hfind hbefore hafter⟩

/-! ### Keys of the respelled line -/

private theorem mem_camelSpans {line : Text} {span : Span} :
    span ∈ camelSpans line ↔
      span ∈ digSpans line ++ subscriptSpans line ∧ isCamelCase span.text = true := List.mem_filter

-- A character of a span is followed by the rest of its key and then by a quote.
private theorem mem_text_of_mem_takeWhile {line : Text} {span : Span} (h : IsQuotedRun line span)
    {i : Nat} (hi : span.start ≤ i) (hi' : i < span.stop)
    (hmem : '(' ∈ (line.drop (i + 1)).takeWhile (· != '\'')) : '(' ∈ span.text := by
  obtain ⟨back, hdrop⟩ := h.exists_drop_eq
  rw [Span.stop] at hi'
  have hle : i + 1 - span.start ≤ span.text.length := by omega
  have hrest : line.drop (i + 1) = span.text.drop (i + 1 - span.start) ++ '\'' :: back := by
    rw [← List.drop_append_of_le_length hle, ← hdrop, List.drop_drop,
      Nat.add_sub_cancel' (by omega)]
  have hall : ∀ c ∈ span.text.drop (i + 1 - span.start), (c != '\'') = true := by
    intro c hc
    rw [bne_iff_ne]
    rintro rfl
    exact h.2.1 (List.mem_of_mem_drop hc)
  rw [hrest, List.takeWhile_append_of_pos hall] at hmem
  exact List.mem_of_mem_drop (by simpa using hmem)

private theorem Respells.isCalm {spans : List Span} {line : Text} {cells : List Cell}
    (h : Respells spans line 0 cells) (hruns : ∀ span ∈ spans, IsQuotedRun line span)
    (hparen : ∀ span ∈ spans, '(' ∉ span.text) : IsCalm cells := by
  rintro p rest ⟨front, hcells⟩ hmem
  have hp : cells[front.length]? = some p := by rw [← hcells]; simp
  have hrest : before rest = line.drop (front.length + 1) := by
    have hline : before cells = line := h.before_eq
    rw [← hline, ← hcells, ← Cell.before_drop]
    simp
  rw [hrest] at hmem
  refine h.kept front.length p hp fun span hspan => ?_
  rw [Nat.zero_add]
  by_cases hlt : front.length < span.start
  · exact .inl hlt
  · refine .inr (Nat.le_of_not_lt fun hstop => ?_)
    exact hparen span hspan
      (mem_text_of_mem_takeWhile (hruns span hspan) (Nat.le_of_not_lt hlt) hstop hmem)

-- A span that is not camelCase has no place in common with the camelCase ones.
private theorem Respells.inPlaceOf_plain {line : Text} {cells : List Cell} {span : Span}
    (h : Respells (camelSpans line) line 0 cells)
    (hspan : span ∈ digSpans line ++ subscriptSpans line) (hplain : isCamelCase span.text = false) :
    inPlaceOf cells span = span.text := by
  have hstay : ∀ p ∈ (cells.drop span.start).take span.text.length, p.text = [p.char] := by
    intro p hp
    obtain ⟨i, hi⟩ := List.mem_iff_getElem?.mp hp
    rw [List.getElem?_take, List.getElem?_drop] at hi
    obtain ⟨hlt, hi⟩ := Option.ite_none_right_eq_some.mp hi
    refine h.kept (span.start + i) p hi fun other hother => ?_
    obtain ⟨hother, hcamel⟩ := mem_camelSpans.mp hother
    have hrun := isQuotedRun_of_mem_spans hspan
    have hne : span ≠ other := by
      rintro rfl
      rw [hplain] at hcamel
      cases hcamel
    have hapart := (hrun.eq_or_disjoint (isQuotedRun_of_mem_spans hother)).resolve_left hne
    rw [Span.stop] at hapart
    omega
  have htext : before ((cells.drop span.start).take span.text.length) = span.text := by
    obtain ⟨back, hdrop⟩ := (isQuotedRun_of_mem_spans hspan).exists_drop_eq
    have hline : before cells = line := h.before_eq
    rw [Cell.before_take, Cell.before_drop, hline, hdrop, List.take_left]
  rw [inPlaceOf, Cell.after_eq_before hstay, htext]

private theorem Respells.inPlaceOf_eq {line : Text} {cells : List Cell} {span : Span}
    (h : Respells (camelSpans line) line 0 cells)
    (hspan : span ∈ digSpans line ++ subscriptSpans line) :
    inPlaceOf cells span =
      if isCamelCase span.text then suggestion span.text else span.text := by
  cases hcamel : isCamelCase span.text with
  | true => exact h.swapped span (mem_camelSpans.mpr ⟨hspan, hcamel⟩) (Nat.zero_le _)
  | false => exact h.inPlaceOf_plain hspan hcamel

/-- The respelled line names the same keys in the same order, the camelCase ones respelled. -/
theorem candidates_respell {line : Text}
    (hparen : ∀ key ∈ candidates line, isCamelCase key = true → '(' ∉ key) :
    candidates (respell line) =
      (candidates line).map fun key => if isCamelCase key then suggestion key else key := by
  have hruns : ∀ span ∈ camelSpans line, IsQuotedRun line span := fun span hspan =>
    isQuotedRun_of_mem_spans (mem_camelSpans.mp hspan).1
  have hparen' : ∀ span ∈ camelSpans line, '(' ∉ span.text := by
    intro span hspan
    obtain ⟨hspan, hcamel⟩ := mem_camelSpans.mp hspan
    exact hparen span.text (candidates_eq line ▸ List.mem_map_of_mem hspan) hcamel
  obtain ⟨cells, h⟩ := exists_respells hruns 0 fun _ _ => .inr (Nat.zero_le _)
  have hbefore : before cells = line := h.before_eq
  have hafter : after cells = respell line := h.after_eq
  calc candidates (respell line)
      = (digSpans line ++ subscriptSpans line).map (inPlaceOf cells) := by
        rw [candidates, ← hafter, digKeys_after (h.isCalm hruns hparen'), subscriptKeys_after,
          hbefore, List.map_append]
    _ = (candidates line).map fun key => if isCamelCase key then suggestion key else key := by
        rw [candidates_eq, List.map_map]
        exact List.map_congr_left fun _ hspan => h.inPlaceOf_eq hspan

private theorem filter_isCamelCase_map (keys : List Text) :
    (keys.map fun key => if isCamelCase key then suggestion key else key).filter isCamelCase =
      [] := by
  rw [List.filter_eq_nil_iff]
  intro key hkey
  obtain ⟨old, -, rfl⟩ := List.mem_map.mp hkey
  split
  · rw [isCamelCase_suggestion]
    exact Bool.false_ne_true
  · assumption

/-- Two keys of a line are in the same place or have no place in common; and if no camelCase key
holds an opening parenthesis, the respelled line names the same keys with the camelCase ones
respelled, and nothing is found in it. -/
theorem respell_silences (line : Text)
    (hparen : ∀ key ∈ candidates line, isCamelCase key = true → '(' ∉ key) :
    (digSpans line ++ subscriptSpans line).Pairwise
      (fun a b => a = b ∨ a.stop ≤ b.start ∨ b.stop ≤ a.start) ∧
    candidates (respell line) =
      (candidates line).map (fun key => if isCamelCase key then suggestion key else key) ∧
    ∀ number, scanLine number (respell line) = [] := by
  have hkeys := candidates_respell hparen
  refine ⟨?_, hkeys, fun number => ?_⟩
  · rw [List.pairwise_iff_forall_sublist]
    intro a b hab
    have ha : a ∈ digSpans line ++ subscriptSpans line := hab.subset List.mem_cons_self
    have hb : b ∈ digSpans line ++ subscriptSpans line :=
      hab.subset (List.mem_cons_of_mem _ List.mem_cons_self)
    exact (isQuotedRun_of_mem_spans ha).eq_or_disjoint (isQuotedRun_of_mem_spans hb)
  · rw [scanLine, hkeys, filter_isCamelCase_map, List.map_nil]

/-- A quote without a partner makes the call take another text for a key than the subscripts do. -/
theorem respell_silences_unpaired_quote :
    candidates "form.data.dig(don't, x['fooBar'])['bazQux']".toList =
      ["t, x[".toList, "fooBar".toList, "bazQux".toList] ∧
    candidates (respell "form.data.dig(don't, x['fooBar'])['bazQux']".toList) =
      ["t, x[".toList, "foo_bar".toList, "baz_qux".toList] ∧
    ∀ number, scanLine number (respell "form.data.dig(don't, x['fooBar'])['bazQux']".toList) =
      [] := by
  have hkeys : candidates "form.data.dig(don't, x['fooBar'])['bazQux']".toList =
      ["t, x[".toList, "fooBar".toList, "bazQux".toList] := by cbv
  obtain ⟨-, hnew, hscan⟩ := respell_silences _ (by rw [hkeys]; decide)
  refine ⟨hkeys, ?_, hscan⟩
  rw [hnew, hkeys]
  cbv

end TemplateLint.Key
