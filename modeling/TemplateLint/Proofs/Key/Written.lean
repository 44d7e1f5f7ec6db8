import TemplateLint.Proofs.Key.Extraction

/-!
# Calls as they are written

A line is written as text in which no call starts, with calls in between (`WrittenLine`); a call as
texts between quotes, with anything but quotes and closing parentheses around them (`WrittenCall`).
The keys that are taken from such a line are the texts between quotes, call by call.

The two searches are followed one at a time. In the arguments of a call the quotes pair up as they
were written. In the line a call ends with its own parenthesis, whatever its arguments hold, and the
text before a call makes no other call together with the front of it, since the name of a call
starts with a letter that it holds only once.
-/

namespace TemplateLint

namespace Delimiter

variable {d : Delimiter}

/-- The delimited bodies of a text, without their places. -/
def bodies (d : Delimiter) (s : Text) : List Text := (d.spans s).map Span.text

/-- The bodies do not depend on where the count of places starts. -/
theorem map_text_spansFrom_eq_bodies (offset : Nat) (s : Text) :
    (d.spansFrom offset s).map Span.text = d.bodies s := map_text_spansFrom offset 0 s

/-- There are no bodies in the empty text. -/
theorem bodies_nil : d.bodies [] = [] := by
  rw [bodies, spans, spansFrom_nil, List.map_nil]

/-- Where no body starts, the bodies are those of the tail. -/
theorem bodies_cons_of_none {c : Char} {s : Text} (h : d.bodyAt? (c :: s) = none) :
    d.bodies (c :: s) = d.bodies s := by
  rw [bodies, spans, spansFrom_of_none h, map_text_spansFrom_eq_bodies]

/-- A body between the literals is taken, and the search goes on behind them. -/
theorem bodies_delimited (hbarrier : d.closing.head? = some d.barrier) {body : Text}
    (hne : body ≠ []) (hfree : d.barrier ∉ body) (rest : Text) :
    d.bodies (d.opening ++ body ++ d.closing ++ rest) = body :: d.bodies rest := by
  have hbody : d.bodyAt? (d.opening ++ body ++ d.closing ++ rest) = some (body, rest) :=
    (bodyAt?_eq_some_iff hbarrier).mpr ⟨rfl, hne, hfree⟩
  rw [bodies, spans, spansFrom_of_some hbody, List.map_cons, map_text_spansFrom_eq_bodies]

/-- Nothing between the literals is no body. -/
theorem bodyAt?_empty (hbarrier : d.closing.head? = some d.barrier) (rest : Text) :
    d.bodyAt? (d.opening ++ (d.closing ++ rest)) = none := by
  obtain ⟨tail, hclosing⟩ := List.head?_eq_some_iff.mp hbarrier
  have hempty : (d.closing ++ rest).takeWhile (· != d.barrier) = [] := by
    rw [hclosing]
    simp
  simp only [bodyAt?, Text.after?_append, hempty]
  rfl

section
variable {a : Char} (hhead : d.opening.head? = some a)

include hhead

/-- A body starts only with the first character of the opening literal. -/
theorem bodyAt?_cons_of_ne {c : Char} (hc : c ≠ a) (s : Text) : d.bodyAt? (c :: s) = none := by
  obtain ⟨literal, hliteral⟩ := List.head?_eq_some_iff.mp hhead
  rw [bodyAt?, hliteral, Text.after?, if_neg (Ne.symm hc)]

/-- A front without that character is passed over. -/
theorem bodies_append_of_not_mem {front : Text} (hfront : a ∉ front) (s : Text) :
    d.bodies (front ++ s) = d.bodies s := by
  apply map_text_spansFrom_skip
  rintro x y rfl hy
  obtain ⟨c, y, rfl⟩ := List.exists_cons_of_ne_nil hy
  apply bodyAt?_cons_of_ne hhead
  rintro rfl
  simp at hfront

end

end Delimiter

namespace Key

/-! ### Calls and the text around them -/

/-- The keys of a line are what stands between quotes in what stands in its calls. -/
theorem digKeys_eq_bodies (line : Text) :
    digKeys line = (digCall.bodies line).flatMap quoted.bodies := by
  rw [digKeys_eq_flatMap, Delimiter.bodies, List.flatMap_map]
  simp only [Delimiter.map_text_spansFrom_eq_bodies]

/-- There are no keys in the empty text. -/
theorem digKeys_nil : digKeys [] = [] := by
  rw [digKeys_eq_bodies, Delimiter.bodies_nil, List.flatMap_nil]

/-- A call at the front of a line gives the texts between quotes in it, and the keys behind it are
those of the rest. -/
theorem digKeys_call_append {inside : Text} (h : ')' ∉ inside) (rest : Text) :
    digKeys (digCall.opening ++ inside ++ digCall.closing ++ rest) =
      quoted.bodies inside ++ digKeys rest := by
  by_cases hempty : inside = []
  · -- A call without arguments is not found, and no other starts inside it.
    subst hempty
    have hnone := Delimiter.bodyAt?_empty (d := digCall) rfl rest
    have hskip : digCall.bodies (digCall.opening.tail ++ digCall.closing ++ rest) =
        digCall.bodies rest := by
      apply Delimiter.bodies_append_of_not_mem rfl
      rw [List.mem_append, not_or]
      exact ⟨not_mem_tail_opening, by decide⟩
    rw [digKeys_eq_bodies, digKeys_eq_bodies, Delimiter.bodies_nil, List.nil_append, ← hskip,
      List.append_nil, List.append_assoc]
    exact congrArg (List.flatMap quoted.bodies) (Delimiter.bodies_cons_of_none hnone)
  · rw [digKeys_eq_bodies, Delimiter.bodies_delimited rfl hempty h, List.flatMap_cons,
      ← digKeys_eq_bodies]

-- Text in which no call starts makes none with what stands behind it, if that is nothing or starts
-- with a call.
private theorem bodyAt?_filler {filler rest : Text} (hne : filler ≠ [])
    (hfiller : ¬ digCall.opening <:+: filler) (hrest : rest = [] ∨ rest.head? = some 'f') :
    digCall.bodyAt? (filler ++ rest) = none := by
  rw [Option.eq_none_iff_forall_ne_some]
  rintro ⟨body, back⟩ hbody
  have hsplit := (Delimiter.bodyAt?_eq_some hbody).1
  rw [List.append_assoc, List.append_assoc] at hsplit
  rcases List.append_eq_append_iff.mp hsplit with ⟨more, hopening, hmore⟩ | ⟨more, rfl, -⟩
  · cases more with
    | nil =>
      rw [hopening, List.append_nil] at hfiller
      exact hfiller List.infix_rfl
    | cons x more =>
      -- The name goes on in the text behind, which starts with its first letter.
      rw [hmore] at hrest
      obtain rfl : x = 'f' := by simpa using hrest
      obtain ⟨c, filler, rfl⟩ := List.exists_cons_of_ne_nil hne
      apply not_mem_tail_opening
      rw [hopening, List.cons_append, List.tail_cons]
      simp
  · exact hfiller (List.prefix_append _ _).isInfix

/-- Such text gives no keys. -/
theorem digKeys_filler_append {filler rest : Text} (hfiller : ¬ digCall.opening <:+: filler)
    (hrest : rest = [] ∨ rest.head? = some 'f') : digKeys (filler ++ rest) = digKeys rest := by
  rw [digKeys_eq_bodies, digKeys_eq_bodies]
  refine congrArg (List.flatMap quoted.bodies) (Delimiter.map_text_spansFrom_skip 0 0 ?_)
  rintro x y rfl hy
  apply bodyAt?_filler hy _ hrest
  intro hstarts
  exact hfiller (hstarts.trans (List.suffix_append x y).isInfix)

/-! ### Lines that are written out of calls -/

/-- A text that neither opens nor closes a quotation and does not close a call. -/
def IsPlain (s : Text) : Prop := '\'' ∉ s ∧ ')' ∉ s

instance (s : Text) : Decidable (IsPlain s) := inferInstanceAs (Decidable (_ ∧ _))

/-- An argument between quotes, and what stands before it. -/
structure WrittenArgument where
  lead : Text
  key : Text
  lead_isPlain : IsPlain lead
  key_isPlain : IsPlain key
  key_ne_nil : key ≠ []

/-- A call: its arguments between quotes, and what stands behind the last of them. -/
structure WrittenCall where
  arguments : List WrittenArgument
  tail : Text
  tail_isPlain : IsPlain tail

/-- A line: text in which no call starts, and calls, each with such text behind it. -/
structure WrittenLine where
  lead : Text
  parts : List (WrittenCall × Text)
  lead_free : ¬ "form.data.dig(".toList <:+: lead
  part_free : ∀ part ∈ parts, ¬ "form.data.dig(".toList <:+: part.2

/-- An argument as it stands in a call. -/
def WrittenArgument.text (argument : WrittenArgument) : Text :=
  argument.lead ++ '\'' :: argument.key ++ ['\'']

namespace WrittenCall

/-- What stands between the parentheses of a call. -/
def inside (call : WrittenCall) : Text := call.arguments.flatMap WrittenArgument.text ++ call.tail

/-- A call as it stands in a line. -/
def text (call : WrittenCall) : Text := "form.data.dig(".toList ++ call.inside ++ ")".toList

/-- The texts between quotes in a call. -/
def keys (call : WrittenCall) : List Text := call.arguments.map WrittenArgument.key

/-- No parenthesis closes a call before its own. -/
theorem not_mem_inside (call : WrittenCall) : ')' ∉ call.inside := by
  rw [inside, List.mem_append, List.mem_flatMap]
  rintro (⟨argument, -, hmem⟩ | hmem)
  · simp only [WrittenArgument.text, List.mem_append, List.mem_cons, List.not_mem_nil,
      or_false] at hmem
    rcases hmem with (hmem | hmem | hmem) | hmem
    · exact argument.lead_isPlain.2 hmem
    · cases hmem
    · exact argument.key_isPlain.2 hmem
    · cases hmem
  · exact call.tail_isPlain.2 hmem

/-- The quotes in a call pair up as they were written. -/
theorem bodies_inside (call : WrittenCall) : quoted.bodies call.inside = call.keys := by
  obtain ⟨arguments, tail, htail, -⟩ := call
  simp only [inside, keys]
  induction arguments with
  | nil =>
    have hskip := Delimiter.bodies_append_of_not_mem (d := quoted) rfl htail []
    rw [List.append_nil, Delimiter.bodies_nil] at hskip
    exact hskip
  | cons argument arguments ih =>
    let rest := arguments.flatMap WrittenArgument.text ++ tail
    calc quoted.bodies ((argument :: arguments).flatMap WrittenArgument.text ++ tail)
        = quoted.bodies
            (argument.lead ++ (quoted.opening ++ argument.key ++ quoted.closing ++ rest)) := by
          simp [WrittenArgument.text, quoted, rest]
      _ = quoted.bodies (quoted.opening ++ argument.key ++ quoted.closing ++ rest) :=
          Delimiter.bodies_append_of_not_mem rfl argument.lead_isPlain.1 _
      _ = argument.key :: quoted.bodies rest :=
          Delimiter.bodies_delimited rfl argument.key_ne_nil argument.key_isPlain.1 rest
      _ = (argument :: arguments).map WrittenArgument.key := by rw [ih, List.map_cons]

end WrittenCall

/-- A line as it is read. -/
def WrittenLine.text (line : WrittenLine) : Text :=
  line.lead ++ line.parts.flatMap fun part => part.1.text ++ part.2

private theorem head?_parts (parts : List (WrittenCall × Text)) :
    (parts.flatMap fun part => part.1.text ++ part.2) = [] ∨
      (parts.flatMap fun part => part.1.text ++ part.2).head? = some 'f' := by
  cases parts with
  | nil => exact .inl rfl
  | cons part parts => exact .inr rfl

private theorem digKeys_parts {parts : List (WrittenCall × Text)}
    (h : ∀ part ∈ parts, ¬ digCall.opening <:+: part.2) :
    digKeys (parts.flatMap fun part => part.1.text ++ part.2) =
      parts.flatMap fun part => part.1.keys := by
  induction parts with
  | nil => exact digKeys_nil
  | cons part parts ih =>
    obtain ⟨call, filler⟩ := part
    have hcall := digKeys_call_append call.not_mem_inside
      (filler ++ parts.flatMap fun part => part.1.text ++ part.2)
    rw [List.flatMap_cons, List.flatMap_cons, List.append_assoc]
    calc digKeys (call.text ++ (filler ++ parts.flatMap fun part => part.1.text ++ part.2))
        = call.keys ++ digKeys (filler ++ parts.flatMap fun part => part.1.text ++ part.2) := by
          rw [← call.bodies_inside]
          exact hcall
      _ = call.keys ++ parts.flatMap fun part => part.1.keys := by
          rw [digKeys_filler_append (h _ List.mem_cons_self) (head?_parts parts),
            ih fun part hpart => h part (List.mem_cons_of_mem _ hpart)]

/-- The keys of a line are the texts between quotes in its calls, as they were written: none is
missing, none comes from elsewhere, and they are in order. -/
theorem digKeys_writtenLine (line : WrittenLine) :
    digKeys line.text = line.parts.flatMap fun part => part.1.keys := by
  rw [WrittenLine.text, digKeys_filler_append line.lead_free (head?_parts line.parts)]
  exact digKeys_parts line.part_free

/-- A line with a stray quote, a call without arguments, and one whose arguments hold the name of a
call. -/
theorem digKeys_writtenLine_nested :
    ∃ line : WrittenLine,
      line.text =
        "it's form.data.dig() or form.data.dig(:x, \"y\", 'aB', 'form.data.dig(', 0)['c']".toList ∧
      digKeys line.text = ["aB".toList, "form.data.dig(".toList] :=
  ⟨{ lead := "it's ".toList
     parts :=
      [({ arguments := [], tail := [], tail_isPlain := by decide }, " or ".toList),
       ({ arguments :=
            [⟨":x, \"y\", ".toList, "aB".toList, by decide, by decide, by decide⟩,
             ⟨", ".toList, "form.data.dig(".toList, by decide, by decide, by decide⟩]
          tail := ", 0".toList
          tail_isPlain := by decide }, "['c']".toList)]
     lead_free := by decide
     part_free := by decide }, by decide, digKeys_writtenLine _⟩

end Key

end TemplateLint
