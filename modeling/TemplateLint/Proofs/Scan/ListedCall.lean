import TemplateLint.Proofs.Key.Written
import TemplateLint.Scan.Line

/-!
# Calls with an empty argument

A call may list texts between quotes, with a comma and a blank between any two (`listedCall`). As
long as the texts are not empty, the quotes pair up as they were written. At the first empty text
they fall out of step for good: its closing quote is taken for an opening one, so that from there on
what stands between two texts is taken for a key, and no text is. The texts behind the first empty
one are lost, and a separator is found in the place of each.

So the keys of such a call are the texts that are not empty exactly if every text behind the first
empty one is itself a separator, and a scan reports the camelCase texts exactly if none of them
stands there.
-/

namespace TemplateLint

namespace Key

/-- What stands between two texts that a call lists. -/
def separator : Text := ", ".toList

/-- Texts between quotes, with separators between them. -/
def listing (texts : List Text) : Text :=
  separator.intercalate (texts.map fun t => '\'' :: t ++ ['\''])

/-- A call that lists texts. -/
def listedCall (texts : List Text) : Text := "form.data.dig(".toList ++ listing texts ++ ")".toList

/-- The texts before the first empty one. -/
def textsInStep (texts : List Text) : List Text := texts.takeWhile fun t => !t.isEmpty

/-- The texts behind the first empty one. -/
def textsOutOfStep (texts : List Text) : List Text := (texts.dropWhile fun t => !t.isEmpty).tail

section
variable {t : Text} (ht : t ≠ []) (texts : List Text)

include ht

private theorem textsInStep_cons : textsInStep (t :: texts) = t :: textsInStep texts :=
  List.takeWhile_cons_of_pos (by simpa using ht)

private theorem textsOutOfStep_cons : textsOutOfStep (t :: texts) = textsOutOfStep texts :=
  congrArg List.tail (List.dropWhile_cons_of_pos (by simpa using ht))

end

/-- What is chosen from texts, but never an empty one, is chosen before and behind the first empty
one. -/
theorem filter_eq_append {p : Text → Bool} (hp : p [] = false) (texts : List Text) :
    texts.filter p = (textsInStep texts).filter p ++ (textsOutOfStep texts).filter p := by
  induction texts with
  | nil => rfl
  | cons t texts ih =>
    by_cases ht : t = []
    · subst ht
      rw [List.filter_cons_of_neg (Bool.eq_false_iff.mp hp)]
      rfl
    · rw [textsInStep_cons ht, textsOutOfStep_cons ht, List.filter_cons, List.filter_cons, ih]
      split
      · rfl
      · rfl

/-! ### What stands behind the first text -/

-- The rest of a listing behind its first text and the quotes around that.
private def listingBehind (texts : List Text) : Text :=
  texts.flatMap fun t => separator ++ '\'' :: (t ++ ['\''])

private theorem listingBehind_cons (t : Text) (texts : List Text) :
    listingBehind (t :: texts) = separator ++ '\'' :: (t ++ '\'' :: listingBehind texts) := by
  simp [listingBehind]

private theorem listing_cons (t : Text) (texts : List Text) :
    listing (t :: texts) = '\'' :: (t ++ '\'' :: listingBehind texts) := by
  induction texts generalizing t with
  | nil => simp [listing, listingBehind]
  | cons u texts ih =>
    have hcons : listing (t :: u :: texts) =
        '\'' :: t ++ ['\''] ++ separator ++ listing (u :: texts) := List.intercalate_cons_cons
    rw [hcons, ih, listingBehind_cons]
    simp

private theorem parenthesis_not_mem_listing {texts : List Text} (h : ∀ t ∈ texts, ')' ∉ t) :
    ')' ∉ listing texts := by
  cases texts with
  | nil => exact List.not_mem_nil
  | cons t texts =>
    have hbehind : ')' ∉ listingBehind texts := by
      rw [listingBehind, List.mem_flatMap]
      rintro ⟨u, hu, hmem⟩
      simp [separator, h u (List.mem_cons_of_mem t hu)] at hmem
    simp [listing_cons, h t List.mem_cons_self, hbehind]

/-! ### Quotes in step and out of step -/

private theorem bodies_quotation {body : Text} (hne : body ≠ []) (hfree : '\'' ∉ body)
    (rest : Text) :
    quoted.bodies ('\'' :: (body ++ '\'' :: rest)) = body :: quoted.bodies rest := by
  have hbodies := Delimiter.bodies_delimited (d := quoted) rfl hne hfree rest
  simpa [quoted] using hbodies

-- From a quote that closes a text on, what stands between the texts is taken for keys.
private theorem bodies_out_of_step {texts : List Text} (h : ∀ t ∈ texts, '\'' ∉ t) :
    quoted.bodies ('\'' :: listingBehind texts) = List.replicate texts.length separator := by
  induction texts with
  | nil => cbv
  | cons t texts ih =>
    rw [listingBehind_cons, bodies_quotation (by decide) (by decide),
      Delimiter.bodies_append_of_not_mem (d := quoted) rfl (h t List.mem_cons_self),
      ih fun u hu => h u (List.mem_cons_of_mem t hu)]
    rfl

private theorem bodies_listingBehind (texts : List Text) :
    quoted.bodies (listingBehind texts) = quoted.bodies (listing texts) := by
  cases texts with
  | nil => rfl
  | cons u texts =>
    rw [listingBehind_cons, listing_cons]
    exact Delimiter.bodies_append_of_not_mem rfl (by decide) _

/-- In a listing the texts are taken up to the first empty one, and then a separator for each text
behind it. -/
theorem bodies_listing {texts : List Text} (h : ∀ t ∈ texts, '\'' ∉ t) :
    quoted.bodies (listing texts) =
      textsInStep texts ++ List.replicate (textsOutOfStep texts).length separator := by
  induction texts with
  | nil => exact Delimiter.bodies_nil
  | cons t texts ih =>
    have hrest : ∀ u ∈ texts, '\'' ∉ u := fun u hu => h u (List.mem_cons_of_mem t hu)
    rw [listing_cons]
    by_cases ht : t = []
    · subst ht
      have hskip : quoted.bodyAt? ('\'' :: '\'' :: listingBehind texts) = none :=
        Delimiter.bodyAt?_empty (d := quoted) rfl _
      rw [List.nil_append, Delimiter.bodies_cons_of_none hskip, bodies_out_of_step hrest]
      rfl
    · rw [bodies_quotation ht (h t List.mem_cons_self), bodies_listingBehind, ih hrest,
        textsInStep_cons ht, textsOutOfStep_cons ht, List.cons_append]

/-- The keys of a call are the texts before the first empty one, and a separator for each text
behind it. -/
theorem digKeys_listedCall {texts : List Text} (h : ∀ t ∈ texts, IsPlain t) :
    digKeys (listedCall texts) =
      textsInStep texts ++ List.replicate (textsOutOfStep texts).length separator := by
  have hcall := digKeys_call_append (parenthesis_not_mem_listing fun t ht => (h t ht).2) []
  rw [List.append_nil, digKeys_nil, List.append_nil, bodies_listing fun t ht => (h t ht).1] at hcall
  exact hcall

/-! ### Subscripts among the texts -/

-- Before its first quote a text is cut in one way only.
private theorem cut_unique {x y rest tail : Text} (hx : '\'' ∉ x) (hy : '\'' ∉ y)
    (h : x ++ '\'' :: rest = y ++ '\'' :: tail) : x = y ∧ rest = tail := by
  rcases List.append_eq_append_iff.mp h with ⟨more, rfl, hmore⟩ | ⟨more, rfl, hmore⟩
  · cases more with
    | nil => exact ⟨(List.append_nil x).symm, (List.cons.inj hmore).2⟩
    | cons c more =>
      obtain ⟨rfl, -⟩ := List.cons.inj hmore
      simp at hy
  · cases more with
    | nil => exact ⟨List.append_nil y, (List.cons.inj hmore).2.symm⟩
    | cons c more =>
      obtain ⟨rfl, -⟩ := List.cons.inj hmore
      simp at hx

-- The bracket of a subscript stands directly before the first quote, or both stand behind it.
private theorem cut_at_quote {x rest front tail : Text} (hx : '\'' ∉ x)
    (h : x ++ '\'' :: rest = front ++ '[' :: '\'' :: tail) :
    (x = front ++ ['['] ∧ rest = tail) ∨
      ∃ more, front = x ++ '\'' :: more ∧ rest = more ++ '[' :: '\'' :: tail := by
  by_cases hfront : '\'' ∈ front
  · right
    obtain ⟨first, more, rfl, hfirst⟩ := List.eq_append_cons_of_mem hfront
    rw [List.append_assoc, List.cons_append] at h
    obtain ⟨rfl, hrest⟩ := cut_unique hx hfirst h
    exact ⟨more, rfl, hrest⟩
  · left
    have hbracket : '\'' ∉ front ++ ['['] := by simpa using hfront
    rw [List.append_cons front] at h
    exact cut_unique hx hbracket h

-- The induction is on the texts behind `t`. A bracket stands before none of the quotes that open a
-- text, so that a subscript starts with one that closes a text and ends with the next.
private theorem eq_separator_of_split {texts : List Text} (h : ∀ u ∈ texts, '\'' ∉ u)
    {lead t front key back : Text} (hlead : '\'' ∉ lead) (hbracket : '[' ∉ lead) (ht : '\'' ∉ t)
    (hkey : '\'' ∉ key)
    (hsplit : lead ++ '\'' :: (t ++ '\'' :: (listingBehind texts ++ [')'])) =
      front ++ '[' :: '\'' :: (key ++ '\'' :: back)) : key = separator := by
  induction texts generalizing lead t front with
  | nil =>
    rcases cut_at_quote hlead hsplit with ⟨rfl, -⟩ | ⟨more, -, hsplit⟩
    · simp at hbracket
    · have hquote : '\'' ∈ listingBehind [] ++ [')'] := by
        rcases cut_at_quote ht hsplit with ⟨-, hsplit⟩ | ⟨more', -, hsplit⟩
        · rw [hsplit]
          simp
        · rw [hsplit]
          simp
      exact absurd hquote (by decide)
  | cons u texts ih =>
    rcases cut_at_quote hlead hsplit with ⟨rfl, -⟩ | ⟨more, -, hsplit⟩
    · simp at hbracket
    · rw [listingBehind_cons, List.append_assoc, List.cons_append, List.append_assoc,
        List.cons_append] at hsplit
      rcases cut_at_quote ht hsplit with ⟨-, hsplit⟩ | ⟨more', -, hsplit⟩
      · exact (cut_unique (by decide) hkey hsplit).1.symm
      · exact ih (fun v hv => h v (List.mem_cons_of_mem u hv)) (by decide) (by decide)
          (h u List.mem_cons_self) hsplit

/-- The subscripts in a call that lists texts are separators. -/
theorem eq_separator_of_mem_subscriptKeys {texts : List Text} (h : ∀ t ∈ texts, '\'' ∉ t)
    {key : Text} (hkey : key ∈ subscriptKeys (listedCall texts)) : key = separator := by
  obtain ⟨span, hspan, rfl⟩ := List.mem_map.mp hkey
  obtain ⟨front, back, hsplit, -, -, hfree⟩ := Delimiter.occursFrom_of_mem_spansFrom hspan
  have hsplit : listedCall texts = front ++ '[' :: '\'' :: (span.text ++ '\'' :: ']' :: back) := by
    rw [hsplit]
    simp [subscript]
  cases texts with
  | nil =>
    have hquote : '\'' ∈ listedCall [] := by
      rw [hsplit]
      simp
    exact absurd hquote (by decide)
  | cons t texts =>
    have hcall : listedCall (t :: texts) = digCall.opening ++ (listing (t :: texts) ++ [')']) :=
      List.append_assoc _ _ _
    rw [hcall, listing_cons, List.cons_append, List.append_assoc, List.cons_append] at hsplit
    exact eq_separator_of_split (fun u hu => h u (List.mem_cons_of_mem t hu)) (by decide)
      (by decide) (h t List.mem_cons_self) hfree hsplit

/-! ### When the texts come back -/

/-- The keys of the call are the texts that are not empty. -/
def YieldsTexts (texts : List Text) : Prop :=
  digKeys (listedCall texts) = texts.filter fun t => !t.isEmpty

/-- A scan of the call reports the camelCase texts. -/
def ReportsTexts (texts : List Text) : Prop :=
  ∀ number, (scanLine number (listedCall texts)).map Violation.key = texts.filter isCamelCase

private theorem filter_textsInStep (texts : List Text) :
    (textsInStep texts).filter (fun t => !t.isEmpty) = textsInStep texts :=
  List.filter_eq_self.mpr fun _ ht => List.mem_takeWhile_imp (p := fun t : Text => !t.isEmpty) ht

private theorem replicate_eq_filter_iff {texts : List Text} :
    List.replicate texts.length separator = texts.filter (fun t => !t.isEmpty) ↔
      ∀ t ∈ texts, t = separator := by
  constructor
  · intro h
    have hlength := congrArg List.length h
    rw [List.length_replicate] at hlength
    have hall := List.length_filter_eq_length_iff.mp hlength.symm
    rw [List.filter_eq_self.mpr hall] at h
    exact (List.eq_replicate_iff.mp h.symm).2
  · intro h
    have htexts := List.eq_replicate_iff.mpr ⟨rfl, h⟩
    rw [← htexts, List.filter_eq_self.mpr]
    intro t ht
    rw [h t ht]
    rfl

/-- The keys of a call that lists texts are the texts before the first empty one and a separator for
each text behind it, and a scan reports the camelCase ones among the former. So the texts that are
not empty are the keys exactly if the texts behind the first empty one are separators, and the
camelCase texts are reported exactly if none stands behind it. -/
theorem listedCall_keeps_texts_iff (texts : List Text) (h : ∀ t ∈ texts, IsPlain t) :
    digKeys (listedCall texts) =
      textsInStep texts ++ List.replicate (textsOutOfStep texts).length separator ∧
    (∀ number, (scanLine number (listedCall texts)).map Violation.key =
      (textsInStep texts).filter isCamelCase) ∧
    (YieldsTexts texts ↔ ∀ t ∈ textsOutOfStep texts, t = separator) ∧
    (ReportsTexts texts ↔ ∀ t ∈ textsOutOfStep texts, isCamelCase t = false) := by
  have hkeys := digKeys_listedCall h
  have hscan : ∀ number, (scanLine number (listedCall texts)).map Violation.key =
      (textsInStep texts).filter isCamelCase := by
    intro number
    have hcandidates := map_scanLine (fun key _ => key) number (listedCall texts)
    have hseparators : ∀ key ∈ List.replicate (textsOutOfStep texts).length separator ++
        subscriptKeys (listedCall texts), ¬ isCamelCase key = true := by
      intro key hkey
      have heq : key = separator := by
        rcases List.mem_append.mp hkey with hkey | hkey
        · exact List.eq_of_mem_replicate hkey
        · exact eq_separator_of_mem_subscriptKeys (fun t ht => (h t ht).1) hkey
      rw [heq]
      decide
    rw [List.map_id', candidates, hkeys, List.append_assoc, List.filter_append,
      List.filter_eq_nil_iff.mpr hseparators, List.append_nil] at hcandidates
    exact hcandidates
  refine ⟨hkeys, hscan, ?_, ?_⟩
  · rw [YieldsTexts, hkeys, filter_eq_append rfl, filter_textsInStep, List.append_cancel_left_eq]
    exact replicate_eq_filter_iff
  · simp only [ReportsTexts, hscan, forall_const]
    rw [filter_eq_append rfl texts, List.self_eq_append_right, List.filter_eq_nil_iff]
    simp only [Bool.not_eq_true]

/-- One empty text in the middle: the camelCase text behind it is lost. -/
theorem listedCall_keeps_texts_iff_gap :
    listedCall ["aB".toList, [], "cD".toList] = "form.data.dig('aB', '', 'cD')".toList ∧
    digKeys (listedCall ["aB".toList, [], "cD".toList]) = ["aB".toList, ", ".toList] ∧
    (∀ number, (scanLine number (listedCall ["aB".toList, [], "cD".toList])).map Violation.key =
      ["aB".toList]) ∧
    ¬ YieldsTexts ["aB".toList, [], "cD".toList] ∧ ReportsTexts ["aB".toList, [], "c".toList] := by
  obtain ⟨hkeys, hscan, hyields, -⟩ :=
    listedCall_keeps_texts_iff ["aB".toList, [], "cD".toList] (by decide)
  obtain ⟨-, -, -, hreports⟩ := listedCall_keeps_texts_iff ["aB".toList, [], "c".toList] (by decide)
  refine ⟨by decide, hkeys, hscan, ?_, hreports.mpr (by decide)⟩
  rw [hyields]
  decide

/-- With an empty text in front, the keys are no text that is listed, and nothing is reported. -/
theorem not_yieldsTexts_behind_empty :
    (∀ t ∈ [[], "fooBar".toList], IsPlain t) ∧
    listedCall [[], "fooBar".toList] = "form.data.dig('', 'fooBar')".toList ∧
    digKeys (listedCall [[], "fooBar".toList]) = [", ".toList] ∧
    ¬ YieldsTexts [[], "fooBar".toList] ∧ ¬ ReportsTexts [[], "fooBar".toList] := by
  have hcall : listedCall [[], "fooBar".toList] = "form.data.dig('', 'fooBar')".toList := by decide
  have hkeys : digKeys "form.data.dig('', 'fooBar')".toList = [", ".toList] := by cbv
  have hscan : scanLine 1 "form.data.dig('', 'fooBar')".toList = [] := by cbv
  refine ⟨by decide, hcall, hcall ▸ hkeys, ?_, ?_⟩
  · rw [YieldsTexts, hcall, hkeys]
    decide
  · intro hreports
    have hone := hreports 1
    rw [hcall, hscan] at hone
    exact absurd hone (by decide)

end Key

end TemplateLint
