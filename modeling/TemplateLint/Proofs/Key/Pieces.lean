import TemplateLint.Key.Casing
import TemplateLint.Proofs.Text.Lowercase

/-!
# The pieces of a suggestion

A key is cut where the two letters of a hump meet, and nowhere else (`IsHumpCut`); there is one such
cut. Both the lower case of the key and the suggestion for it are made from the lower case of the
pieces, put together or joined with underscores. An underscore inside a hump changes nothing around
it: the letters of a hump are cased, so that no capital sigma looks past them.
-/

namespace TemplateLint.Key

/-! ### The cut at the humps -/

/-- The upper-case letters of ASCII are those from A to Z. -/
theorem isUpper_iff_range {c : Char} : c.isUpper = true ↔ 'A' ≤ c ∧ c ≤ 'Z' := by
  simp only [Char.isUpper, decide_eq_true_eq, Char.le_def]

/-- The lower-case letters of ASCII are those from a to z. -/
theorem isLower_iff_range {c : Char} : c.isLower = true ↔ 'a' ≤ c ∧ c ≤ 'z' := by
  simp only [Char.isLower, Bool.and_eq_true, decide_eq_true_eq, ge_iff_le, Char.le_def]

/-- A hump is a lower-case letter of ASCII and an upper-case one. -/
theorem isHump_iff {a b : Char} :
    isHump a b = true ↔ ('a' ≤ a ∧ a ≤ 'z') ∧ 'A' ≤ b ∧ b ≤ 'Z' := by
  rw [isHump, Bool.and_eq_true, isLower_iff_range, isUpper_iff_range]

/-- Two pieces that meet in a hump. -/
def Meet (p q : Text) : Prop :=
  ∃ a b, p.getLast? = some a ∧ q.head? = some b ∧ isHump a b = true

/-- The cut of a key at its humps: no piece has one, and there is one wherever two pieces meet. -/
structure IsHumpCut (key : Text) (ps : List Text) : Prop where
  flatten_eq : ps.flatten = key
  ne_nil : ps ≠ []
  whole : ∀ p ∈ ps, isCamelCase p = false
  meet : ps.IsChain Meet

namespace IsHumpCut

variable {a b : Char} {s t : Text} {ps rest : List Text}

/-- The cut of a text that is not empty starts with a piece that is not. -/
theorem exists_eq_cons (h : IsHumpCut (a :: s) ps) : ∃ t rest, ps = (a :: t) :: rest := by
  obtain ⟨p, rest, rfl⟩ := List.exists_cons_of_ne_nil h.ne_nil
  have hp : p ≠ [] := by
    rintro rfl
    cases rest with
    | nil => cases h.flatten_eq
    | cons q rest =>
      obtain ⟨c, d, hlast, -⟩ := h.meet.rel
      cases hlast
  obtain ⟨c, t, rfl⟩ := List.exists_cons_of_ne_nil hp
  obtain rfl := (List.cons.inj h.flatten_eq).1
  exact ⟨t, rest, rfl⟩

/-- A cut without the first letter of a first piece that has more is a cut. -/
theorem of_cons_cons (h : IsHumpCut (a :: s) ((a :: b :: t) :: rest)) :
    IsHumpCut s ((b :: t) :: rest) where
  flatten_eq := (List.cons.inj h.flatten_eq).2
  ne_nil := List.cons_ne_nil _ _
  whole p hp := by
    rcases List.mem_cons.mp hp with rfl | hp
    · have hfirst := h.whole _ List.mem_cons_self
      rw [isCamelCase, Bool.or_eq_false_iff] at hfirst
      exact hfirst.2
    · exact h.whole p (List.mem_cons_of_mem _ hp)
  meet := by
    cases rest with
    | nil => exact .singleton _
    | cons q rest =>
      obtain ⟨c, d, hlast, hhead, hump⟩ := h.meet.rel
      exact .cons_cons ⟨c, d, hlast, hhead, hump⟩ h.meet.tail

/-- If the first two letters are a hump, the first piece is the first letter. -/
theorem of_isHump (h : IsHumpCut (a :: b :: s) ps) (hump : isHump a b = true) :
    ∃ rest, ps = [a] :: rest ∧ IsHumpCut (b :: s) rest := by
  obtain ⟨t, rest, rfl⟩ := h.exists_eq_cons
  have hflatten : t ++ rest.flatten = b :: s := (List.cons.inj h.flatten_eq).2
  cases t with
  | nil =>
    refine ⟨rest, rfl, hflatten, ?_, fun p hp => h.whole p (List.mem_cons_of_mem _ hp), h.meet.tail⟩
    rintro rfl
    cases hflatten
  | cons c t =>
    obtain rfl := (List.cons.inj hflatten).1
    have hfirst := h.whole _ List.mem_cons_self
    rw [isCamelCase, hump, Bool.true_or] at hfirst
    cases hfirst

/-- If they are none, the first piece holds both. -/
theorem of_not_isHump (h : IsHumpCut (a :: b :: s) ps) (hump : ¬ isHump a b = true) :
    ∃ p rest, ps = (a :: p) :: rest ∧ IsHumpCut (b :: s) (p :: rest) := by
  obtain ⟨t, rest, rfl⟩ := h.exists_eq_cons
  have hflatten : t ++ rest.flatten = b :: s := (List.cons.inj h.flatten_eq).2
  cases t with
  | nil =>
    cases rest with
    | nil => cases hflatten
    | cons q rest =>
      obtain ⟨c, d, hlast, hhead, hmeet⟩ := h.meet.rel
      obtain rfl := Option.some.inj hlast
      obtain ⟨q, rfl⟩ := List.head?_eq_some_iff.mp hhead
      obtain rfl := (List.cons.inj hflatten).1
      exact absurd hmeet hump
  | cons c t => exact ⟨c :: t, rest, rfl, h.of_cons_cons⟩

/-- Pieces that meet hold two letters at least. -/
theorem two_le_length {p q : Text} (h : IsHumpCut s (p :: q :: rest)) : 2 ≤ s.length := by
  obtain ⟨a, b, hlast, hhead, -⟩ := h.meet.rel
  obtain ⟨front, rfl⟩ := List.getLast?_eq_some_iff.mp hlast
  obtain ⟨back, rfl⟩ := List.head?_eq_some_iff.mp hhead
  rw [← h.flatten_eq]
  simp only [List.flatten_cons, List.length_append, List.length_cons]
  omega

end IsHumpCut

private theorem length_lt_two {s : Text} (hs : ∀ a b t, s = a :: b :: t → False) :
    s.length < 2 := by
  match s with
  | [] => decide
  | [c] => exact Nat.lt_succ_self 1
  | c :: d :: t => exact absurd rfl (hs c d t)

/-- The pieces of a key are its cut at the humps. -/
theorem isHumpCut_pieces (key : Text) : IsHumpCut key (pieces key) := by
  fun_induction pieces key with
  | case1 a b s hump ih =>
    obtain ⟨t, rest, hpieces⟩ := ih.exists_eq_cons
    refine ⟨congrArg (a :: ·) (flatten_pieces (b :: s)), List.cons_ne_nil _ _, ?_, ?_⟩
    · intro p hp
      rcases List.mem_cons.mp hp with rfl | hp
      · rfl
      · exact ih.whole p hp
    · rw [hpieces]
      exact .cons_cons ⟨a, b, rfl, rfl, hump⟩ (hpieces ▸ ih.meet)
  | case2 a b s hump hnil ih => exact absurd hnil ih.ne_nil
  | case3 a b s hump piece rest hpieces ih =>
    rw [hpieces] at ih
    obtain ⟨t, rest, hcons⟩ := ih.exists_eq_cons
    obtain ⟨rfl, rfl⟩ := List.cons.inj hcons
    refine ⟨congrArg (a :: ·) ih.flatten_eq, List.cons_ne_nil _ _, ?_, ?_⟩
    · intro p hp
      rcases List.mem_cons.mp hp with rfl | hp
      · rw [isCamelCase, ih.whole _ List.mem_cons_self, Bool.or_false]
        exact Bool.eq_false_iff.mpr hump
      · exact ih.whole p (List.mem_cons_of_mem _ hp)
    · cases rest with
      | nil => exact .singleton _
      | cons q rest =>
        obtain ⟨c, d, hlast, hhead, hump⟩ := ih.meet.rel
        exact .cons_cons ⟨c, d, hlast, hhead, hump⟩ ih.meet.tail
  | case4 s hs =>
    refine ⟨List.append_nil s, List.cons_ne_nil _ _, ?_, .singleton s⟩
    intro p hp
    obtain rfl := List.mem_singleton.mp hp
    rw [isCamelCase]
    exact hs

/-- A key has one cut at its humps. -/
theorem isHumpCut_iff {key : Text} {ps : List Text} : IsHumpCut key ps ↔ ps = pieces key := by
  constructor
  · intro h
    fun_induction pieces key generalizing ps with
    | case1 a b s hump ih =>
      obtain ⟨rest, rfl, hrest⟩ := h.of_isHump hump
      rw [ih hrest]
    | case2 a b s hump hnil ih => exact absurd hnil (isHumpCut_pieces _).ne_nil
    | case3 a b s hump piece rest hpieces ih =>
      obtain ⟨p, others, rfl, hothers⟩ := h.of_not_isHump hump
      obtain ⟨rfl, rfl⟩ := List.cons.inj ((ih hothers).trans hpieces)
      rfl
    | case4 s hs =>
      obtain ⟨p, rest, rfl⟩ := List.exists_cons_of_ne_nil h.ne_nil
      cases rest with
      | nil => rw [← h.flatten_eq, List.flatten_singleton]
      | cons q rest =>
        have hlength := h.two_le_length
        have hshort := length_lt_two hs
        omega
  · rintro rfl
    exact isHumpCut_pieces key

/-! ### Underscores and lower case at the humps -/

/-- How many pairs of neighbours in a key are humps. -/
def humpCount (key : Text) : Nat := (key.zip key.tail).countP fun pair => isHump pair.1 pair.2

/-- Two characters in front count for one hump if they are one. -/
theorem humpCount_cons_cons (a b : Char) (s : Text) :
    humpCount (a :: b :: s) = humpCount (b :: s) + if isHump a b then 1 else 0 :=
  List.countP_cons

/-- A text of fewer than two characters has no hump. -/
theorem humpCount_of_length_lt_two {s : Text} (h : s.length < 2) : humpCount s = 0 := by
  match s with
  | [] => rfl
  | [c] => rfl

/-- A key has one piece more than it has humps. -/
theorem length_pieces (key : Text) : (pieces key).length = humpCount key + 1 := by
  fun_induction pieces key with
  | case1 a b s hump ih => rw [humpCount_cons_cons, if_pos hump, List.length_cons, ih]
  | case2 a b s hump hnil ih => exact absurd hnil (isHumpCut_pieces _).ne_nil
  | case3 a b s hump piece rest hpieces ih =>
    rw [humpCount_cons_cons, if_neg hump, ← ih, hpieces]
    rfl
  | case4 s hs => rw [humpCount_of_length_lt_two (length_lt_two hs)]; rfl

/-- A key is camelCase exactly when it has humps. -/
theorem isCamelCase_iff_humpCount {key : Text} : isCamelCase key = true ↔ humpCount key ≠ 0 := by
  fun_induction isCamelCase key with
  | case1 a b s ih =>
    rw [humpCount_cons_cons, Bool.or_eq_true, ih]
    cases isHump a b <;> simp
  | case2 s hs => simp [humpCount_of_length_lt_two (length_lt_two hs)]

/-- The pass that puts in underscores takes an upper-case letter as it is. -/
theorem separate_cons_of_isUpper {b : Char} (h : b.isUpper = true) (s : Text) :
    separate (b :: s) = b :: separate s := by
  have hlower : b.isLower = false := by
    rw [Bool.eq_false_iff, Ne, Text.isLower_iff]
    have hupper := Text.isUpper_iff.mp h
    omega
  cases s with
  | nil => rfl
  | cons c s => rw [separate, isHump, hlower, Bool.false_and, if_neg Bool.false_ne_true]

/-- Although it takes both letters of a hump at once, the pass puts an underscore between any two
pieces, and no other. -/
theorem separate_eq_intercalate (key : Text) : separate key = ['_'].intercalate (pieces key) := by
  fun_induction pieces key with
  | case1 a b s hump ih =>
    obtain ⟨p, rest, hpieces⟩ := List.exists_cons_of_ne_nil (isHumpCut_pieces (b :: s)).ne_nil
    have hupper : b.isUpper = true := (Bool.and_eq_true_iff.mp hump).2
    rw [separate_cons_of_isUpper hupper] at ih
    rw [separate, if_pos hump, ih, hpieces, List.intercalate_cons_cons]
    rfl
  | case2 a b s hump hnil ih => exact absurd hnil (isHumpCut_pieces _).ne_nil
  | case3 a b s hump piece rest hpieces ih =>
    rw [separate, if_neg hump, ih, hpieces]
    cases rest with
    | nil => simp
    | cons q rest => simp [List.intercalate_cons_cons]
  | case4 s hs =>
    rw [List.intercalate_singleton, separate]
    exact hs

section
variable {a b : Char} (hump : isHump a b = true)

include hump

private theorem isAlpha_of_isHump : a.isAlpha = true ∧ b.isAlpha = true := by
  rw [isHump, Bool.and_eq_true] at hump
  simp [Char.isAlpha, hump]

/-- A key may be lowercased in two parts that meet in a hump. -/
theorem lower_append_of_isHump (front back : Text) :
    Text.lower (front ++ a :: b :: back) =
      Text.lower (front ++ [a]) ++ Text.lower (b :: back) := by
  obtain ⟨ha, hb⟩ := isAlpha_of_isHump hump
  rw [Text.lower, Text.lowerFrom_append (Text.isCaseIgnorable_of_isAlpha ha)
      (Text.ne_capitalSigma_of_isAlpha ha),
    Text.lowerFrom_cons_congr (Text.isCaseIgnorable_of_isAlpha hb)
      (Text.ne_capitalSigma_of_isAlpha hb) _ false]
  rfl

/-- So it may with an underscore between the two. -/
theorem lower_append_underscore (front back : Text) :
    Text.lower (front ++ a :: '_' :: back) =
      Text.lower (front ++ [a]) ++ '_' :: Text.lower back := by
  obtain ⟨ha, -⟩ := isAlpha_of_isHump hump
  have hunderscore : Text.lowerFrom (Text.isCased a) ('_' :: back) = '_' :: Text.lower back := by
    rw [Text.lowerFrom, Text.lowerAt_of_isInert (by decide), Text.casedAfter,
      if_neg (by decide +kernel), show Text.isCased '_' = false by decide +kernel]
    rfl
  rw [Text.lower, Text.lowerFrom_append (Text.isCaseIgnorable_of_isAlpha ha)
    (Text.ne_capitalSigma_of_isAlpha ha), hunderscore]
  rfl

end

/-- The lower case of pieces that meet in humps is that of each. -/
theorem lower_flatten {ps : List Text} (h : ps.IsChain Meet) :
    Text.lower ps.flatten = (ps.map Text.lower).flatten := by
  induction h with
  | nil => rfl
  | singleton p => simp
  | @cons_cons p q rest hmeet hrest ih =>
    obtain ⟨a, b, hlast, hhead, hump⟩ := hmeet
    obtain ⟨front, rfl⟩ := List.getLast?_eq_some_iff.mp hlast
    obtain ⟨back, rfl⟩ := List.head?_eq_some_iff.mp hhead
    calc Text.lower ((front ++ [a]) :: (b :: back) :: rest).flatten
        = Text.lower (front ++ a :: b :: (back ++ rest.flatten)) := by simp
      _ = Text.lower (front ++ [a]) ++ Text.lower ((b :: back) :: rest).flatten :=
          lower_append_of_isHump hump front _
      _ = (((front ++ [a]) :: (b :: back) :: rest).map Text.lower).flatten := by rw [ih]; rfl

/-- So it is with underscores between them. -/
theorem lower_intercalate {ps : List Text} (h : ps.IsChain Meet) :
    Text.lower (['_'].intercalate ps) = ['_'].intercalate (ps.map Text.lower) := by
  induction h with
  | nil => rfl
  | singleton p => simp
  | @cons_cons p q rest hmeet hrest ih =>
    obtain ⟨a, b, hlast, hhead, hump⟩ := hmeet
    obtain ⟨front, rfl⟩ := List.getLast?_eq_some_iff.mp hlast
    calc Text.lower (['_'].intercalate ((front ++ [a]) :: q :: rest))
        = Text.lower (front ++ a :: '_' :: ['_'].intercalate (q :: rest)) := by
          simp [List.intercalate_cons_cons]
      _ = Text.lower (front ++ [a]) ++ '_' :: Text.lower (['_'].intercalate (q :: rest)) :=
          lower_append_underscore hump front _
      _ = ['_'].intercalate (((front ++ [a]) :: q :: rest).map Text.lower) := by
          rw [ih]
          simp [List.intercalate_cons_cons]

/-- Joining adds a character less than there are texts. -/
theorem length_intercalate_underscore (p : Text) (rest : List Text) :
    (['_'].intercalate (p :: rest)).length = (p :: rest).flatten.length + rest.length := by
  induction rest generalizing p with
  | nil => simp
  | cons q rest ih =>
    rw [List.intercalate_cons_cons, List.length_append, List.length_append, ih]
    simp only [List.flatten_cons, List.length_append, List.length_cons, List.length_nil]
    omega

/-- The cut of a key at its humps, which are letters of ASCII, is into its pieces. The lower case of
the key is that of its pieces put together, and the suggestion is the same joined with underscores;
so the suggestion is longer than the lower case by the number of humps, and differs from it exactly
if the key is camelCase. -/
theorem suggestion_joins_pieces (key : Text) :
    (∀ a b, isHump a b = true ↔ ('a' ≤ a ∧ a ≤ 'z') ∧ 'A' ≤ b ∧ b ≤ 'Z') ∧
    (∀ ps, IsHumpCut key ps ↔ ps = pieces key) ∧
    key.lower = ((pieces key).map Text.lower).flatten ∧
    suggestion key = ['_'].intercalate ((pieces key).map Text.lower) ∧
    (suggestion key).length = key.lower.length + humpCount key ∧
    (isCamelCase key = true ↔ suggestion key ≠ key.lower) := by
  have hcut := isHumpCut_pieces key
  have hlower : key.lower = ((pieces key).map Text.lower).flatten := by
    rw [← lower_flatten hcut.meet, hcut.flatten_eq]
  have hsuggestion : suggestion key = ['_'].intercalate ((pieces key).map Text.lower) := by
    rw [suggestion, separate_eq_intercalate, lower_intercalate hcut.meet]
  have hlength : (suggestion key).length = key.lower.length + humpCount key := by
    have hcount := length_pieces key
    obtain ⟨p, rest, hpieces⟩ := List.exists_cons_of_ne_nil hcut.ne_nil
    rw [hpieces] at hlower hsuggestion hcount
    rw [hlower, hsuggestion, List.map_cons, length_intercalate_underscore, List.length_map]
    rw [List.length_cons] at hcount
    omega
  refine ⟨fun a b => isHump_iff, fun ps => isHumpCut_iff, hlower, hsuggestion, hlength, ?_⟩
  rw [isCamelCase_iff_humpCount]
  constructor
  · intro hcount heq
    rw [heq] at hlength
    omega
  · intro hne hcount
    -- Without a hump the key is its only piece.
    obtain ⟨p, hpieces⟩ := List.length_eq_one_iff.mp ((length_pieces key).trans (by rw [hcount]))
    rw [hpieces] at hlower hsuggestion
    exact hne (by rw [hlower, hsuggestion]; simp)

end TemplateLint.Key
