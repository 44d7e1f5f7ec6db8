import TemplateLint.Proofs.Basic
import TemplateLint.Text.Lowercase

/-!
# What lowercasing leaves and what it yields

A character keeps its place in lower case, or it becomes characters from `a` on. So no ASCII
upper-case letter is left, and no punctuation of ASCII comes or goes.

The context that decides about a capital sigma does not reach across a character that is not passed
over, so a text may be lowercased in two parts behind such a character (`lowerFrom_append`).

No character that stands in the lower case of another has a different lower case, wherever it
stands (`IsSettled`); so a text in lower case stays as it is (`lower_lower`).
-/

namespace TemplateLint.Text

-- Holds of every run of the table, and says all that is needed of it.
private def CaseRun.isProper (r : CaseRun) : Bool :=
  decide (0x61 ≤ r.target) && decide (r.first ≤ r.last) &&
    (decide (r.target + (r.last - r.first) < 0xD800) ||
      decide (0xE000 ≤ r.target) && decide (r.target + (r.last - r.first) < 0x110000))

private theorem lowercaseRuns_isProper : lowercaseRuns.all CaseRun.isProper = true := by
  decide +kernel

/-- A code point stays, or a run that holds it says where it goes. -/
theorem lowerCode_eq_or_exists (runs : List CaseRun) (n : Nat) :
    lowerCode runs n = n ∨
      ∃ r ∈ runs, r.holds n = true ∧ lowerCode runs n = r.target + (n - r.first) := by
  fun_induction lowerCode runs n with
  | case1 n => exact .inl rfl
  | case2 r rs n hlt => exact .inl rfl
  | case3 r rs n hlt hr => exact .inr ⟨r, List.mem_cons_self, hr, rfl⟩
  | case4 r rs n hlt hr ih =>
    rcases ih with ih | ⟨q, hq, hholds, htarget⟩
    · exact .inl ih
    · exact .inr ⟨q, List.mem_cons_of_mem r hq, hholds, htarget⟩

private theorem lowerCode_cases (n : Nat) :
    lowerCode lowercaseRuns n = n ∨
      0x61 ≤ lowerCode lowercaseRuns n ∧ (lowerCode lowercaseRuns n).isValidChar := by
  rcases lowerCode_eq_or_exists lowercaseRuns n with h | ⟨r, hr, hholds, htarget⟩
  · exact .inl h
  · right
    have hproper := List.all_eq_true.mp lowercaseRuns_isProper r hr
    simp only [CaseRun.isProper, Bool.and_eq_true, Bool.or_eq_true, decide_eq_true_eq] at hproper
    simp only [CaseRun.holds, Bool.and_eq_true, decide_eq_true_eq] at hholds
    rw [htarget]
    simp only [Nat.isValidChar]
    omega

-- Behind the letters of ASCII the table goes on at U+00C0.
private theorem lowercaseRuns_eq :
    ∃ runs, lowercaseRuns = ⟨0x41, 0x5A, 1, 0x61⟩ :: ⟨0xC0, 0xD6, 1, 0xE0⟩ :: runs := ⟨_, rfl⟩

private theorem lowerCode_upper {n : Nat} (h : 0x41 ≤ n ∧ n ≤ 0x5A) :
    lowerCode lowercaseRuns n = n + 0x20 := by
  obtain ⟨runs, hruns⟩ := lowercaseRuns_eq
  have hr : CaseRun.holds ⟨0x41, 0x5A, 1, 0x61⟩ n = true := by
    simp [CaseRun.holds, h, Nat.mod_one]
  rw [hruns, lowerCode, if_neg (Nat.not_lt.mpr h.1), if_pos hr]
  simp only
  omega

private theorem lowerCode_below {n : Nat} (h : n < 0x41 ∨ 0x5A < n ∧ n < 0xC0) :
    lowerCode lowercaseRuns n = n := by
  obtain ⟨runs, hruns⟩ := lowercaseRuns_eq
  have hr : ¬ CaseRun.holds ⟨0x41, 0x5A, 1, 0x61⟩ n = true := by
    simp only [CaseRun.holds, Bool.and_eq_true, decide_eq_true_eq]
    omega
  have hlt : n < 0xC0 := by omega
  rw [hruns, lowerCode, if_neg hr, lowerCode, if_pos hlt, ite_self]

/-- Whether a character is one that lowercasing neither changes nor yields in place of another:
an ASCII character that is no letter and stands before the lower-case letters. -/
def isInert (c : Char) : Bool := c.toNat < 0x41 || 0x5A < c.toNat && c.toNat < 0x61

/-- An inert character is its own lower case. -/
theorem lowerChar_of_isInert {c : Char} (h : isInert c = true) : lowerChar c = c := by
  simp only [isInert, Bool.or_eq_true, Bool.and_eq_true, decide_eq_true_eq] at h
  rw [lowerChar, lowerCode_below (by omega), Char.ofNat_toNat]

/-- A character is its own lower case, or the lower case is a character from `a` on. -/
theorem lowerChar_cases (c : Char) : lowerChar c = c ∨ 0x61 ≤ (lowerChar c).toNat := by
  rcases lowerCode_cases c.toNat with h | ⟨h, hv⟩
  · left
    rw [lowerChar, h, Char.ofNat_toNat]
  · right
    rw [lowerChar, toNat_charOfNat hv]
    exact h

/-- The upper-case letters of ASCII are those with the code points of `A` to `Z`. -/
theorem isUpper_iff {c : Char} : c.isUpper = true ↔ 0x41 ≤ c.toNat ∧ c.toNat ≤ 0x5A := by
  simp only [Char.isUpper, decide_eq_true_eq, UInt32.le_iff_toNat_le]
  rfl

/-- No character becomes an upper-case letter of ASCII. -/
theorem isUpper_lowerChar (c : Char) : (lowerChar c).isUpper = false := by
  rw [Bool.eq_false_iff, Ne, isUpper_iff]
  intro hl
  rcases lowerChar_cases c with h | h
  · rw [h] at hl
    have hu : (lowerChar c).toNat = c.toNat + 0x20 := by
      rw [lowerChar, lowerCode_upper hl, toNat_charOfNat (by simp only [Nat.isValidChar]; omega)]
    rw [h] at hu
    omega
  · omega

/-- A character that is not inert becomes no inert character. -/
theorem isInert_lowerChar {c : Char} (h : isInert c = false) : isInert (lowerChar c) = false := by
  rcases lowerChar_cases c with hl | hl
  · rw [hl]
    exact h
  · simp only [isInert, Bool.or_eq_false_iff, Bool.and_eq_false_iff, decide_eq_false_iff_not]
    omega

/-- The lower case of an inert character, wherever it stands, is that character. -/
theorem lowerAt_of_isInert {preceded : Bool} {c : Char} {following : Text}
    (h : isInert c = true) : lowerAt preceded c following = [c] := by
  have hs : c ≠ capitalSigma := by
    rintro rfl
    cases h
  have hi : c ≠ Char.ofNat 0x130 := by
    rintro rfl
    cases h
  rw [lowerAt, if_neg hs, if_neg hi, lowerChar_of_isInert h]

/-- The lower case of a character is never empty. -/
theorem lowerAt_ne_nil (preceded : Bool) (c : Char) (following : Text) :
    lowerAt preceded c following ≠ [] := by
  unfold lowerAt
  split
  · exact List.cons_ne_nil _ _
  split
  · exact List.cons_ne_nil _ _
  · exact List.cons_ne_nil _ _

private theorem mem_lowerAt {preceded : Bool} {c d : Char} {following : Text}
    (h : d ∈ lowerAt preceded c following) :
    c ≠ Char.ofNat 0x130 ∧ d = lowerChar c ∨ d = Char.ofNat 0x3C2 ∨ d = Char.ofNat 0x3C3 ∨
      d = 'i' ∨ d = Char.ofNat 0x307 := by
  unfold lowerAt at h
  split at h
  · rw [List.mem_singleton] at h
    split at h
    · exact .inr (.inl h)
    · exact .inr (.inr (.inl h))
  split at h
  · simp only [List.mem_cons, List.not_mem_nil, or_false] at h
    exact .inr (.inr (.inr h))
  · next hc => exact .inl ⟨hc, List.mem_singleton.mp h⟩

/-- The lower case of a character that is not inert holds no inert character. -/
theorem isInert_of_mem_lowerAt {preceded : Bool} {c d : Char} {following : Text}
    (hc : isInert c = false) (h : d ∈ lowerAt preceded c following) : isInert d = false := by
  rcases mem_lowerAt h with ⟨-, rfl⟩ | rfl | rfl | rfl | rfl
  · exact isInert_lowerChar hc
  all_goals decide

/-- The lower case of a character holds no upper-case letter of ASCII. -/
theorem isUpper_of_mem_lowerAt {preceded : Bool} {c d : Char} {following : Text}
    (h : d ∈ lowerAt preceded c following) : d.isUpper = false := by
  rcases mem_lowerAt h with ⟨-, rfl⟩ | rfl | rfl | rfl | rfl
  · exact isUpper_lowerChar c
  all_goals decide

/-- What stands in the lower case of a text stands in that of one of its characters. -/
theorem exists_of_mem_lowerFrom {preceded : Bool} {s : Text} {d : Char}
    (h : d ∈ lowerFrom preceded s) : ∃ context c following, d ∈ lowerAt context c following := by
  induction s generalizing preceded with
  | nil => cases h
  | cons c s ih =>
    rw [lowerFrom, List.mem_append] at h
    rcases h with h | h
    · exact ⟨preceded, c, s, h⟩
    · exact ih h

/-- A text in lower case holds no upper-case letter of ASCII. -/
theorem isUpper_of_mem_lower {s : Text} {d : Char} (h : d ∈ s.lower) : d.isUpper = false := by
  obtain ⟨_, _, _, hd⟩ := exists_of_mem_lowerFrom h
  exact isUpper_of_mem_lowerAt hd

/-- An inert character in the lower case of a text stands in the text. -/
theorem mem_of_mem_lowerFrom {preceded : Bool} {s : Text} {d : Char} (hd : isInert d = true)
    (h : d ∈ lowerFrom preceded s) : d ∈ s := by
  induction s generalizing preceded with
  | nil => cases h
  | cons c s ih =>
    rw [lowerFrom, List.mem_append] at h
    rcases h with h | h
    · cases hc : isInert c with
      | true =>
        rw [lowerAt_of_isInert hc, List.mem_singleton] at h
        exact h ▸ List.mem_cons_self
      | false =>
        rw [isInert_of_mem_lowerAt hc h] at hd
        cases hd
    · exact List.mem_cons_of_mem c (ih h)

/-! ### How far the context of a character reaches -/

/-- What follows a character that is not passed over has no say in what stands before it. -/
theorem startsCased_append {a : Char} (ha : isCaseIgnorable a = false) (s t : Text) :
    startsCased (s ++ a :: t) = startsCased (s ++ [a]) := by
  induction s with
  | nil => simp [startsCased, ha]
  | cons c s ih =>
    cases hc : isCaseIgnorable c with
    | true => simpa [startsCased, hc] using ih
    | false => simp [startsCased, hc]

/-- The following text matters to a capital sigma only. -/
theorem lowerAt_congr {preceded : Bool} {c : Char} {s t : Text}
    (h : c = capitalSigma → startsCased s = startsCased t) :
    lowerAt preceded c s = lowerAt preceded c t := by
  by_cases hc : c = capitalSigma
  · rw [lowerAt, lowerAt, if_pos hc, if_pos hc, h hc]
  · rw [lowerAt, lowerAt, if_neg hc, if_neg hc]

/-- Behind a character that is not passed over and is no capital sigma, lowercasing starts anew with
that character as its context. -/
theorem lowerFrom_append {a : Char} (ha : isCaseIgnorable a = false) (hsigma : a ≠ capitalSigma)
    (preceded : Bool) (s t : Text) :
    lowerFrom preceded (s ++ a :: t) =
      lowerFrom preceded (s ++ [a]) ++ lowerFrom (isCased a) t := by
  induction s generalizing preceded with
  | nil =>
    have hafter : casedAfter preceded a = isCased a := by
      rw [casedAfter, ha]
      exact if_neg Bool.false_ne_true
    rw [List.nil_append, List.nil_append, lowerFrom, lowerFrom, lowerFrom, List.append_nil, hafter,
      lowerAt_congr fun h => absurd h hsigma]
  | cons c s ih =>
    rw [List.cons_append, List.cons_append, lowerFrom, lowerFrom, ih, ← List.append_assoc,
      lowerAt_congr fun _ => startsCased_append ha s t]

/-- The context before a text has no say in it if the text starts with a character that is not
passed over and is no capital sigma. -/
theorem lowerFrom_cons_congr {c : Char} (hc : isCaseIgnorable c = false) (hsigma : c ≠ capitalSigma)
    (preceded other : Bool) (s : Text) :
    lowerFrom preceded (c :: s) = lowerFrom other (c :: s) := by
  rw [lowerFrom, lowerFrom, casedAfter, casedAfter, hc, lowerAt, lowerAt, if_neg hsigma,
    if_neg hsigma]
  rfl

private theorem inRanges_caseIgnorable :
    ∀ n < 0x7B, 0x41 ≤ n → n ≠ 0x5E → n ≠ 0x60 → inRanges caseIgnorableRanges n = false := by
  decide +kernel

/-- The lower-case letters of ASCII are those with the code points of `a` to `z`. -/
theorem isLower_iff {c : Char} : c.isLower = true ↔ 0x61 ≤ c.toNat ∧ c.toNat ≤ 0x7A := by
  simp only [Char.isLower, Bool.and_eq_true, decide_eq_true_eq, ge_iff_le, UInt32.le_iff_toNat_le]
  rfl

/-- A letter of ASCII is not passed over. -/
theorem isCaseIgnorable_of_isAlpha {c : Char} (h : c.isAlpha = true) :
    isCaseIgnorable c = false := by
  rw [Char.isAlpha, Bool.or_eq_true, isUpper_iff, isLower_iff] at h
  exact inRanges_caseIgnorable c.toNat (by omega) (by omega) (by omega) (by omega)

/-- A letter of ASCII is no capital sigma. -/
theorem ne_capitalSigma_of_isAlpha {c : Char} (h : c.isAlpha = true) : c ≠ capitalSigma := by
  rintro rfl
  cases h

/-! ### What is in lower case already -/

/-- The greatest code point that a run maps to. -/
def CaseRun.top (r : CaseRun) : Nat := r.target + (r.last - r.first)

/-- Whether what a run maps to stands behind another run, or between its code points. -/
def CaseRun.misses (r q : CaseRun) : Bool :=
  Nat.blt q.last r.target ||
    q.stride == 2 && (r.stride == 2 || r.first == r.last) && (q.first + r.target) % 2 == 1

/-- Whether what a run maps to is held by no run that a search among ascending ones comes to. -/
def CaseRun.clears (r : CaseRun) : List CaseRun → Bool
  | [] => true
  | q :: qs => Nat.blt r.top q.first || r.misses q && r.clears qs

-- `Nat.blt` is what keeps this check of all pairs of runs short.
private theorem lowercaseRuns_clear :
    lowercaseRuns.all (fun r => r.clears lowercaseRuns) = true := by
  decide +kernel

private theorem lowercaseRuns_ne_dotted :
    lowercaseRuns.all (fun r => Nat.blt r.top 0x130 || Nat.blt 0x130 r.target) = true := by
  decide +kernel

private theorem le_top_of_holds {r : CaseRun} {n : Nat} (h : r.holds n = true) :
    r.target + (n - r.first) ≤ r.top := by
  simp only [CaseRun.holds, Bool.and_eq_true, decide_eq_true_eq] at h
  rw [CaseRun.top]
  omega

private theorem holds_eq_false_of_misses {r q : CaseRun} {n : Nat} (hmisses : r.misses q = true)
    (h : r.holds n = true) : q.holds (r.target + (n - r.first)) = false := by
  simp only [CaseRun.misses, Bool.or_eq_true, Bool.and_eq_true, Nat.blt_eq, beq_iff_eq] at hmisses
  simp only [CaseRun.holds, Bool.and_eq_true, decide_eq_true_eq, beq_iff_eq] at h
  rw [Bool.eq_false_iff]
  intro hholds
  simp only [CaseRun.holds, Bool.and_eq_true, decide_eq_true_eq, beq_iff_eq] at hholds
  rcases hmisses with hbehind | ⟨⟨hstride, heven | hsingle⟩, hodd⟩
  · omega
  · -- Two runs of every second code point that are out of step.
    rw [heven] at h
    rw [hstride] at hholds
    omega
  · rw [hstride] at hholds
    omega

private theorem lowerCode_of_clears {r : CaseRun} {n : Nat} (h : r.holds n = true)
    {runs : List CaseRun} (hclears : r.clears runs = true) :
    lowerCode runs (r.target + (n - r.first)) = r.target + (n - r.first) := by
  induction runs with
  | nil => rfl
  | cons q qs ih =>
    have htop := le_top_of_holds h
    rw [CaseRun.clears, Bool.or_eq_true, Bool.and_eq_true, Nat.blt_eq] at hclears
    rw [lowerCode]
    split
    · rfl
    · next hle =>
      obtain ⟨hmisses, hrest⟩ := hclears.resolve_left (by omega)
      rw [holds_eq_false_of_misses hmisses h, if_neg Bool.false_ne_true]
      exact ih hrest

/-- The lower case of a character has the code point that the table gives. -/
theorem toNat_lowerChar (c : Char) : (lowerChar c).toNat = lowerCode lowercaseRuns c.toNat := by
  rcases lowerCode_cases c.toNat with h | ⟨-, hvalid⟩
  · rw [lowerChar, h, Char.ofNat_toNat]
  · exact toNat_charOfNat hvalid

/-- The lower case of a character is its own lower case. -/
theorem lowerChar_lowerChar (c : Char) : lowerChar (lowerChar c) = lowerChar c := by
  have hcode : lowerCode lowercaseRuns (lowerCode lowercaseRuns c.toNat) =
      lowerCode lowercaseRuns c.toNat := by
    rcases lowerCode_eq_or_exists lowercaseRuns c.toNat with h | ⟨r, hr, hholds, htarget⟩
    · rw [h, h]
    · rw [htarget]
      exact lowerCode_of_clears hholds (List.all_eq_true.mp lowercaseRuns_clear r hr)
  rw [lowerChar, toNat_lowerChar, hcode]
  rfl

/-- Nothing becomes a capital sigma. -/
theorem lowerChar_ne_capitalSigma (c : Char) : lowerChar c ≠ capitalSigma := by
  intro h
  have hstays := lowerChar_lowerChar c
  rw [h] at hstays
  exact absurd hstays (by decide +kernel)

/-- Nothing else becomes a capital I with a dot above. -/
theorem lowerChar_ne_dotted {c : Char} (hc : c ≠ Char.ofNat 0x130) :
    lowerChar c ≠ Char.ofNat 0x130 := by
  intro h
  have hcode := congrArg Char.toNat h
  rw [toNat_lowerChar, toNat_charOfNat (by decide)] at hcode
  rcases lowerCode_eq_or_exists lowercaseRuns c.toNat with hstays | ⟨r, hr, hholds, htarget⟩
  · have hnat : c.toNat = 0x130 := hstays.symm.trans hcode
    rw [← hnat, Char.ofNat_toNat] at hc
    exact hc rfl
  · have hends := List.all_eq_true.mp lowercaseRuns_ne_dotted r hr
    have htop := le_top_of_holds hholds
    rw [Bool.or_eq_true, Nat.blt_eq, Nat.blt_eq] at hends
    omega

/-- A character that is its own lower case wherever it stands. -/
def IsSettled (c : Char) : Prop := ∀ preceded following, lowerAt preceded c following = [c]

/-- A character that is its own lower case is settled, unless it is one of the two that depend on
what stands around them. -/
theorem isSettled_of_lowerChar_eq {c : Char} (hsigma : c ≠ capitalSigma)
    (hdotted : c ≠ Char.ofNat 0x130) (h : lowerChar c = c) : IsSettled c := by
  intro preceded following
  rw [lowerAt, if_neg hsigma, if_neg hdotted, h]

/-- The lower case of a character consists of settled ones. -/
theorem isSettled_of_mem_lowerAt {preceded : Bool} {c d : Char} {following : Text}
    (h : d ∈ lowerAt preceded c following) : IsSettled d := by
  rcases mem_lowerAt h with ⟨hc, rfl⟩ | rfl | rfl | rfl | rfl
  · exact isSettled_of_lowerChar_eq (lowerChar_ne_capitalSigma c) (lowerChar_ne_dotted hc)
      (lowerChar_lowerChar c)
  all_goals exact isSettled_of_lowerChar_eq (by decide) (by decide) (by decide +kernel)

/-- Lowercasing leaves settled characters as they are, in any context. -/
theorem lowerFrom_eq_self {s : Text} (h : ∀ c ∈ s, IsSettled c) (preceded : Bool) :
    lowerFrom preceded s = s := by
  induction s generalizing preceded with
  | nil => rfl
  | cons c s ih =>
    rw [lowerFrom, h c List.mem_cons_self, ih fun d hd => h d (List.mem_cons_of_mem c hd)]
    rfl

/-- A text in lower case is its own lower case. -/
theorem lower_lower (s : Text) : s.lower.lower = s.lower := by
  apply lowerFrom_eq_self
  intro d hd
  obtain ⟨_, _, _, hd⟩ := exists_of_mem_lowerFrom hd
  exact isSettled_of_mem_lowerAt hd

end TemplateLint.Text
