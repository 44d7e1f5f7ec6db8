import TemplateLint.Proofs.Encoding.Stretch

/-!
# Well-formed UTF-8

The well-formed byte sequences of UTF-8 are those of its table: nine rows of bounds, each for a
lead byte and the bytes that follow it. What the decoder sees at the front of some bytes is held
against the table (`front_eq_char_iff`), and the table against the encoder
(`isCharacter_iff_exists_encodeChar`). Both together say that decoding is the inverse of encoding,
and that the bytes it accepts are exactly the well-formed ones.
-/

namespace TemplateLint.Encoding

namespace Utf8

/-- The bounds of a lead byte, and those of each byte that follows it. -/
structure Row where
  lead : UInt8 × UInt8
  following : List (UInt8 × UInt8)
deriving Repr, DecidableEq

/-- The table of well-formed byte sequences, a row for each range of code points. -/
def rows : List Row :=
  [⟨(0x00, 0x7F), []⟩,
   ⟨(0xC2, 0xDF), [(0x80, 0xBF)]⟩,
   ⟨(0xE0, 0xE0), [(0xA0, 0xBF), (0x80, 0xBF)]⟩,
   ⟨(0xE1, 0xEC), [(0x80, 0xBF), (0x80, 0xBF)]⟩,
   ⟨(0xED, 0xED), [(0x80, 0x9F), (0x80, 0xBF)]⟩,
   ⟨(0xEE, 0xEF), [(0x80, 0xBF), (0x80, 0xBF)]⟩,
   ⟨(0xF0, 0xF0), [(0x90, 0xBF), (0x80, 0xBF), (0x80, 0xBF)]⟩,
   ⟨(0xF1, 0xF3), [(0x80, 0xBF), (0x80, 0xBF), (0x80, 0xBF)]⟩,
   ⟨(0xF4, 0xF4), [(0x80, 0x8F), (0x80, 0xBF), (0x80, 0xBF)]⟩]

/-- Whether a byte lies within bounds. -/
def within (bounds : UInt8 × UInt8) (b : UInt8) : Bool := bounds.1 ≤ b && b ≤ bounds.2

/-- Whether bytes lie within bounds one by one, as many as there are bounds. -/
def fits : List (UInt8 × UInt8) → List UInt8 → Bool
  | [], [] => true
  | bounds :: others, b :: bs => within bounds b && fits others bs
  | _, _ => false

/-- Whether bytes are one character. -/
def isCharacter : List UInt8 → Bool
  | [] => false
  | b :: bs => rows.any fun row => within row.lead b && fits row.following bs

/-- Bytes that are characters one after the other. -/
inductive WellFormed : List UInt8 → Prop where
  | nil : WellFormed []
  | append {bytes rest : List UInt8} : isCharacter bytes = true → WellFormed rest →
    WellFormed (bytes ++ rest)

/-! ### The decoder against the table -/

/-- Bytes within bounds are as many as the bounds. -/
theorem length_of_fits {bounds : List (UInt8 × UInt8)} {bs : List UInt8}
    (h : fits bounds bs = true) : bs.length = bounds.length := by
  fun_induction fits bounds bs with
  | case1 => rfl
  | case2 bound bounds b bs ih =>
    rw [Bool.and_eq_true] at h
    rw [List.length_cons, List.length_cons, ih h.2]
  | case3 bounds bs h1 h2 => exact absurd h Bool.false_ne_true

private def tail : UInt8 × UInt8 := (0x80, 0xBF)

private def Lead.bounds (l : Lead) : List (UInt8 × UInt8) :=
  (l.low, l.high) :: List.replicate (l.following - 1) tail

/-- The share of the code point that a byte has at the front of a character. -/
def leadBits (b : UInt8) : Nat :=
  if b < 0x80 then b.toNat
  else if b < 0xE0 then b.toNat - 0xC0
  else if b < 0xF0 then b.toNat - 0xE0
  else b.toNat - 0xF0

/-- The code point after further bytes, each of which adds six bits. -/
def extend (bits : Nat) (bs : List UInt8) : Nat :=
  bs.foldl (fun n b => n * 0x40 + (b.toNat - 0x80)) bits

/-- The code point of a lead byte and the bytes that follow it. -/
def codePoint (b : UInt8) (bs : List UInt8) : Nat := extend (leadBits b) bs

private theorem forall_byte {p : UInt8 → Prop} (h : ∀ n : Fin 256, p (UInt8.ofFin n))
    (b : UInt8) : p b := by
  have hb := h b.toFin
  rwa [UInt8.ofFin_toFin] at hb

-- The rows for a lead byte are those of the decoder. Checked for each of the 256 bytes.
private theorem following_rows (b : UInt8) :
    (rows.filter fun row => within row.lead b).map Row.following =
      if b < 0x80 then [[]] else ((lead? b).map Lead.bounds).toList := by
  revert b
  apply forall_byte
  decide +kernel

private theorem lead?_facts (b : UInt8) :
    0x80 ≤ b →
      (lead? b).all (fun l => l.bits == leadBits b && decide (0 < l.following)) = true := by
  revert b
  apply forall_byte
  decide +kernel

private theorem isCharacter_cons (b : UInt8) (bs : List UInt8) :
    isCharacter (b :: bs) =
      if b < 0x80 then fits [] bs else (lead? b).any (fun l => fits l.bounds bs) := by
  have hany : isCharacter (b :: bs) =
      ((rows.filter fun row => within row.lead b).map Row.following).any (fits · bs) := by
    rw [isCharacter, List.any_map, List.any_filter]
    rfl
  rw [hany, following_rows]
  split
  · simp
  · cases lead? b <;> simp

-- The induction is on the bytes still needed; all but the first of them are plain tail bytes.
private theorem continuation_eq_char_iff {bits seen needed : Nat} {low high : UInt8}
    {bs : List UInt8} {c : Char} {more : Nat} :
    continuation bits seen (needed + 1) low high bs = .char c more ↔
      fits ((low, high) :: List.replicate needed tail) (bs.take (needed + 1)) = true ∧
        more = seen + (needed + 1) ∧ c = Char.ofNat (extend bits (bs.take (needed + 1))) := by
  induction needed generalizing bits seen low high bs with
  | zero =>
    cases bs with
    | nil => simp [continuation, fits]
    | cons b bs =>
      by_cases hb : low ≤ b ∧ b ≤ high
      · simp [continuation, fits, within, extend, hb, eq_comm, and_comm]
      · simp [continuation, fits, within, hb]
  | succ needed ih =>
    cases bs with
    | nil => simp [continuation, fits]
    | cons b bs =>
      rw [continuation]
      by_cases hb : low ≤ b ∧ b ≤ high
      · rw [if_pos hb, ih, List.take_succ_cons, List.replicate_succ, fits]
        simp only [within, hb, decide_true, Bool.and_self, Bool.true_and, extend,
          List.foldl_cons, tail]
        constructor
        · rintro ⟨hf, hm, hc⟩
          exact ⟨hf, by omega, hc⟩
        · rintro ⟨hf, hm, hc⟩
          exact ⟨hf, by omega, hc⟩
      · rw [if_neg hb, List.take_succ_cons, fits]
        simp [within, hb]

private theorem fits_nil_iff {bs : List UInt8} : fits [] bs = true ↔ bs = [] := by
  cases bs <;> simp [fits]

private theorem not_isCharacter_of_startsSurrogate {b : UInt8} {bs : List UInt8} {more : Nat}
    (h : startsSurrogate b bs = true) : isCharacter (b :: bs.take more) = false := by
  cases bs with
  | nil => exact absurd h Bool.false_ne_true
  | cons c cs =>
    cases cs with
    | cons d ds => exact absurd h Bool.false_ne_true
    | nil =>
      have hb : b = 0xED := by
        simp only [startsSurrogate, Bool.and_eq_true, beq_iff_eq] at h
        exact h.1.1
      subst hb
      rw [isCharacter_cons, Bool.eq_false_iff]
      intro hf
      have hl : ([c].take more).length = 2 := length_of_fits hf
      simp only [List.length_take, List.length_cons, List.length_nil] at hl
      omega

/-- What the decoder takes for a character is what the table has for one. -/
theorem front_eq_char_iff {b : UInt8} {bs : List UInt8} {c : Char} {more : Nat} :
    front b bs = .char c more ↔
      more ≤ bs.length ∧ isCharacter (b :: bs.take more) = true ∧
        c = Char.ofNat (codePoint b (bs.take more)) := by
  unfold front
  split
  · next hb =>
    rw [isCharacter_cons, if_pos hb, fits_nil_iff, List.take_eq_nil_iff]
    constructor
    · intro h
      obtain ⟨rfl, rfl⟩ := Front.char.inj h
      simp [codePoint, leadBits, extend, hb]
    · rintro ⟨hm, h0, rfl⟩
      have hmore : more = 0 := by
        rcases h0 with h0 | h0
        · exact h0
        · simpa [h0] using hm
      subst hmore
      simp [codePoint, leadBits, extend, hb]
  · next hb =>
    split
    · next hs =>
      rw [not_isCharacter_of_startsSurrogate hs]
      simp
    · next hs =>
      have hfacts := lead?_facts b (UInt8.not_lt.mp hb)
      rw [isCharacter_cons, if_neg hb]
      cases hl : lead? b with
      | none => simp
      | some l =>
        simp only [hl, Option.all_some, Bool.and_eq_true, beq_iff_eq, decide_eq_true_eq] at hfacts
        obtain ⟨needed, hn⟩ : ∃ needed, l.following = needed + 1 :=
          ⟨l.following - 1, by omega⟩
        have hbounds : l.bounds = (l.low, l.high) :: List.replicate needed tail := by
          rw [Lead.bounds, hn, Nat.add_sub_cancel]
        have hlength : l.bounds.length = needed + 1 := by
          rw [hbounds, List.length_cons, List.length_replicate]
        simp only [hn, Option.any_some, codePoint, ← hfacts.1]
        rw [continuation_eq_char_iff, ← hbounds]
        constructor
        · rintro ⟨hf, rfl, rfl⟩
          have ht := length_of_fits hf
          rw [List.length_take, hlength] at ht
          rw [Nat.zero_add]
          exact ⟨by omega, hf, rfl⟩
        · rintro ⟨hm, hf, rfl⟩
          have ht := length_of_fits hf
          rw [List.length_take, hlength] at ht
          have hmore : more = needed + 1 := by omega
          subst hmore
          exact ⟨hf, (Nat.zero_add _).symm, rfl⟩

private theorem continuation_bad_append {bits seen needed : Nat} {low high : UInt8}
    {bs : List UInt8} {more : Nat} {reason : Reason} (ext : List UInt8)
    (h : continuation bits seen needed low high bs = .bad more reason) :
    continuation bits seen needed low high (bs ++ ext) = .bad more reason := by
  fun_induction continuation bits seen needed low high bs with
  | case1 => cases h
  | case2 => cases h
  | case3 bits seen low high needed b bs hb ih =>
    rw [List.cons_append, continuation, if_pos hb]
    exact ih h
  | case4 bits seen low high needed b bs hb =>
    rw [List.cons_append, continuation, if_neg hb]
    exact h

-- Only `ED` with nothing behind it can become such a start, and that is cut short as it is.
private theorem startsSurrogate_append {b : UInt8} {bs : List UInt8} (ext : List UInt8)
    (h : startsSurrogate b bs = false) (hne : bs ≠ []) : startsSurrogate b (bs ++ ext) = false := by
  cases bs with
  | nil => exact absurd rfl hne
  | cons c cs =>
    cases cs with
    | cons d ds => rfl
    | nil =>
      cases ext with
      | nil => exact h
      | cons e es => rfl

/-- UTF-8 is judged without regard to the bytes behind a complete character. -/
theorem isSteady_front : IsSteady front where
  fits h := (front_eq_char_iff.mp h).1
  char_append ext h := by
    obtain ⟨hm, hc, rfl⟩ := front_eq_char_iff.mp h
    rw [front_eq_char_iff, List.take_append_of_le_length hm, List.length_append]
    exact ⟨by omega, hc, rfl⟩
  bad_append := by
    intro b bs more reason ext h
    unfold front at h
    split at h
    · cases h
    · next hb =>
      split at h
      · cases h
      · next hs =>
        rw [Bool.not_eq_true] at hs
        cases hl : lead? b with
        | none =>
          rw [hl] at h
          have hed : b ≠ 0xED := by
            rintro rfl
            cases hl
          have hs' : startsSurrogate b (bs ++ ext) = false := by
            unfold startsSurrogate
            split
            · simp [hed]
            · rfl
          rw [front, if_neg hb, hs', hl]
          exact h
        | some l =>
          rw [hl] at h
          have hne : bs ≠ [] := by
            rintro rfl
            have hfacts := lead?_facts b (UInt8.not_lt.mp hb)
            simp only [hl, Option.all_some, Bool.and_eq_true, decide_eq_true_eq] at hfacts
            obtain ⟨needed, hn⟩ : ∃ needed, l.following = needed + 1 :=
              ⟨l.following - 1, by omega⟩
            simp only [hn, continuation] at h
            cases h
          rw [front, if_neg hb, startsSurrogate_append ext hs hne, hl]
          exact continuation_bad_append ext h

/-! ### The encoder against the table -/

private theorem isCharacter_one {b : UInt8} : isCharacter [b] = true ↔ b.toNat ≤ 0x7F := by
  simp [isCharacter, rows, fits, within, UInt8.le_iff_toNat_le]

private theorem isCharacter_two {b x : UInt8} :
    isCharacter [b, x] = true ↔
      (0xC2 ≤ b.toNat ∧ b.toNat ≤ 0xDF) ∧ 0x80 ≤ x.toNat ∧ x.toNat ≤ 0xBF := by
  simp [isCharacter, rows, fits, within, UInt8.le_iff_toNat_le]

private theorem isCharacter_three {b x y : UInt8} :
    isCharacter [b, x, y] = true ↔
      (0xE0 ≤ b.toNat ∧ b.toNat ≤ 0xEF) ∧ (0x80 ≤ x.toNat ∧ x.toNat ≤ 0xBF) ∧
        (0x80 ≤ y.toNat ∧ y.toNat ≤ 0xBF) ∧ (b.toNat = 0xE0 → 0xA0 ≤ x.toNat) ∧
        (b.toNat = 0xED → x.toNat ≤ 0x9F) := by
  simp only [isCharacter, rows, fits, within, UInt8.le_iff_toNat_le, UInt8.reduceToNat,
    List.any_cons, List.any_nil, Bool.and_true, Bool.and_false, Bool.or_false, Bool.false_or,
    Bool.or_eq_true, Bool.and_eq_true, decide_eq_true_eq]
  omega

private theorem isCharacter_four {b x y z : UInt8} :
    isCharacter [b, x, y, z] = true ↔
      (0xF0 ≤ b.toNat ∧ b.toNat ≤ 0xF4) ∧ (0x80 ≤ x.toNat ∧ x.toNat ≤ 0xBF) ∧
        (0x80 ≤ y.toNat ∧ y.toNat ≤ 0xBF) ∧ (0x80 ≤ z.toNat ∧ z.toNat ≤ 0xBF) ∧
        (b.toNat = 0xF0 → 0x90 ≤ x.toNat) ∧ (b.toNat = 0xF4 → x.toNat ≤ 0x8F) := by
  simp only [isCharacter, rows, fits, within, UInt8.le_iff_toNat_le, UInt8.reduceToNat,
    List.any_cons, List.any_nil, Bool.and_true, Bool.and_false, Bool.or_false, Bool.false_or,
    Bool.or_eq_true, Bool.and_eq_true, decide_eq_true_eq]
  omega

private theorem isCharacter_more {b x y z w : UInt8} {bs : List UInt8} :
    isCharacter (b :: x :: y :: z :: w :: bs) = false := by
  simp [isCharacter, rows, fits]

private theorem codePoint_one {b : UInt8} (h : b.toNat ≤ 0x7F) : codePoint b [] = b.toNat := by
  simp only [codePoint, extend, leadBits, UInt8.lt_iff_toNat_lt, UInt8.reduceToNat, List.foldl_nil]
  rw [if_pos (by omega)]

private theorem codePoint_two {b x : UInt8} (h : 0xC2 ≤ b.toNat ∧ b.toNat ≤ 0xDF) :
    codePoint b [x] = (b.toNat - 0xC0) * 0x40 + (x.toNat - 0x80) := by
  simp only [codePoint, extend, leadBits, UInt8.lt_iff_toNat_lt, UInt8.reduceToNat,
    List.foldl_cons, List.foldl_nil]
  rw [if_neg (by omega), if_pos (by omega)]

private theorem codePoint_three {b x y : UInt8} (h : 0xE0 ≤ b.toNat ∧ b.toNat ≤ 0xEF) :
    codePoint b [x, y] =
      ((b.toNat - 0xE0) * 0x40 + (x.toNat - 0x80)) * 0x40 + (y.toNat - 0x80) := by
  simp only [codePoint, extend, leadBits, UInt8.lt_iff_toNat_lt, UInt8.reduceToNat,
    List.foldl_cons, List.foldl_nil]
  rw [if_neg (by omega), if_neg (by omega), if_pos (by omega)]

private theorem codePoint_four {b x y z : UInt8} (h : 0xF0 ≤ b.toNat ∧ b.toNat ≤ 0xF4) :
    codePoint b [x, y, z] =
      (((b.toNat - 0xF0) * 0x40 + (x.toNat - 0x80)) * 0x40 + (y.toNat - 0x80)) * 0x40 +
        (z.toNat - 0x80) := by
  simp only [codePoint, extend, leadBits, UInt8.lt_iff_toNat_lt, UInt8.reduceToNat,
    List.foldl_cons, List.foldl_nil]
  rw [if_neg (by omega), if_neg (by omega), if_neg (by omega)]

/-- The bytes of a row are those that the encoder writes for their code point. -/
theorem encodeChar_codePoint {b : UInt8} {bs : List UInt8} (h : isCharacter (b :: bs) = true) :
    encodeChar (Char.ofNat (codePoint b bs)) = b :: bs := by
  match bs with
  | [] =>
    have hb := isCharacter_one.mp h
    rw [encodeChar, codePoint_one hb, toNat_charOfNat (by simp only [Nat.isValidChar]; omega),
      if_pos (by omega)]
    simp only [List.cons.injEq, toUInt8_eq_iff, and_true]
    omega
  | [x] =>
    have hb := isCharacter_two.mp h
    rw [encodeChar, codePoint_two hb.1, toNat_charOfNat (by simp only [Nat.isValidChar]; omega),
      if_neg (by omega), if_pos (by omega)]
    simp only [List.cons.injEq, toUInt8_eq_iff, and_true]
    omega
  | [x, y] =>
    have hb := isCharacter_three.mp h
    rw [encodeChar, codePoint_three hb.1, toNat_charOfNat (by simp only [Nat.isValidChar]; omega),
      if_neg (by omega), if_neg (by omega), if_pos (by omega)]
    simp only [List.cons.injEq, toUInt8_eq_iff, and_true]
    omega
  | [x, y, z] =>
    have hb := isCharacter_four.mp h
    rw [encodeChar, codePoint_four hb.1, toNat_charOfNat (by simp only [Nat.isValidChar]; omega),
      if_neg (by omega), if_neg (by omega), if_neg (by omega)]
    simp only [List.cons.injEq, toUInt8_eq_iff, and_true]
    omega
  | x :: y :: z :: w :: bs =>
    rw [isCharacter_more] at h
    exact absurd h Bool.false_ne_true

/-- The bytes that the encoder writes for a character are those of a row, and the character's code
point is theirs. -/
theorem exists_encodeChar_eq (c : Char) :
    ∃ b bs, encodeChar c = b :: bs ∧ isCharacter (b :: bs) = true ∧ codePoint b bs = c.toNat := by
  have hc : c.toNat < 0xD800 ∨ 0xDFFF < c.toNat ∧ c.toNat < 0x110000 := c.valid
  unfold encodeChar
  dsimp only
  split
  · have hb : isCharacter [c.toNat.toUInt8] = true := by
      simp only [isCharacter_one, UInt8.toNat_ofNat']
      omega
    refine ⟨_, _, rfl, hb, ?_⟩
    simp only [codePoint_one (isCharacter_one.mp hb), UInt8.toNat_ofNat']
    omega
  split
  · refine ⟨_, _, rfl, isCharacter_two.mpr ?_, ?_⟩
    · simp only [UInt8.toNat_ofNat']
      omega
    · rw [codePoint_two (by simp only [UInt8.toNat_ofNat']; omega)]
      simp only [UInt8.toNat_ofNat']
      omega
  split
  · refine ⟨_, _, rfl, isCharacter_three.mpr ?_, ?_⟩
    · simp only [UInt8.toNat_ofNat']
      omega
    · rw [codePoint_three (by simp only [UInt8.toNat_ofNat']; omega)]
      simp only [UInt8.toNat_ofNat']
      omega
  · refine ⟨_, _, rfl, isCharacter_four.mpr ?_, ?_⟩
    · simp only [UInt8.toNat_ofNat']
      omega
    · rw [codePoint_four (by simp only [UInt8.toNat_ofNat']; omega)]
      simp only [UInt8.toNat_ofNat']
      omega

/-- Exactly the bytes of a row are the bytes of a character. -/
theorem isCharacter_iff_exists_encodeChar {bytes : List UInt8} :
    isCharacter bytes = true ↔ ∃ c, encodeChar c = bytes := by
  constructor
  · intro h
    cases bytes with
    | nil => exact absurd h Bool.false_ne_true
    | cons b bs => exact ⟨_, encodeChar_codePoint h⟩
  · rintro ⟨c, rfl⟩
    obtain ⟨b, bs, he, hb, -⟩ := exists_encodeChar_eq c
    rw [he]
    exact hb

/-- Well-formed bytes are exactly those that the encoder writes for a text. -/
theorem wellFormed_iff_exists_encode {bytes : List UInt8} :
    WellFormed bytes ↔ ∃ text : Text, text.flatMap encodeChar = bytes := by
  constructor
  · intro h
    induction h with
    | nil => exact ⟨[], rfl⟩
    | append hb _ ih =>
      obtain ⟨c, rfl⟩ := isCharacter_iff_exists_encodeChar.mp hb
      obtain ⟨text, rfl⟩ := ih
      exact ⟨c :: text, List.flatMap_cons⟩
  · rintro ⟨text, rfl⟩
    induction text with
    | nil => exact .nil
    | cons c text ih =>
      rw [List.flatMap_cons]
      exact .append (isCharacter_iff_exists_encodeChar.mpr ⟨c, rfl⟩) ih

/-! ### Decoding -/

/-- The decoder takes the bytes of a character, whatever follows them, for that character. -/
theorem front_encodeChar {c : Char} {b : UInt8} {bs : List UInt8} (h : encodeChar c = b :: bs)
    (ext : List UInt8) : front b (bs ++ ext) = .char c bs.length := by
  obtain ⟨b', bs', he, hb, hc⟩ := exists_encodeChar_eq c
  obtain ⟨rfl, rfl⟩ := List.cons.inj (h.symm.trans he)
  rw [front_eq_char_iff, List.take_left, hc, Char.ofNat_toNat, List.length_append]
  exact ⟨Nat.le_add_right _ _, hb, rfl⟩

/-- At once, bytes decode to the text that they are the encoding of, and to no other. -/
theorem decodeFrom_eq_ok_iff {position : Nat} {bytes : List UInt8} {text : Text} :
    decodeFrom front true position bytes = .ok ⟨text, []⟩ ↔ text.flatMap encodeChar = bytes := by
  constructor
  · intro h
    fun_induction decodeFrom front true position bytes generalizing text with
    | case1 position =>
      obtain ⟨rfl, -⟩ := Decoded.mk.inj (Except.ok.inj h)
      rfl
    | case2 position b bs c more hf ih =>
      obtain ⟨⟨rest, held⟩, hd, he⟩ := map_eq_ok_iff.mp h
      obtain ⟨rfl, rfl⟩ := Decoded.mk.inj he
      obtain ⟨-, hb, rfl⟩ := front_eq_char_iff.mp hf
      rw [List.flatMap_cons, ih hd, encodeChar_codePoint hb, List.cons_append,
        List.take_append_drop]
    | case3 position b bs more reason hf => cases h
    | case4 position b bs more reason hf hl => cases h
    | case5 position b bs more reason hf hl => exact absurd rfl hl
  · rintro rfl
    induction text generalizing position with
    | nil => exact decodeFrom_nil true position
    | cons c text ih =>
      obtain ⟨b, bs, he, -⟩ := exists_encodeChar_eq c
      rw [List.flatMap_cons, he, List.cons_append, decodeFrom_char (front_encodeChar he _),
        List.drop_left, ih]
      rfl

end Utf8

/-- UTF-8 as a form is steady. -/
theorem Form.isSteady_utf8 : IsSteady Form.utf8.front := Utf8.isSteady_front

namespace Codec

/-- A file in UTF-8 decodes at once to the text that its bytes are the encoding of, and to no
other. -/
theorem decodeWhole_utf8_eq_ok_iff {bytes : List UInt8} {text : Text} :
    (Codec.plain .utf8).decodeWhole bytes = .ok text ↔ text.flatMap Utf8.encodeChar = bytes := by
  rw [decodeWhole_plain_eq_ok_iff]
  exact Utf8.decodeFrom_eq_ok_iff

/-- Read in chunks, it decodes to the same text. -/
theorem decode_utf8_eq_ok_iff {bytes : List UInt8} {text : Text} :
    (Codec.plain .utf8).decode bytes = .ok text ↔ text.flatMap Utf8.encodeChar = bytes := by
  rw [decode_plain_eq_ok_iff Form.isSteady_utf8, decodeWhole_utf8_eq_ok_iff]

end Codec

end TemplateLint.Encoding
