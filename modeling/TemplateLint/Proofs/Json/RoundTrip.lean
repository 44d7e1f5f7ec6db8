import TemplateLint.Json.Reader
import TemplateLint.Json.Writer
import TemplateLint.Proofs.Text.Ascii

/-!
# Reading a written value

Reading undoes writing, for every value: the characters of a text, one escape at a time, then the
numbers, and then the values by induction on their nesting. Each part is stated for an arbitrary
text behind what was written, since that is what the reader meets inside a list or an object.

A written value holds no character but line feeds and the characters U+0020 to U+007E.
-/

namespace TemplateLint.Json

/-! ### Texts -/

private theorem hexValue?_digitChar {k : Nat} (h : k < 16) : hexValue? k.digitChar = some k := by
  interval_cases k <;> decide

private theorem ofHex_succ (width n : Nat) :
    Text.ofHex (width + 2) n = Text.ofHex (width + 1) (n / 16) ++ [(n % 16).digitChar] := by
  by_cases h : n < 16
  · have hzero : n / 16 = 0 := by omega
    have hmod : n % 16 = n := by omega
    rw [Text.ofHex, Text.ofHex, hzero, hmod, Nat.toDigits_of_lt_base h,
      Nat.toDigits_of_lt_base (by omega)]
    simp [List.replicate_succ']
  · have hdigits := Nat.toDigits_of_base_le (b := 16) (by omega) (Nat.le_of_not_lt h)
    rw [Text.ofHex, Text.ofHex, hdigits]
    simp

private theorem ofHex_four {n : Nat} (h : n < 0x10000) :
    Text.ofHex 4 n = [(n / 16 / 16 / 16).digitChar, (n / 16 / 16 % 16).digitChar,
      (n / 16 % 16).digitChar, (n % 16).digitChar] := by
  have hfirst : Text.ofHex 1 (n / 16 / 16 / 16) = [(n / 16 / 16 / 16).digitChar] := by
    rw [Text.ofHex, Nat.toDigits_of_lt_base (by omega)]
    rfl
  rw [ofHex_succ 2, ofHex_succ 1, ofHex_succ 0, hfirst]
  rfl

private theorem unitValue?_digitChar {n : Nat} (h : n < 0x10000) :
    unitValue? (n / 16 / 16 / 16).digitChar (n / 16 / 16 % 16).digitChar (n / 16 % 16).digitChar
      (n % 16).digitChar = some n := by
  rw [unitValue?, hexValue?_digitChar (by omega), hexValue?_digitChar (by omega),
    hexValue?_digitChar (by omega), hexValue?_digitChar (by omega)]
  simp only [Option.some.injEq]
  omega

private theorem readChar?_escapeLetter {c letter : Char} (h : escapeLetter? c = some letter)
    (s : Text) : readChar? ('\\' :: letter :: s) = some (c, s) := by
  unfold escapeLetter? at h
  split at h <;> cases h <;> rfl

private theorem readChar?_escapeUnit {n : Nat} (h : n < 0x10000) (hscalar : n < 0xD800 ∨ 0xE000 ≤ n)
    (s : Text) : readChar? (escapeUnit n ++ s) = some (Char.ofNat n, s) := by
  have hnot : ¬ (0xD800 ≤ n ∧ n < 0xE000) := by omega
  rw [escapeUnit, ofHex_four h]
  simp only [List.cons_append, List.nil_append, readChar?, unitValue?_digitChar h, hnot, if_false]

private theorem readChar?_escapeUnits {high low : Nat} (hhigh : 0xD800 ≤ high ∧ high < 0xDC00)
    (hlow : 0xDC00 ≤ low ∧ low < 0xE000) (s : Text) :
    readChar? (escapeUnit high ++ (escapeUnit low ++ s)) =
      some (Char.ofNat (0x10000 + (high - 0xD800) * 0x400 + (low - 0xDC00)), s) := by
  have hunit : high < 0x10000 ∧ low < 0x10000 := by omega
  have hsurrogate : 0xD800 ≤ high ∧ high < 0xE000 := by omega
  have hpair : 0xD800 ≤ high ∧ high < 0xDC00 ∧ 0xDC00 ≤ low ∧ low < 0xE000 := by omega
  rw [escapeUnit, escapeUnit, ofHex_four hunit.1, ofHex_four hunit.2]
  simp only [List.cons_append, List.nil_append, readChar?, unitValue?_digitChar hunit.1, hsurrogate,
    if_true, unitValue?_digitChar hunit.2, pairChar?, hpair, and_self, Option.bind_some,
    Option.map_some]

private theorem ne_of_escapeLetter?_eq_none {c : Char} (h : escapeLetter? c = none) :
    c ≠ '"' ∧ c ≠ '\\' := by
  constructor
  · rintro rfl
    cases h
  · rintro rfl
    cases h

/-- The reader takes back each character as it was written. -/
theorem readChar?_escapeChar (c : Char) (s : Text) :
    readChar? (escapeChar c ++ s) = some (c, s) := by
  rw [escapeChar]
  cases hletter : escapeLetter? c with
  | some letter => exact readChar?_escapeLetter hletter s
  | none =>
    obtain ⟨hquote, hbackslash⟩ := ne_of_escapeLetter?_eq_none hletter
    have hvalid : c.toNat < 0xD800 ∨ 0xDFFF < c.toNat ∧ c.toNat < 0x110000 := c.valid
    dsimp only
    split
    · next hplain =>
      have hcontrol : ¬ c.toNat < 0x20 := by omega
      simp [readChar?, hquote, hbackslash, hcontrol]
    · split
      · next hsmall =>
        rw [readChar?_escapeUnit hsmall (by omega), Char.ofNat_toNat]
      · next hlarge =>
        rw [List.append_assoc, readChar?_escapeUnits (by omega) (by omega),
          surrogates_spell (Nat.le_of_not_lt hlarge), Char.ofNat_toNat]

private theorem readTextFrom_of_readChar? {s rest : Text} {c : Char}
    (h : readChar? s = some (c, rest)) (read : Text) :
    readTextFrom read s = readTextFrom (c :: read) rest := by
  have hquote : ∀ t, s = '"' :: t → False := by
    rintro t rfl
    simp [readChar?] at h
  rw [readTextFrom.eq_def]
  split
  · next t => exact (hquote t rfl).elim
  · split
    · next hnone =>
      rw [h] at hnone
      cases hnone
    · next found =>
      rw [h] at found
      cases found
      rfl

/-- The characters of a text are read up to the quotation mark behind them. -/
theorem readTextFrom_escape (s read rest : Text) :
    readTextFrom read (s.flatMap escapeChar ++ '"' :: rest) = some (read.reverse ++ s, rest) := by
  induction s generalizing read with
  | nil =>
    rw [List.flatMap_nil, List.nil_append, readTextFrom, List.append_nil]
  | cons c s ih =>
    rw [List.flatMap_cons, List.append_assoc,
      readTextFrom_of_readChar? (readChar?_escapeChar c _), ih]
    simp

/-! ### Numbers -/

/-- The text behind a number does not continue it. -/
def EndsNumber (rest : Text) : Prop :=
  ∀ c ∈ rest.head?, c.isDigit = false ∧ c ≠ '.' ∧ c ≠ 'e' ∧ c ≠ 'E'

private theorem endsNumber_nil : EndsNumber [] := by
  intro c h
  cases h

private theorem endsNumber_comma (s : Text) : EndsNumber (',' :: s) := by
  intro c h
  cases h
  decide

private theorem endsNumber_indent (level : Nat) (s : Text) : EndsNumber (indent level ++ s) := by
  intro c h
  cases h
  decide

private theorem readDigits_ofNat (n : Nat) {rest : Text} (h : ∀ c ∈ rest.head?, c.isDigit = false) :
    readDigits (Text.ofNat n ++ rest) = (Text.ofNat n, rest) := by
  have hdigits : ∀ c ∈ Text.ofNat n, c.isDigit = true := fun c hc =>
    Nat.isDigit_of_mem_toDigits (by omega) (by omega) hc
  rw [readDigits, List.takeWhile_append_of_pos hdigits, List.dropWhile_append_of_pos hdigits]
  cases rest with
  | nil => simp
  | cons c rest => simp [h c rfl]

private theorem digitsValue_ofNat (n : Nat) : digitsValue (Text.ofNat n) = n :=
  Nat.ofDigitChars_toDigits (by omega) (by omega)

private theorem eq_zero_of_head?_ofNat {n : Nat} (h : (Text.ofNat n).head? = some '0') : n = 0 := by
  induction n using Nat.strongRecOn with
  | ind n ih =>
    by_cases hlt : n < 10
    · rw [Text.ofNat, Nat.toDigits_of_lt_base hlt] at h
      interval_cases n <;> simp_all [Nat.digitChar]
    · rw [Text.ofNat, Nat.toDigits_of_base_le (by omega) (Nat.le_of_not_lt hlt),
        List.head?_append_of_ne_nil _ Nat.toDigits_ne_nil] at h
      have hzero := ih (n / 10) (by omega) h
      omega

private theorem not_superfluous_zero (n : Nat) :
    ((Text.ofNat n).isEmpty || ((Text.ofNat n).head? == some '0' && (Text.ofNat n).length != 1)) =
      false := by
  have hne : Text.ofNat n ≠ [] := Nat.toDigits_ne_nil
  by_cases h : (Text.ofNat n).head? = some '0'
  · obtain rfl := eq_zero_of_head?_ofNat h
    decide
  · simp [hne, h]

private theorem readFraction?_none {rest : Text} (h : rest.head? ≠ some '.') :
    readFraction? rest = some (none, rest) := by
  rw [readFraction?]
  intro s hs
  rw [hs] at h
  exact h rfl

private theorem readExponent?_none {rest : Text} (h : EndsNumber rest) :
    readExponent? rest = some (none, rest) := by
  cases rest with
  | nil => rfl
  | cons c rest =>
    obtain ⟨-, -, he, hE⟩ := h c rfl
    simp [readExponent?, he, hE]

/-- A numeral is read as an integer, up to where the number ends. -/
theorem readUnsigned?_ofNat (negative : Bool) (n : Nat) {rest : Text} (h : EndsNumber rest) :
    readUnsigned? negative (Text.ofNat n ++ rest) =
      some (.int (if negative then -n else n), rest) := by
  have hdigit : ∀ c ∈ rest.head?, c.isDigit = false := fun c hc => (h c hc).1
  have hpoint : rest.head? ≠ some '.' := fun hc => (h '.' hc).2.1 rfl
  rw [readUnsigned?, readDigits_ofNat n hdigit]
  simp [not_superfluous_zero, readFraction?_none hpoint, readExponent?_none h, digitsValue_ofNat]

private theorem ofNat_eq_cons (n : Nat) : ∃ c t, Text.ofNat n = c :: t ∧ c.isDigit = true := by
  cases h : Text.ofNat n with
  | nil => exact absurd h Nat.toDigits_ne_nil
  | cons c t =>
    have hmem : c ∈ Nat.toDigits 10 n := by
      rw [← Text.ofNat, h]
      exact List.mem_cons_self
    exact ⟨c, t, rfl, Nat.isDigit_of_mem_toDigits (by omega) (by omega) hmem⟩

private theorem ne_of_isDigit {c d : Char} (hc : c.isDigit = true) (hd : d.isDigit = false) :
    c ≠ d := by
  rintro rfl
  rw [hc] at hd
  cases hd

private theorem readSign_ofNat (n : Nat) (rest : Text) :
    readSign (Text.ofNat n ++ rest) = (false, Text.ofNat n ++ rest) := by
  obtain ⟨c, t, h, hc⟩ := ofNat_eq_cons n
  have hminus : c ≠ '-' := ne_of_isDigit hc (by decide)
  have hplus : c ≠ '+' := ne_of_isDigit hc (by decide)
  simp [h, readSign, hminus, hplus]

private theorem readExponent?_ofInt (n : Int) {rest : Text}
    (h : ∀ c ∈ rest.head?, c.isDigit = false) :
    readExponent? ('e' :: (Text.ofInt n ++ rest)) = some (some n, rest) := by
  have hne (m : Nat) : Text.ofNat m ≠ [] := Nat.toDigits_ne_nil
  cases n with
  | ofNat n =>
    simp [readExponent?, Text.ofInt, readSign_ofNat, readDigits_ofNat n h, hne, digitsValue_ofNat]
  | negSucc n =>
    simp [readExponent?, Text.ofInt, readSign, readDigits_ofNat (n + 1) h, hne, digitsValue_ofNat,
      Int.negSucc_eq]

/-- A numeral with an exponent is read as a decimal. -/
theorem readUnsigned?_exponent (negative : Bool) (n : Nat) (exponent : Int) {rest : Text}
    (h : ∀ c ∈ rest.head?, c.isDigit = false) :
    readUnsigned? negative (Text.ofNat n ++ 'e' :: (Text.ofInt exponent ++ rest)) =
      some (.decimal ⟨negative, n, exponent⟩, rest) := by
  have hmark (s : Text) : readFraction? ('e' :: s) = some (none, 'e' :: s) :=
    readFraction?_none (by simp)
  rw [readUnsigned?, readDigits_ofNat n (by simp)]
  simp [not_superfluous_zero, hmark, readExponent?_ofInt exponent h, digitsValue_ofNat]

private theorem readNumber?_ofNat (n : Nat) (s : Text) :
    readNumber? (Text.ofNat n ++ s) = readUnsigned? false (Text.ofNat n ++ s) := by
  obtain ⟨c, t, h, hc⟩ := ofNat_eq_cons n
  have hminus : c ≠ '-' := ne_of_isDigit hc (by decide)
  simp [h, readNumber?, hminus]

/-- A written integer is read back. -/
theorem readNumber?_ofInt (n : Int) {rest : Text} (h : EndsNumber rest) :
    readNumber? (Text.ofInt n ++ rest) = some (.int n, rest) := by
  cases n with
  | ofNat n =>
    rw [Text.ofInt, readNumber?_ofNat, readUnsigned?_ofNat false n h]
    simp
  | negSucc n =>
    rw [Text.ofInt, List.cons_append, readNumber?, readUnsigned?_ofNat true (n + 1) h]
    simp [Int.negSucc_eq]

/-- A written decimal is read back. -/
theorem readNumber?_writeDecimal (d : Decimal) {rest : Text} (h : EndsNumber rest) :
    readNumber? (writeDecimal d ++ rest) = some (.decimal d, rest) := by
  obtain ⟨negative, digits, exponent⟩ := d
  have hdigit : ∀ c ∈ rest.head?, c.isDigit = false := fun c hc => (h c hc).1
  cases negative with
  | true =>
    simp only [writeDecimal, if_true, List.cons_append, List.nil_append, List.append_assoc,
      readNumber?, readUnsigned?_exponent true digits exponent hdigit]
  | false =>
    simp only [writeDecimal, Bool.false_eq_true, if_false, List.cons_append, List.nil_append,
      List.append_assoc, readNumber?_ofNat, readUnsigned?_exponent false digits exponent hdigit]

/-! ### Values -/

private theorem skipGaps_indent (level : Nat) (s : Text) :
    skipGaps (indent level ++ s) = skipGaps s := by
  have hgaps : ∀ c ∈ indent level, isGap c = true := by
    intro c hc
    simp only [indent, List.mem_cons, List.mem_replicate] at hc
    obtain rfl | ⟨-, rfl⟩ := hc <;> rfl
  rw [skipGaps, List.dropWhile_append_of_pos hgaps, skipGaps]

private theorem skipGaps_cons {c : Char} (h : isGap c = false) (s : Text) :
    skipGaps (c :: s) = c :: s := by
  rw [skipGaps, List.dropWhile_cons_of_neg (by simp [h])]

private theorem readValue?_of_skipGaps_eq {s t : Text} (h : skipGaps s = skipGaps t) (fuel : Nat) :
    readValue? fuel s = readValue? fuel t := by
  cases fuel with
  | zero => rfl
  | succ fuel => rw [readValue?, readValue?, h]

private def StartsValue (s : Text) : Prop := ∃ c t, s = c :: t ∧ isGap c = false ∧ c ≠ ']'

private def StartsNumber (s : Text) : Prop := ∃ c t, s = c :: t ∧ (c.isDigit = true ∨ c = '-')

private theorem startsNumber_ofNat (n : Nat) (s : Text) : StartsNumber (Text.ofNat n ++ s) := by
  obtain ⟨c, t, h, hc⟩ := ofNat_eq_cons n
  exact ⟨c, t ++ s, by rw [h, List.cons_append], .inl hc⟩

private theorem startsNumber_ofInt (n : Int) (s : Text) : StartsNumber (Text.ofInt n ++ s) := by
  cases n with
  | ofNat n => exact startsNumber_ofNat n s
  | negSucc n => exact ⟨'-', _, rfl, .inr rfl⟩

private theorem startsNumber_writeDecimal (d : Decimal) (s : Text) :
    StartsNumber (writeDecimal d ++ s) := by
  rw [writeDecimal]
  by_cases h : d.negative
  · rw [if_pos h]
    exact ⟨'-', _, rfl, .inr rfl⟩
  · rw [if_neg h, List.nil_append, List.append_assoc]
    exact startsNumber_ofNat d.digits _

private theorem ne_of_startsNumber {c d : Char} (hc : c.isDigit = true ∨ c = '-')
    (hd : d.isDigit = false) (hminus : d ≠ '-') : c ≠ d := by
  obtain hc | rfl := hc
  · exact ne_of_isDigit hc hd
  · exact Ne.symm hminus

private theorem isGap_of_startsNumber {c : Char} (hc : c.isDigit = true ∨ c = '-') :
    isGap c = false := by
  simp [isGap, ne_of_startsNumber hc (d := ' ') rfl (by decide),
    ne_of_startsNumber hc (d := '\n') rfl (by decide),
    ne_of_startsNumber hc (d := '\r') rfl (by decide),
    ne_of_startsNumber hc (d := '\t') rfl (by decide)]

private theorem StartsNumber.startsValue {s : Text} (h : StartsNumber s) : StartsValue s := by
  obtain ⟨c, t, rfl, hc⟩ := h
  exact ⟨c, t, rfl, isGap_of_startsNumber hc, ne_of_startsNumber hc rfl (by decide)⟩

private theorem readValue?_of_startsNumber {s : Text} (h : StartsNumber s) (fuel : Nat) :
    readValue? (fuel + 1) s = readNumber? s := by
  obtain ⟨c, t, rfl, hc⟩ := h
  have hne {d : Char} (hd : d.isDigit = false) (hminus : d ≠ '-') : c ≠ d :=
    ne_of_startsNumber hc hd hminus
  have hword {w : Char} {ws : Text} (hw : c ≠ w) : Text.after? (w :: ws) (c :: t) = none := by
    rw [Text.after?, if_neg (Ne.symm hw)]
  rw [readValue?, skipGaps_cons (isGap_of_startsNumber hc)]
  simp [hne (d := '"') rfl (by decide), hne (d := '[') rfl (by decide),
    hne (d := '\x7b') rfl (by decide), readScalar?, hword (hne (d := 'n') rfl (by decide)),
    hword (hne (d := 't') rfl (by decide)), hword (hne (d := 'f') rfl (by decide))]

private theorem startsValue_writeAt (v : Value) (level : Nat) (s : Text) :
    StartsValue (v.writeAt level ++ s) := by
  fun_cases Value.writeAt level v with
  | case1 => exact ⟨'n', _, rfl, rfl, by decide⟩
  | case2 => exact ⟨'t', _, rfl, rfl, by decide⟩
  | case3 => exact ⟨'f', _, rfl, rfl, by decide⟩
  | case4 n => exact (startsNumber_ofInt n s).startsValue
  | case5 d => exact (startsNumber_writeDecimal d s).startsValue
  | case6 t => exact ⟨'"', _, rfl, rfl, by decide⟩
  | case7 => exact ⟨'[', _, rfl, rfl, by decide⟩
  | case8 v vs => exact ⟨'[', _, rfl, rfl, by decide⟩
  | case9 => exact ⟨'\x7b', _, rfl, rfl, by decide⟩
  | case10 name v ms => exact ⟨'\x7b', _, rfl, rfl, by decide⟩

private theorem writeText_append (s rest : Text) :
    writeText s ++ rest = '"' :: (s.flatMap escapeChar ++ '"' :: rest) := by
  simp [writeText]

private theorem skipGaps_writeText (s rest : Text) :
    skipGaps (writeText s ++ rest) = writeText s ++ rest := skipGaps_cons rfl _

private theorem readValue?_writeText (s rest : Text) (fuel : Nat) :
    readValue? (fuel + 1) (writeText s ++ rest) = some (.text s, rest) := by
  rw [readValue?, skipGaps_writeText, writeText_append]
  simp [readTextFrom_escape]

private theorem readValue?_list {s t rest : Text} {v : Value} {vs : List Value} {fuel : Nat}
    (hs : StartsValue s) (hv : readValue? fuel s = some (v, t))
    (hvs : readItems? fuel t = some (vs, rest)) (level : Nat) :
    readValue? (fuel + 1) ('[' :: (indent level ++ s)) = some (.list (v :: vs), rest) := by
  obtain ⟨c, u, rfl, hgap, hclose⟩ := hs
  rw [readValue?, skipGaps_cons rfl]
  simp [skipGaps_indent, skipGaps_cons hgap, hclose, hv, hvs]

private theorem readItems?_cons {s t rest : Text} {v : Value} {vs : List Value} {fuel : Nat}
    (hv : readValue? fuel s = some (v, t)) (hvs : readItems? fuel t = some (vs, rest))
    (level : Nat) :
    readItems? (fuel + 1) (',' :: (indent level ++ s)) = some (v :: vs, rest) := by
  have hs : readValue? fuel (indent level ++ s) = some (v, t) :=
    (readValue?_of_skipGaps_eq (skipGaps_indent level s) fuel).trans hv
  rw [readItems?, skipGaps_cons rfl]
  simp [hs, hvs]

private theorem readItems?_close (level fuel : Nat) (rest : Text) :
    readItems? (fuel + 1) (indent level ++ ']' :: rest) = some ([], rest) := by
  rw [readItems?, skipGaps_indent, skipGaps_cons rfl]
  rfl

private theorem readMember?_of_skipGaps_eq {s t rest name : Text} {v : Value} {fuel : Nat}
    (hs : skipGaps s = writeText name ++ ':' :: ' ' :: t)
    (hv : readValue? fuel t = some (v, rest)) :
    readMember? (fuel + 1) s = some ((name, v), rest) := by
  have hgap : skipGaps (' ' :: t) = skipGaps t := rfl
  have ht : readValue? fuel (' ' :: t) = some (v, rest) :=
    (readValue?_of_skipGaps_eq hgap fuel).trans hv
  rw [readMember?, hs, writeText_append]
  simp [readTextFrom_escape, skipGaps_cons, isGap, ht]

private theorem readValue?_object {s t rest : Text} {v : Value} {ms : List (Text × Value)}
    {fuel : Nat} (hv : readValue? fuel s = some (v, t))
    (hms : readMembers? (fuel + 1) t = some (ms, rest)) (level : Nat) (name : Text) :
    readValue? (fuel + 2) ('\x7b' :: (indent level ++ (writeText name ++ ':' :: ' ' :: s))) =
      some (.object ((name, v) :: ms), rest) := by
  have hmember := readMember?_of_skipGaps_eq (skipGaps_writeText name (':' :: ' ' :: s)) hv
  rw [readValue?, skipGaps_cons rfl]
  rw [writeText_append] at hmember ⊢
  simp [skipGaps_indent, skipGaps_cons, isGap, hmember, hms]

private theorem readMembers?_cons {s t rest : Text} {v : Value} {ms : List (Text × Value)}
    {fuel : Nat} (hv : readValue? fuel s = some (v, t))
    (hms : readMembers? (fuel + 1) t = some (ms, rest)) (level : Nat) (name : Text) :
    readMembers? (fuel + 2) (',' :: (indent level ++ (writeText name ++ ':' :: ' ' :: s))) =
      some ((name, v) :: ms, rest) := by
  have hgaps : skipGaps (indent level ++ (writeText name ++ ':' :: ' ' :: s)) =
      writeText name ++ ':' :: ' ' :: s := by
    rw [skipGaps_indent, skipGaps_writeText]
  rw [readMembers?, skipGaps_cons rfl]
  simp [readMember?_of_skipGaps_eq hgaps hv, hms]

private theorem readMembers?_close (level fuel : Nat) (rest : Text) :
    readMembers? (fuel + 1) (indent level ++ '\x7d' :: rest) = some ([], rest) := by
  rw [readMembers?, skipGaps_indent, skipGaps_cons rfl]
  rfl

private theorem endsNumber_writeItems (vs : List Value) (level outer : Nat) (rest : Text) :
    EndsNumber (writeItems level vs ++ (indent outer ++ rest)) := by
  cases vs with
  | nil => exact endsNumber_indent outer rest
  | cons v vs => exact endsNumber_comma _

private theorem endsNumber_writeMembers (ms : List (Text × Value)) (level outer : Nat)
    (rest : Text) : EndsNumber (writeMembers level ms ++ (indent outer ++ rest)) := by
  cases ms with
  | nil => exact endsNumber_indent outer rest
  | cons m ms => exact endsNumber_comma _

mutual

/-- A written value is read back, whatever follows it that does not continue a number. One reading
per character is enough. -/
theorem readValue?_writeAt (v : Value) (level fuel : Nat) (rest : Text)
    (hfuel : (v.writeAt level).length ≤ fuel) (hrest : EndsNumber rest) :
    readValue? fuel (v.writeAt level ++ rest) = some (v, rest) := by
  -- A value is written with one character at least, which pays for the reading of the value itself;
  -- what is inside a container is paid for by its own characters.
  obtain ⟨k, rfl⟩ : ∃ k, fuel = k + 1 := by
    obtain ⟨c, t, h, -⟩ := startsValue_writeAt v level []
    rw [List.append_nil] at h
    rw [h, List.length_cons] at hfuel
    exact ⟨fuel - 1, by omega⟩
  match v with
  | .null => rfl
  | .bool true => rfl
  | .bool false => rfl
  | .int n =>
    rw [Value.writeAt, readValue?_of_startsNumber (startsNumber_ofInt n rest),
      readNumber?_ofInt n hrest]
  | .decimal d =>
    rw [Value.writeAt, readValue?_of_startsNumber (startsNumber_writeDecimal d rest),
      readNumber?_writeDecimal d hrest]
  | .text s => exact readValue?_writeText s rest k
  | .list [] => rfl
  | .list (v :: vs) =>
    simp only [Value.writeAt, List.length_append, List.length_cons, indent] at hfuel
    have hv := readValue?_writeAt v (level + 1) k
      (writeItems (level + 1) vs ++ (indent level ++ ']' :: rest)) (by omega)
      (endsNumber_writeItems vs _ _ _)
    have hvs := readItems?_writeItems vs (level + 1) level k rest (by omega)
    have h := readValue?_list (startsValue_writeAt v (level + 1) _) hv hvs (level + 1)
    simpa [Value.writeAt] using h
  | .object [] => rfl
  | .object ((name, v) :: ms) =>
    simp only [Value.writeAt, List.length_append, List.length_cons, indent] at hfuel
    -- The first member costs a reading more than its value: that of its name.
    obtain ⟨k, rfl⟩ : ∃ j, k = j + 1 := ⟨k - 1, by omega⟩
    have hv := readValue?_writeAt v (level + 1) k
      (writeMembers (level + 1) ms ++ (indent level ++ '\x7d' :: rest)) (by omega)
      (endsNumber_writeMembers ms _ _ _)
    have hms := readMembers?_writeMembers ms (level + 1) level (k + 1) rest (by omega)
    have h := readValue?_object hv hms (level + 1) name
    simpa [Value.writeAt] using h
termination_by structural v

/-- The items of a written list after the first are read up to the closing bracket. -/
theorem readItems?_writeItems (vs : List Value) (level outer fuel : Nat) (rest : Text)
    (hfuel : (writeItems level vs).length < fuel) :
    readItems? fuel (writeItems level vs ++ (indent outer ++ ']' :: rest)) = some (vs, rest) := by
  obtain ⟨k, rfl⟩ : ∃ k, fuel = k + 1 := ⟨fuel - 1, by omega⟩
  match vs with
  | [] => exact readItems?_close outer k rest
  | v :: vs =>
    simp only [writeItems, List.length_append, List.length_cons, indent] at hfuel
    have hv := readValue?_writeAt v level k
      (writeItems level vs ++ (indent outer ++ ']' :: rest)) (by omega)
      (endsNumber_writeItems vs _ _ _)
    have hvs := readItems?_writeItems vs level outer k rest (by omega)
    have h := readItems?_cons hv hvs level
    simpa [writeItems] using h
termination_by structural vs

/-- The members of a written object after the first are read up to the closing brace. -/
theorem readMembers?_writeMembers (ms : List (Text × Value)) (level outer fuel : Nat) (rest : Text)
    (hfuel : (writeMembers level ms).length < fuel) :
    readMembers? fuel (writeMembers level ms ++ (indent outer ++ '\x7d' :: rest)) =
      some (ms, rest) := by
  obtain ⟨k, rfl⟩ : ∃ k, fuel = k + 1 := ⟨fuel - 1, by omega⟩
  match ms with
  | [] => exact readMembers?_close outer k rest
  | (name, v) :: ms =>
    simp only [writeMembers, List.length_append, List.length_cons, indent] at hfuel
    obtain ⟨k, rfl⟩ : ∃ j, k = j + 1 := ⟨k - 1, by omega⟩
    have hv := readValue?_writeAt v level k
      (writeMembers level ms ++ (indent outer ++ '\x7d' :: rest)) (by omega)
      (endsNumber_writeMembers ms _ _ _)
    have hms := readMembers?_writeMembers ms level outer (k + 1) rest (by omega)
    have h := readMembers?_cons hv hms level name
    simpa [writeMembers] using h
termination_by structural ms

end

/-- Reading undoes writing. -/
theorem read?_write (v : Value) : read? v.write = some v := by
  have h := readValue?_writeAt v 0 (2 * v.write.length + 2) [] (by rw [Value.write]; omega)
    endsNumber_nil
  rw [List.append_nil, ← Value.write] at h
  rw [read?, h]
  rfl

-- The reader is no more lenient than the grammar: blanks may be anywhere, a comma or a zero not.
example : read? " [1 ,-2] ".toList = some (.list [.int 1, .int (-2)]) := by rfl

example : read? "[1, ]".toList = none ∧ read? "[01]".toList = none := ⟨by rfl, by rfl⟩

/-! ### The characters of a written value -/

/-- A line feed or one of the characters U+0020 to U+007E. -/
def IsPlain (c : Char) : Prop := c = '\n' ∨ 0x20 ≤ c.toNat ∧ c.toNat ≤ 0x7E

instance (c : Char) : Decidable (IsPlain c) := inferInstanceAs (Decidable (_ ∨ _))

/-- A text of line feeds and of the characters U+0020 to U+007E. -/
def AllPlain (s : Text) : Prop := ∀ c ∈ s, IsPlain c

/-- The empty text is plain. -/
@[simp] theorem allPlain_nil : AllPlain [] := List.forall_mem_nil _

/-- A text is plain exactly if its first character and the rest are. -/
@[simp] theorem allPlain_cons {c : Char} {s : Text} :
    AllPlain (c :: s) ↔ IsPlain c ∧ AllPlain s := List.forall_mem_cons

/-- A text is plain exactly if both parts of it are. -/
@[simp] theorem allPlain_append {s t : Text} : AllPlain (s ++ t) ↔ AllPlain s ∧ AllPlain t :=
  List.forall_mem_append

private theorem allPlain_indent (level : Nat) : AllPlain (indent level) := by
  rw [indent, allPlain_cons]
  refine ⟨by decide, ?_⟩
  intro c hc
  obtain rfl := List.eq_of_mem_replicate hc
  decide

private theorem isPlain_digitChar {k : Nat} (h : k < 16) : IsPlain k.digitChar := by
  interval_cases k <;> decide

private theorem allPlain_escapeUnit {n : Nat} (h : n < 0x10000) : AllPlain (escapeUnit n) := by
  rw [escapeUnit, ofHex_four h]
  simp only [allPlain_cons, allPlain_nil, and_true]
  refine ⟨by decide, by decide, ?_, ?_, ?_, ?_⟩ <;> exact isPlain_digitChar (by omega)

private theorem allPlain_escapeChar (c : Char) : AllPlain (escapeChar c) := by
  have hvalid : c.toNat < 0xD800 ∨ 0xDFFF < c.toNat ∧ c.toNat < 0x110000 := c.valid
  rw [escapeChar]
  split
  · next letter hletter =>
    have hplain : IsPlain letter := by
      unfold escapeLetter? at hletter
      split at hletter <;> cases hletter <;> decide
    have hbackslash : IsPlain '\\' := by decide
    simp [hplain, hbackslash]
  · split
    · next hplain =>
      rw [allPlain_cons]
      exact ⟨.inr hplain, allPlain_nil⟩
    · split
      · next hsmall => exact allPlain_escapeUnit hsmall
      · next hlarge =>
        rw [allPlain_append]
        exact ⟨allPlain_escapeUnit (by omega), allPlain_escapeUnit (by omega)⟩

private theorem allPlain_writeText (s : Text) : AllPlain (writeText s) := by
  have hs : AllPlain (s.flatMap escapeChar) := by
    intro c hc
    obtain ⟨d, -, hd⟩ := List.mem_flatMap.mp hc
    exact allPlain_escapeChar d c hd
  have hquote : IsPlain '"' := by decide
  simp [writeText, hs, hquote]

private theorem allPlain_ofNat (n : Nat) : AllPlain (Text.ofNat n) := by
  intro c hc
  have hrange := Text.toNat_of_mem_ofNat hc
  exact .inr (by omega)

private theorem allPlain_ofInt (n : Int) : AllPlain (Text.ofInt n) := by
  cases n with
  | ofNat n => exact allPlain_ofNat n
  | negSucc n =>
    rw [Text.ofInt, allPlain_cons]
    exact ⟨by decide, allPlain_ofNat (n + 1)⟩

private theorem allPlain_writeDecimal (d : Decimal) : AllPlain (writeDecimal d) := by
  have hmarks : IsPlain '-' ∧ IsPlain 'e' := by decide
  have hsign : AllPlain (if d.negative then ['-'] else []) := by
    split <;> simp [hmarks]
  simp [writeDecimal, hsign, hmarks, allPlain_ofNat, allPlain_ofInt]

mutual

/-- A written value holds line feeds and the characters U+0020 to U+007E only. -/
theorem allPlain_writeAt (v : Value) (level : Nat) : AllPlain (v.writeAt level) := by
  match v with
  | .null => simp +decide [Value.writeAt]
  | .bool true => simp +decide [Value.writeAt]
  | .bool false => simp +decide [Value.writeAt]
  | .int n => exact allPlain_ofInt n
  | .decimal d => exact allPlain_writeDecimal d
  | .text s => exact allPlain_writeText s
  | .list [] => simp +decide [Value.writeAt]
  | .list (v :: vs) =>
    have hbrackets : IsPlain '[' ∧ IsPlain ']' := by decide
    simp [Value.writeAt, hbrackets, allPlain_indent, allPlain_writeAt v, allPlain_writeItems vs]
  | .object [] => simp +decide [Value.writeAt]
  | .object ((name, v) :: ms) =>
    have hmarks : IsPlain '\x7b' ∧ IsPlain ':' ∧ IsPlain ' ' ∧ IsPlain '\x7d' := by decide
    simp [Value.writeAt, hmarks, allPlain_indent, allPlain_writeText, allPlain_writeAt v,
      allPlain_writeMembers ms]
termination_by structural v

/-- So do the items of a list. -/
theorem allPlain_writeItems (vs : List Value) (level : Nat) : AllPlain (writeItems level vs) := by
  match vs with
  | [] => exact allPlain_nil
  | v :: vs =>
    have hcomma : IsPlain ',' := by decide
    simp [writeItems, hcomma, allPlain_indent, allPlain_writeAt v, allPlain_writeItems vs]
termination_by structural vs

/-- So do the members of an object. -/
theorem allPlain_writeMembers (ms : List (Text × Value)) (level : Nat) :
    AllPlain (writeMembers level ms) := by
  match ms with
  | [] => exact allPlain_nil
  | (name, v) :: ms =>
    have hmarks : IsPlain ',' ∧ IsPlain ':' ∧ IsPlain ' ' := by decide
    simp [writeMembers, hmarks, allPlain_indent, allPlain_writeText, allPlain_writeAt v,
      allPlain_writeMembers ms]
termination_by structural ms

end

end TemplateLint.Json
