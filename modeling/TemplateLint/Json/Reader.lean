import TemplateLint.Json.Value

/-!
# Reading JSON

A reader of the JSON grammar. Each part takes the text that is left and gives what it read with
what it left. A numeral without fraction and exponent is an integer, any other a decimal. A text
may not hold an escaped surrogate that has no partner, since no character corresponds to it.
-/

namespace TemplateLint.Json

/-- Blanks between the parts of a value. -/
def isGap (c : Char) : Bool := c == ' ' || c == '\n' || c == '\r' || c == '\t'

/-- A text without the blanks at its front. -/
def skipGaps (s : Text) : Text := s.dropWhile isGap

/-- The value of a hexadecimal digit of either case. -/
def hexValue? (c : Char) : Option Nat :=
  if '0' ≤ c ∧ c ≤ '9' then some (c.toNat - 0x30)
  else if 'a' ≤ c ∧ c ≤ 'f' then some (c.toNat - 0x57)
  else if 'A' ≤ c ∧ c ≤ 'F' then some (c.toNat - 0x37)
  else none

/-- The 16-bit unit that four hexadecimal digits spell. -/
def unitValue? (a b c d : Char) : Option Nat :=
  match hexValue? a, hexValue? b, hexValue? c, hexValue? d with
  | some w, some x, some y, some z => some (((w * 16 + x) * 16 + y) * 16 + z)
  | _, _, _, _ => none

/-- The character that a letter behind a backslash stands for. -/
def unescapeLetter? : Char → Option Char
  | '"' => some '"'
  | '\\' => some '\\'
  | '/' => some '/'
  | 'n' => some '\n'
  | 'r' => some '\r'
  | 't' => some '\t'
  | 'b' => some '\x08'
  | 'f' => some '\x0c'
  | _ => none

/-- The character of a surrogate pair. -/
def pairChar? (high low : Nat) : Option Char :=
  if 0xD800 ≤ high ∧ high < 0xDC00 ∧ 0xDC00 ≤ low ∧ low < 0xE000 then
    some (Char.ofNat (0x10000 + (high - 0xD800) * 0x400 + (low - 0xDC00)))
  else none

/-- One character of a text, escaped or not, and what follows it. A quotation mark and a control
character are no such character. -/
def readChar? : Text → Option (Char × Text)
  | '\\' :: 'u' :: a :: b :: c :: d :: s =>
    match unitValue? a b c d with
    | none => none
    | some n =>
      if 0xD800 ≤ n ∧ n < 0xE000 then
        match s with
        | '\\' :: 'u' :: e :: f :: g :: h :: t =>
          (unitValue? e f g h).bind fun m => (pairChar? n m).map fun ch => (ch, t)
        | _ => none
      else some (Char.ofNat n, s)
  | '\\' :: c :: s => (unescapeLetter? c).map fun ch => (ch, s)
  | c :: s => if c = '"' ∨ c = '\\' ∨ c.toNat < 0x20 then none else some (c, s)
  | [] => none

/-- What follows a character is shorter than the text that starts with it. -/
theorem length_lt_of_readChar? {s rest : Text} {c : Char} (h : readChar? s = some (c, rest)) :
    rest.length < s.length := by
  unfold readChar? at h
  split at h
  · split at h
    · cases h
    · split at h
      · split at h
        · simp only [Option.bind_eq_some_iff, Option.map_eq_some_iff, Prod.mk.injEq] at h
          obtain ⟨_, _, _, _, _, rfl⟩ := h
          simp only [List.length_cons]
          omega
        · cases h
      · simp only [Option.some.injEq, Prod.mk.injEq] at h
        obtain ⟨_, rfl⟩ := h
        simp only [List.length_cons]
        omega
  · simp only [Option.map_eq_some_iff, Prod.mk.injEq] at h
    obtain ⟨_, _, _, rfl⟩ := h
    simp only [List.length_cons]
    omega
  · split at h
    · cases h
    · simp only [Option.some.injEq, Prod.mk.injEq] at h
      obtain ⟨_, rfl⟩ := h
      exact Nat.lt_succ_self _
  · cases h

/-- The text up to the closing quotation mark, behind the characters read so far (last first). -/
def readTextFrom (read : Text) (s : Text) : Option (Text × Text) :=
  match s with
  | '"' :: rest => some (read.reverse, rest)
  | s =>
    match _found : readChar? s with
    | none => none
    | some (c, rest) => readTextFrom (c :: read) rest
termination_by s.length
decreasing_by exact length_lt_of_readChar? _found

/-- The digits at the front of a text, and what follows them. -/
def readDigits (s : Text) : Text × Text := (s.takeWhile Char.isDigit, s.dropWhile Char.isDigit)

/-- The number that decimal digits spell. -/
def digitsValue (digits : Text) : Nat := Nat.ofDigitChars 10 digits 0

/-- The digits of a fraction, if a point follows; a point needs at least one digit. -/
def readFraction? : Text → Option (Option Text × Text)
  | '.' :: s =>
    let (digits, rest) := readDigits s
    if digits.isEmpty then none else some (some digits, rest)
  | s => some (none, s)

/-- The sign of an exponent and what follows it. -/
def readSign : Text → Bool × Text
  | '-' :: s => (true, s)
  | '+' :: s => (false, s)
  | s => (false, s)

/-- An exponent, if its mark follows; the mark needs at least one digit. -/
def readExponent? : Text → Option (Option Int × Text)
  | c :: s =>
    if c = 'e' ∨ c = 'E' then
      let (negative, t) := readSign s
      let (digits, rest) := readDigits t
      if digits.isEmpty then none
      else
        let n : Int := digitsValue digits
        some (some (if negative then -n else n), rest)
    else some (none, c :: s)
  | [] => some (none, [])

/-- A number without its sign. A numeral has no superfluous zero in front. -/
def readUnsigned? (negative : Bool) (s : Text) : Option (Value × Text) :=
  let (digits, rest) := readDigits s
  if digits.isEmpty || (digits.head? == some '0' && digits.length != 1) then none
  else do
    let (fraction?, rest) ← readFraction? rest
    let (exponent?, rest) ← readExponent? rest
    match fraction?, exponent? with
    | none, none =>
      let n : Int := digitsValue digits
      some (.int (if negative then -n else n), rest)
    | _, _ =>
      let fraction := fraction?.getD []
      let exponent := exponent?.getD 0 - fraction.length
      some (.decimal ⟨negative, digitsValue (digits ++ fraction), exponent⟩, rest)

/-- A number at the front of a text. -/
def readNumber? : Text → Option (Value × Text)
  | '-' :: s => readUnsigned? true s
  | s => readUnsigned? false s

/-- One of the three words at the front of a text, or a number. -/
def readScalar? (s : Text) : Option (Value × Text) :=
  if let some rest := Text.after? "null".toList s then some (.null, rest)
  else if let some rest := Text.after? "true".toList s then some (.bool true, rest)
  else if let some rest := Text.after? "false".toList s then some (.bool false, rest)
  else readNumber? s

mutual

/-- A value at the front of a text, with at most `fuel` nested readings. -/
def readValue? : Nat → Text → Option (Value × Text)
  | 0, _ => none
  | fuel + 1, s =>
    match skipGaps s with
    | '"' :: t => (readTextFrom [] t).map fun (text, rest) => (.text text, rest)
    | '[' :: t =>
      match skipGaps t with
      | ']' :: rest => some (.list [], rest)
      | t => do
        let (v, rest) ← readValue? fuel t
        let (vs, rest) ← readItems? fuel rest
        some (.list (v :: vs), rest)
    | '\x7b' :: t =>
      match skipGaps t with
      | '\x7d' :: rest => some (.object [], rest)
      | t => do
        let (m, rest) ← readMember? fuel t
        let (ms, rest) ← readMembers? fuel rest
        some (.object (m :: ms), rest)
    | t => readScalar? t

/-- The items of a list after the first, up to the closing bracket. -/
def readItems? : Nat → Text → Option (List Value × Text)
  | 0, _ => none
  | fuel + 1, s =>
    match skipGaps s with
    | ']' :: rest => some ([], rest)
    | ',' :: t => do
      let (v, rest) ← readValue? fuel t
      let (vs, rest) ← readItems? fuel rest
      some (v :: vs, rest)
    | _ => none

/-- A name, a colon and a value. -/
def readMember? : Nat → Text → Option ((Text × Value) × Text)
  | 0, _ => none
  | fuel + 1, s =>
    match skipGaps s with
    | '"' :: t => do
      let (name, rest) ← readTextFrom [] t
      match skipGaps rest with
      | ':' :: rest =>
        let (v, rest) ← readValue? fuel rest
        some ((name, v), rest)
      | _ => none
    | _ => none

/-- The members of an object after the first, up to the closing brace. -/
def readMembers? : Nat → Text → Option (List (Text × Value) × Text)
  | 0, _ => none
  | fuel + 1, s =>
    match skipGaps s with
    | '\x7d' :: rest => some ([], rest)
    | ',' :: t => do
      let (m, rest) ← readMember? fuel t
      let (ms, rest) ← readMembers? fuel rest
      some (m :: ms, rest)
    | _ => none

end

/-- The value that a whole text spells. Two readings per character are more than any text needs. -/
def read? (s : Text) : Option Value :=
  match readValue? (2 * s.length + 2) s with
  | some (v, rest) => if (skipGaps rest).isEmpty then some v else none
  | none => none

end TemplateLint.Json
