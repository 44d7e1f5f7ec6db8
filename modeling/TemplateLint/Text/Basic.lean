/-!
# Texts

A text is a list of characters; lengths, positions and cuts count characters. The operations
here are the ones that every other module builds on: reading a literal off the front, trimming,
numerals, and joining lines.
-/

namespace TemplateLint

/-- A text is the sequence of its characters. -/
abbrev Text := List Char

namespace Text

/-- What follows a literal at the front of a text, if the text starts with it. -/
def after? : Text → Text → Option Text
  | [], s => some s
  | _ :: _, [] => none
  | a :: literal, c :: s => if a = c then after? literal s else none

/-- Exactly the texts that start with the literal have a rest after it. -/
theorem after?_eq_some_iff {literal s rest : Text} :
    after? literal s = some rest ↔ s = literal ++ rest := by
  induction literal generalizing s with
  | nil => simp [after?, eq_comm]
  | cons a literal ih =>
    cases s with
    | nil => simp [after?]
    | cons c s =>
      by_cases h : a = c
      · simp [after?, h, ih]
      · simp [after?, h, Ne.symm h]

/-- Reading a literal off the text it was put in front of leaves that text. -/
theorem after?_append (literal s : Text) : after? literal (literal ++ s) = some s :=
  after?_eq_some_iff.2 rfl

/-- Whether a text starts with a literal. -/
def startsWith (literal s : Text) : Bool := (after? literal s).isSome

/-- A text without the characters of a class at either end. -/
def trim (p : Char → Bool) (s : Text) : Text :=
  ((s.dropWhile p).reverse.dropWhile p).reverse

/-- The decimal numeral of a natural number. -/
def ofNat (n : Nat) : Text := Nat.toDigits 10 n

/-- The decimal numeral of an integer, with a minus sign in front of a negative one. -/
def ofInt : Int → Text
  | .ofNat n => ofNat n
  | .negSucc n => '-' :: ofNat (n + 1)

/-- The hexadecimal numeral of a number, in lower case, with zeros in front up to a width. -/
def ofHex (width n : Nat) : Text :=
  let digits := Nat.toDigits 16 n
  List.replicate (width - digits.length) '0' ++ digits

/-- Lines joined by line feeds. -/
def unlines (lines : List Text) : Text := ['\n'].intercalate lines

/-- The number of bytes a character takes in UTF-8. -/
def byteWidth (c : Char) : Nat :=
  if c.toNat < 0x80 then 1 else if c.toNat < 0x800 then 2 else if c.toNat < 0x10000 then 3 else 4

/-- The number of bytes a text takes in UTF-8. -/
def byteLength (s : Text) : Nat := s.foldr (fun c n => byteWidth c + n) 0

/-- The characters at the front of a text that fit whole into a number of bytes. -/
def takeBytes : Nat → Text → Text
  | _, [] => []
  | n, c :: s => if byteWidth c ≤ n then c :: takeBytes (n - byteWidth c) s else []

/-- Whether a text is made of the characters below U+0080. -/
def isAscii (s : Text) : Bool := s.all fun c => c.toNat < 0x80

/-- Whether a text comes before another, or is the same, in the order of code points. -/
def isAtMost : Text → Text → Bool
  | [], _ => true
  | _ :: _, [] => false
  | a :: s, b :: t => if a = b then isAtMost s t else a.toNat < b.toNat

/-- The pieces of a text between the occurrences of a character. -/
def splitOnChar (separator : Char) : Text → List Text
  | [] => [[]]
  | c :: s =>
    if c = separator then [] :: splitOnChar separator s
    else match splitOnChar separator s with
      | [] => [[c]]
      | piece :: pieces => (c :: piece) :: pieces

end Text

end TemplateLint
