import TemplateLint.Json.Value
import TemplateLint.Text.Numeral

/-!
# Written form of JSON values

Containers are laid out over several lines with two spaces per level; empty ones stay on one line.
Only the characters U+0020 to U+007E stand for themselves in a text, the quotation mark and the
backslash apart: five control characters have a letter, and all other characters are written as
their 16-bit units in hexadecimal. A value with an integer that is too long is not written.
-/

namespace TemplateLint.Json

/-- The letter that stands for a character behind a backslash. -/
def escapeLetter? : Char → Option Char
  | '"' => some '"'
  | '\\' => some '\\'
  | '\n' => some 'n'
  | '\r' => some 'r'
  | '\t' => some 't'
  | '\x08' => some 'b'
  | '\x0c' => some 'f'
  | _ => none

/-- A 16-bit unit as a backslash, the letter u and four hexadecimal digits. -/
def escapeUnit (n : Nat) : Text := '\\' :: 'u' :: Text.ofHex 4 n

/-- The written form of a character inside a text. -/
def escapeChar (c : Char) : Text :=
  match escapeLetter? c with
  | some letter => ['\\', letter]
  | none =>
    if 0x20 ≤ c.toNat ∧ c.toNat ≤ 0x7E then [c]
    else if c.toNat < 0x10000 then escapeUnit c.toNat
    else
      escapeUnit (0xD800 + (c.toNat - 0x10000) / 0x400) ++
        escapeUnit (0xDC00 + (c.toNat - 0x10000) % 0x400)

/-- A text between quotation marks. -/
def writeText (s : Text) : Text := '"' :: s.flatMap escapeChar ++ ['"']

/-- A decimal as its digits and the power of ten they are to be multiplied with. -/
def writeDecimal (d : Decimal) : Text :=
  (if d.negative then ['-'] else []) ++ Text.ofNat d.digits ++ 'e' :: Text.ofInt d.exponent

/-- The start of a line at a level of nesting. -/
def indent (level : Nat) : Text := '\n' :: List.replicate (2 * level) ' '

mutual

/-- The written form of a value at a level of nesting. -/
def Value.writeAt (level : Nat) : Value → Text
  | .null => "null".toList
  | .bool true => "true".toList
  | .bool false => "false".toList
  | .int n => Text.ofInt n
  | .decimal d => writeDecimal d
  | .text s => writeText s
  | .list [] => ['[', ']']
  | .list (v :: vs) =>
    '[' :: indent (level + 1) ++ v.writeAt (level + 1) ++ writeItems (level + 1) vs ++
      indent level ++ [']']
  | .object [] => ['\x7b', '\x7d']
  | .object ((name, v) :: ms) =>
    '\x7b' :: indent (level + 1) ++ writeText name ++ [':', ' '] ++ v.writeAt (level + 1) ++
      writeMembers (level + 1) ms ++ indent level ++ ['\x7d']

/-- The items of a list after the first, each behind a comma and on a line of its own. -/
def writeItems (level : Nat) : List Value → Text
  | [] => []
  | v :: vs => ',' :: indent level ++ v.writeAt level ++ writeItems level vs

/-- The members of an object after the first, each behind a comma and on a line of its own. -/
def writeMembers (level : Nat) : List (Text × Value) → Text
  | [] => []
  | (name, v) :: ms =>
    ',' :: indent level ++ writeText name ++ [':', ' '] ++ v.writeAt level ++
      writeMembers level ms

end

/-- The written form of a value. -/
def Value.write (v : Value) : Text := v.writeAt 0

mutual

/-- The integers in a value. -/
def Value.integers : Value → List Int
  | .int n => [n]
  | .list items => itemIntegers items
  | .object members => memberIntegers members
  | _ => []

/-- The integers in the items of a list. -/
def itemIntegers : List Value → List Int
  | [] => []
  | v :: vs => v.integers ++ itemIntegers vs

/-- The integers in the members of an object. -/
def memberIntegers : List (Text × Value) → List Int
  | [] => []
  | (_, v) :: ms => v.integers ++ memberIntegers ms

end

/-- The written form of a value, if its integers can be written. -/
def Value.dump (v : Value) : Except Text Text := Text.withNumerals v.integers v.write

end TemplateLint.Json
