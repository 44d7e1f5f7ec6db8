import TemplateLint.Decimal.Shortest
import TemplateLint.Json.Value
import TemplateLint.Text.Quoted

/-!
# How a value is shown in a message

Texts are quoted, a decimal is shown by the fewest digits that denote the same double-precision
number, and containers on one line.
-/

namespace TemplateLint.Json

/-- Decimals whose leading digit has an exponent from -4 to 15 are written with a point, others
with an exponent of at least two digits. -/
def displayDigits (digits : Text) (leading : Int) : Text :=
  if 16 ≤ leading ∨ leading < -4 then
    let fraction := digits.drop 1
    let exponent := Text.ofNat leading.natAbs
    digits.take 1 ++ (if fraction.isEmpty then [] else '.' :: fraction) ++
      'e' :: (if leading < 0 then '-' else '+') ::
      (List.replicate (2 - exponent.length) '0' ++ exponent)
  else if leading < 0 then
    '0' :: '.' :: List.replicate (leading.natAbs - 1) '0' ++ digits
  else
    let whole := leading.toNat + 1
    let fraction := digits.drop whole
    digits.take whole ++ List.replicate (whole - digits.length) '0' ++
      '.' :: (if fraction.isEmpty then ['0'] else fraction)

/-- Digits without the zeros at their end. -/
def dropZeros (digits : Text) : Text := (digits.reverse.dropWhile (· == '0')).reverse

/-- The magnitude of a double-precision number. -/
def displayMagnitude (x : Binary64) : Text :=
  if x.mantissa = 0 then "0.0".toList
  else
    let (digits, exponent) := x.shortest
    let numeral := Text.ofNat digits
    displayDigits (dropZeros numeral) (exponent + numeral.length - 1)

/-- A decimal as the double-precision number that it denotes. -/
def displayDecimal (d : Decimal) : Text :=
  (if d.negative then ['-'] else []) ++
    match Binary64.ofDecimal? d with
    | none => "inf".toList
    | some x => displayMagnitude x

mutual

/-- The display of a value. -/
def Value.display : Value → Text
  | .null => "None".toList
  | .bool true => "True".toList
  | .bool false => "False".toList
  | .int n => Text.ofInt n
  | .decimal d => displayDecimal d
  | .text s => s.quoted
  | .list vs => '[' :: displayItems vs ++ [']']
  | .object ms => '\x7b' :: displayMembers ms ++ ['\x7d']

/-- Items between commas. -/
def displayItems : List Value → Text
  | [] => []
  | [v] => Value.display v
  | v :: vs => Value.display v ++ [',', ' '] ++ displayItems vs

/-- Members between commas. -/
def displayMembers : List (Text × Value) → Text
  | [] => []
  | [(name, v)] => name.quoted ++ [':', ' '] ++ Value.display v
  | (name, v) :: ms =>
    name.quoted ++ [':', ' '] ++ Value.display v ++ [',', ' '] ++ displayMembers ms

end

/-- The name of a value's kind. -/
def Value.kindName : Value → Text
  | .null => "NoneType".toList
  | .bool _ => "bool".toList
  | .int _ => "int".toList
  | .decimal _ => "float".toList
  | .text _ => "str".toList
  | .list _ => "list".toList
  | .object _ => "dict".toList

end TemplateLint.Json
