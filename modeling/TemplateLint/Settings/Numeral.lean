import TemplateLint.Text.Blank

/-!
# Numerals in settings

A plain numeral is a row of digits without a superfluous zero in front, behind a minus sign if the
number is negative. A text that is no plain numeral is tidied: white space around it, a plus sign,
zeros in front, a fraction of zeros and single underscores are taken away, and a plain numeral has
to be left. The number of digits is limited.
-/

namespace TemplateLint.Settings.Numeral

/-- The greatest number of digits. -/
def mostDigits : Nat := 4300

/-- Why a text gives no integer. -/
inductive Misreading where
  | malformed
  | tooLong
deriving Repr, DecidableEq

/-- Whether a numeral starts with a minus sign, and what follows the sign. -/
def splitSign : Text → Bool × Text
  | '-' :: s => (true, s)
  | s => (false, s)

/-- The integer that a plain numeral spells. Too many digits are noticed before anything that
stands behind them. -/
def readPlain (s : Text) : Except Misreading Int :=
  let (negative, magnitude) := splitSign s
  let digits := magnitude.takeWhile Char.isDigit
  if magnitude = ['0'] then .ok 0
  else if digits.isEmpty || digits.head? == some '0' then .error .malformed
  else if mostDigits < digits.length then .error .tooLong
  else if digits.length < magnitude.length then .error .malformed
  else
    let n : Int := Nat.ofDigitChars 10 digits 0
    .ok (if negative then -n else n)

/-- The numeral behind zeros and underscores, of which `last` is the one before. Before a point,
and at the end, that one stays. -/
def afterZeros? (last : Char) : Text → Option Text
  | [] => some [last]
  | c :: s =>
    if c = '0' ∨ c = '_' then afterZeros? c s
    else if c.isDigit ∨ c = '-' then some (c :: s)
    else if c = '.' then some (last :: c :: s)
    else none

/-- A numeral without the zeros in front; it has to start with a digit. -/
def dropZeros? : Text → Option Text
  | [] => none
  | c :: s => if c = '0' then afterZeros? c s else if c.isDigit then some (c :: s) else none

/-- A numeral without a fraction of zeros, of which there has to be one at least. -/
def dropFraction (s : Text) : Text :=
  match s.dropWhile (· != '.') with
  | _ :: '0' :: zeros => if zeros.all (· == '0') then s.takeWhile (· != '.') else s
  | _ => s

/-- A numeral without its underscores, each of which has to stand alone and inside. -/
def dropUnderscores? (s : Text) : Option Text :=
  let groups := s.splitOnChar '_'
  if groups.any List.isEmpty then none else some groups.flatten

/-- A numeral behind its sign, without what it may have besides its digits. -/
def tidyMagnitude? (s : Text) : Option Text :=
  (dropZeros? s).bind fun numeral => dropUnderscores? (dropFraction numeral)

/-- A text without what a numeral may have besides its digits and a minus sign. -/
def tidy? (s : Text) : Option Text :=
  match s.trim Text.isWhite with
  | '-' :: magnitude => (tidyMagnitude? magnitude).map ('-' :: ·)
  | '+' :: magnitude => tidyMagnitude? magnitude
  | magnitude => tidyMagnitude? magnitude

/-- The integer that a text spells. -/
def read (s : Text) : Except Misreading Int :=
  match readPlain s with
  | .error .malformed =>
    match (tidy? s).map readPlain with
    | some (.ok n) => .ok n
    | _ => .error .malformed
  | outcome => outcome

end TemplateLint.Settings.Numeral
