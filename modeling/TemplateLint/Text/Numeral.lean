import TemplateLint.Text.Basic

/-!
# Integers that can be written

An integer is written in decimal only if it has at most 4300 digits. A text that asks for a longer
one is not written at all; there is a complaint instead.
-/

namespace TemplateLint.Text

/-- The most digits of an integer that is written. -/
def mostDigits : Nat := 4300

/-- Whether an integer has few enough digits to be written; a minus sign is none of them. -/
def isShort (n : Int) : Bool := (ofNat n.natAbs).length ≤ mostDigits

/-- The complaint about an integer with too many digits. -/
def digitsComplaint : Text :=
  "Exceeds the limit (".toList ++ ofNat mostDigits ++
    (" digits) for integer string conversion; " ++
      "use sys.set_int_max_str_digits() to increase the limit").toList

/-- What is made of the numerals of some integers, if all of these can be written. -/
def withNumerals {α : Type} (integers : List Int) (made : α) : Except Text α :=
  if integers.all isShort then .ok made else .error digitsComplaint

end TemplateLint.Text
