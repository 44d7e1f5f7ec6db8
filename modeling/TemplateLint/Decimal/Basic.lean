/-!
# Decimal numbers

A decimal is what a numeral with a fraction or an exponent says, kept exactly: a sign, a natural
number of digits and a power of ten.
-/

namespace TemplateLint

/-- The number `± digits * 10 ^ exponent`; the sign of zero is kept. -/
structure Decimal where
  negative : Bool
  digits : Nat
  exponent : Int
deriving Repr, DecidableEq

end TemplateLint
