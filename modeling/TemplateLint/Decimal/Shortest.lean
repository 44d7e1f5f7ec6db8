import TemplateLint.Decimal.Binary64

/-!
# The shortest decimal of a number

Among the decimals that denote a double-precision number, the one with the fewest digits is chosen
and, of several, the nearest. The reals that denote a number form an interval that reaches half
way to its neighbours, with its ends if the mantissa is even.
-/

namespace TemplateLint.Binary64

/-- The order of `a * 10 ^ i` and `n * 2 ^ j`. -/
def compareScaled (a : Nat) (i : Int) (n : Nat) (j : Int) : Ordering :=
  compare (a * Nat.pow 10 i.toNat * Nat.pow 2 (-j).toNat)
    (n * Nat.pow 2 j.toNat * Nat.pow 10 (-i).toNat)

/-- Whether the number below is only half as far away as the number above. -/
def narrowBelow (x : Binary64) : Bool :=
  x.mantissa == leastMantissa && leastExponent < x.exponent

/-- Whether the decimal `digits * 10 ^ exponent` denotes the number. -/
def denotedBy (x : Binary64) (digits : Nat) (exponent : Int) : Bool :=
  let low := 4 * x.mantissa - (if x.narrowBelow then 1 else 2)
  let high := 4 * x.mantissa + 2
  let closed := x.mantissa % 2 == 0
  let lower := compareScaled digits exponent low (x.exponent - 2)
  let upper := compareScaled digits exponent high (x.exponent - 2)
  (lower == .gt || (closed && lower == .eq)) && (upper == .lt || (closed && upper == .eq))

/-- A positive number in units of `10 ^ exponent`, rounded down. -/
def floorUnits (x : Binary64) (exponent : Int) : Nat :=
  (x.mantissa * Nat.pow 2 x.exponent.toNat * Nat.pow 10 (-exponent).toNat) /
    (Nat.pow 2 (-x.exponent).toNat * Nat.pow 10 exponent.toNat)

/-- The decimal that denotes the number in units of `10 ^ exponent`, if there is one: of the two
neighbours on that grid the nearer, and the even one if they are equally near. -/
def onGrid? (x : Binary64) (exponent : Int) : Option Nat :=
  let below := x.floorUnits exponent
  match x.denotedBy below exponent, x.denotedBy (below + 1) exponent with
  | true, false => some below
  | false, true => some (below + 1)
  | false, false => none
  | true, true =>
    match compareScaled (2 * below + 1) exponent (2 * x.mantissa) x.exponent with
    | .gt => some below
    | .lt => some (below + 1)
    | .eq => some (below + below % 2)

/-- The least power of ten beyond a positive number. The binary exponent of the leading bit leaves
three candidates. -/
def magnitude (x : Binary64) : Int :=
  let bits : Int := x.mantissa.log2 + x.exponent
  let guess := Int.fdiv (bits * 30103) 100000
  let exceeds (k : Int) : Bool := compareScaled 1 k x.mantissa x.exponent == .gt
  if exceeds guess then guess else if exceeds (guess + 1) then guess + 1 else guess + 2

/-- The digits of a positive number and the power of ten they are to be multiplied with. -/
def shortest (x : Binary64) : Nat × Int :=
  let grids := (List.range 17).map fun n : Nat => x.magnitude - 1 - (n : Int)
  match grids.findSome? fun e => (x.onGrid? e).map fun digits => (digits, e) with
  | some found => found
  | none =>
    (x.mantissa * Nat.pow 5 (-x.exponent).toNat * Nat.pow 2 x.exponent.toNat,
      if x.exponent < 0 then x.exponent else 0)

end TemplateLint.Binary64
