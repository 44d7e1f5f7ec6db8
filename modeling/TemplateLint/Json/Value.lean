import TemplateLint.Decimal.Binary64
import TemplateLint.Text.Basic

/-!
# JSON values

Integers and decimals are different kinds of number: a numeral with a fraction or an exponent is a
decimal. The members of an object keep their order.
-/

namespace TemplateLint.Json

/-- A JSON value. -/
inductive Value where
  | null
  | bool (b : Bool)
  | int (n : Int)
  | decimal (d : Decimal)
  | text (s : Text)
  | list (items : List Value)
  | object (members : List (Text × Value))
deriving Repr

namespace Value

/-- The members of an object; other values have none. -/
def members : Value → List (Text × Value)
  | .object ms => ms
  | _ => []

/-- The value of the member with a given name. -/
def member? (name : Text) (v : Value) : Option Value := v.members.lookup name

/-- Whether a value counts as a yes: null, false, zero and what is empty do not. A decimal counts
as the double-precision number that it denotes. -/
def isAffirmative : Value → Bool
  | .null => false
  | .bool b => b
  | .int n => n != 0
  | .decimal d =>
    match Binary64.ofDecimal? d with
    | some x => x.mantissa != 0
    | none => true
  | .text s => !s.isEmpty
  | .list items => !items.isEmpty
  | .object members => !members.isEmpty

end Value

end TemplateLint.Json
