import TemplateLint.Json.Display

/-!
# Complaints about settings

A complaint says what is wrong with a value, where the value was given, and shows it. All
complaints of one set of values are reported together. A long display of a value is cut in the
middle.
-/

namespace TemplateLint.Settings

/-- A display of more than 50 bytes is cut to the characters that fit into its first 25 and its
last 24 bytes. -/
def shorten (s : Text) : Text :=
  if s.byteLength ≤ 50 then s
  else Text.takeBytes 25 s ++ "...".toList ++ (Text.takeBytes 24 s.reverse).reverse

/-- What can be wrong with a value. -/
inductive Problem where
  | notText
  | emptyText
  | unknownEncoding (name : Text)
  | nullInName
  | fraction
  | notFinite
  | notNumeral
  | tooLarge
  | notInteger
  | below (bound : Int)
  | above (bound : Int)
  | notList
  | frozen
deriving Repr, DecidableEq

namespace Problem

/-- The identifier of a problem. -/
def kind : Problem → Text
  | .notText => "string_type".toList
  | .emptyText => "string_too_short".toList
  | .unknownEncoding _ | .nullInName => "value_error".toList
  | .fraction => "int_from_float".toList
  | .notFinite => "finite_number".toList
  | .notNumeral => "int_parsing".toList
  | .tooLarge => "int_parsing_size".toList
  | .notInteger => "int_type".toList
  | .below _ => "greater_than_equal".toList
  | .above _ => "less_than_equal".toList
  | .notList => "tuple_type".toList
  | .frozen => "frozen_instance".toList

/-- The wording of a problem. -/
def message : Problem → Text
  | .notText => "Input should be a valid string".toList
  | .emptyText => "String should have at least 1 character".toList
  | .unknownEncoding name => "Value error, unknown encoding: ".toList ++ name
  | .nullInName => "Value error, embedded null character".toList
  | .fraction => "Input should be a valid integer, got a number with a fractional part".toList
  | .notFinite => "Input should be a finite number".toList
  | .notNumeral =>
    "Input should be a valid integer, unable to parse string as an integer".toList
  | .tooLarge => "Unable to parse input string as an integer, exceeded maximum size".toList
  | .notInteger => "Input should be a valid integer".toList
  | .below bound => "Input should be greater than or equal to ".toList ++ Text.ofInt bound
  | .above bound => "Input should be less than or equal to ".toList ++ Text.ofInt bound
  | .notList => "Input should be a valid tuple".toList
  | .frozen => "Instance is frozen".toList

end Problem

/-- A step on the way to a value: the name of a setting or a place in a list. -/
inductive Place where
  | setting (name : Text)
  | index (n : Nat)
deriving Repr, DecidableEq

/-- The text of a step. Steps are joined by points, so a name that holds one is set off. -/
def Place.text : Place → Text
  | .setting name => if name.contains '.' then '\x60' :: name ++ ['\x60'] else name
  | .index n => Text.ofNat n

/-- A problem, where it is, and the value that has it. -/
structure Complaint where
  problem : Problem
  location : List Place
  input : Json.Value
deriving Repr

/-- The lines about one complaint. -/
def Complaint.lines (c : Complaint) : List Text :=
  let kind := c.problem.kind
  [['.'].intercalate (c.location.map Place.text),
   "  ".toList ++ c.problem.message ++ " [type=".toList ++ kind ++ ", input_value=".toList ++
     shorten c.input.display ++ ", input_type=".toList ++ c.input.kindName ++ "]".toList,
   "    For further information visit https://errors.pydantic.dev/2.14/v/".toList ++ kind]

/-- The message about several complaints. -/
def complaintsMessage (complaints : List Complaint) : Text :=
  let noun := if complaints.length = 1 then " validation error for Config" else
    " validation errors for Config"
  Text.unlines ((Text.ofNat complaints.length ++ noun.toList) ::
    complaints.flatMap Complaint.lines)

end TemplateLint.Settings
