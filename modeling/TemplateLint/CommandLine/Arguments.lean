import TemplateLint.Text.Blank
import TemplateLint.Text.DecimalDigit
import TemplateLint.Text.Quoted
import TemplateLint.Text.Similarity

/-!
# Command lines

A command line mixes options and paths. An argument that starts with a hyphen and is longer than
that is an option, up to an argument of two hyphens, behind which everything is a path. An option
that takes a value has it behind an equals sign or as the next argument, whatever that looks like;
the last value of an option counts. The first fault from the left is reported, before version or
help is considered, and a context width that is no integer after these.
-/

namespace TemplateLint.CommandLine

/-- The options of the command line. -/
inductive OptionKind where
  | version
  | json
  | colour
  | noColour
  | encoding
  | contextWidth
  | verbose
  | quiet
  | help
deriving Repr, DecidableEq

namespace OptionKind

/-- All options, in the order in which help lists them. -/
def all : List OptionKind :=
  [.version, .json, .colour, .noColour, .encoding, .contextWidth, .verbose, .quiet, .help]

/-- The name of an option. -/
def name : OptionKind → Text
  | .version => "--version".toList
  | .json => "--json".toList
  | .colour => "--color".toList
  | .noColour => "--no-color".toList
  | .encoding => "--encoding".toList
  | .contextWidth => "--context-width".toList
  | .verbose => "--verbose".toList
  | .quiet => "--quiet".toList
  | .help => "--help".toList

/-- Whether an option takes a value. -/
def takesValue : OptionKind → Bool
  | .encoding | .contextWidth => true
  | _ => false

/-- The option with a name; a name may not be shortened. -/
def ofName? (name : Text) : Option OptionKind := all.find? fun o => o.name == name

end OptionKind

/-- What can be wrong with a command line. -/
inductive UsageFault where
  | noSuchOption (name : Text) (similar : List Text)
  | missingValue (option : OptionKind)
  | unexpectedValue (option : OptionKind)
  | notInteger (value : Text)
deriving Repr, DecidableEq

namespace UsageFault

/-- The names that a user may have meant. -/
def hint : List Text → Text
  | [] => []
  | [name] => " Did you mean ".toList ++ name.quoted ++ "?".toList
  | names =>
    " (Did you mean one of: ".toList ++ [',', ' '].intercalate (names.map Text.quoted) ++
      "?)".toList

/-- The wording of a fault. -/
def message : UsageFault → Text
  | .noSuchOption name similar =>
    "No such option ".toList ++ name.quoted ++ ".".toList ++ hint similar
  | .missingValue option =>
    "Option ".toList ++ option.name.quoted ++ " requires an argument.".toList
  | .unexpectedValue option =>
    "Option ".toList ++ option.name.quoted ++ " does not take a value.".toList
  | .notInteger value =>
    "Invalid value for '--context-width': ".toList ++ value.quoted ++
      " is not a valid integer.".toList

/-- Whether a fault is reported together with how to call the program. -/
def showsUsage : UsageFault → Bool
  | .missingValue _ | .unexpectedValue _ => false
  | _ => true

end UsageFault

/-- What the arguments read so far ask for. -/
structure Given where
  paths : List Text := []
  json : Bool := false
  colour : Option Bool := none
  encoding : Text := "utf-8".toList
  contextWidth : Text := "81".toList
  verbose : Bool := false
  quiet : Bool := false
  /-- version or help, whichever was asked for first -/
  notice : Option OptionKind := none
deriving Repr, DecidableEq

namespace Given

/-- An option taken note of, with its value if it takes one. -/
def set (g : Given) (value : Text) : OptionKind → Given
  | .version => { g with notice := g.notice.or (some .version) }
  | .help => { g with notice := g.notice.or (some .help) }
  | .json => { g with json := true }
  | .colour => { g with colour := some true }
  | .noColour => { g with colour := some false }
  | .encoding => { g with encoding := value }
  | .contextWidth => { g with contextWidth := value }
  | .verbose => { g with verbose := true }
  | .quiet => { g with quiet := true }

/-- A path taken note of. -/
def addPaths (g : Given) (paths : List Text) : Given := { g with paths := g.paths ++ paths }

end Given

/-- Whether an argument is an option. -/
def isOption (arg : Text) : Bool := arg.head? == some '-' && 1 < arg.length

/-- An option's name and the value behind an equals sign. -/
def splitValue (arg : Text) : Text × Option Text :=
  match arg.dropWhile (· != '=') with
  | [] => (arg, none)
  | _ :: value => (arg.takeWhile (· != '='), some value)

/-- The fault of an argument whose name is no option's. Behind a single hyphen only the first
letter is looked at. -/
def unknownOption (arg name : Text) : UsageFault :=
  if Text.startsWith ['-', '-'] arg then
    let similar := Text.closeMatches name (OptionKind.all.map OptionKind.name)
    .noSuchOption name (similar.mergeSort Text.isAtMost)
  else .noSuchOption (arg.take 2) []

/-- What a list of arguments asks for, on top of what earlier ones ask for. -/
def readArguments (g : Given) : List Text → Except UsageFault Given
  | [] => .ok g
  | arg :: args =>
    if arg = ['-', '-'] then .ok (g.addPaths args)
    else if !isOption arg then readArguments (g.addPaths [arg]) args
    else
      let (name, value?) := splitValue arg
      match OptionKind.ofName? name with
      | none => .error (unknownOption arg name)
      | some option =>
        if option.takesValue then
          match value?, args with
          | some value, args => readArguments (g.set value option) args
          | none, value :: args => readArguments (g.set value option) args
          | none, [] => .error (.missingValue option)
        else
          match value? with
          | some _ => .error (.unexpectedValue option)
          | none => readArguments (g.set [] option) args

/-- The values of digits of any script, between which single underscores may stand. -/
def digitValues? : Text → Option (List Nat)
  | [] => none
  | [c] => (Text.decimalValue? c).map fun n => [n]
  | c :: '_' :: s =>
    match Text.decimalValue? c, digitValues? s with
    | some n, some ns => some (n :: ns)
    | _, _ => none
  | c :: s =>
    match Text.decimalValue? c, digitValues? s with
    | some n, some ns => some (n :: ns)
    | _, _ => none

/-- The greatest number of digits in an integer on the command line. -/
def longestInteger : Nat := 4300

/-- The number with the given digits, the leading one first. -/
def ofDigitValues (digits : List Nat) : Nat := digits.foldl (fun n d => n * 10 + d) 0

/-- The integer that an argument spells, white space around it apart. -/
def integerOf? (s : Text) : Option Int :=
  let numeral := s.trim Text.isWhite
  let (negative, digits) := match numeral with
    | '-' :: t => (true, t)
    | '+' :: t => (false, t)
    | t => (false, t)
  match digitValues? digits with
  | none => none
  | some ns =>
    if longestInteger < ns.length then none
    else some (if negative then -(ofDigitValues ns : Int) else ofDigitValues ns)

/-- The call of a scan. -/
structure Invocation where
  paths : List Text := []
  json : Bool := false
  colour : Option Bool := none
  encoding : Text := "utf-8".toList
  contextWidth : Int := 81
  verbose : Bool := false
  quiet : Bool := false
deriving Repr, DecidableEq

/-- What a command line asks the program to do. -/
inductive Request where
  | showVersion
  | showHelp
  | scan (invocation : Invocation)
deriving Repr, DecidableEq

/-- What a command line asks for, or what is wrong with it. -/
def Request.ofArguments (args : List Text) : Except UsageFault Request :=
  match readArguments {} args with
  | .error fault => .error fault
  | .ok g =>
    match g.notice with
    | some .version => .ok .showVersion
    | some _ => .ok .showHelp
    | none =>
      match integerOf? g.contextWidth with
      | none => .error (.notInteger g.contextWidth)
      | some width =>
        .ok (.scan ⟨g.paths, g.json, g.colour, g.encoding, width, g.verbose, g.quiet⟩)

end TemplateLint.CommandLine
