import TemplateLint.Json.Display

/-!
# Styles

A style is a list of attributes that a terminal switches on by escape sequences in front of a text,
and whether it switches all of them off again behind it. Styles are given by named options; the
attributes always come in one order, whatever the order of the options. A colour is one of the
sixteen named ones, the terminal's default, an entry of the palette, or a mixture of red, green and
blue.
-/

namespace TemplateLint

/-- The eight named colours, each of which also has a bright form. -/
inductive Hue where
  | black
  | red
  | green
  | yellow
  | blue
  | magenta
  | cyan
  | white
deriving Repr, DecidableEq

namespace Hue

/-- All hues, in the order of their codes. -/
def all : List Hue := [.black, .red, .green, .yellow, .blue, .magenta, .cyan, .white]

/-- The name of a hue. -/
def name : Hue → Text
  | .black => "black".toList
  | .red => "red".toList
  | .green => "green".toList
  | .yellow => "yellow".toList
  | .blue => "blue".toList
  | .magenta => "magenta".toList
  | .cyan => "cyan".toList
  | .white => "white".toList

/-- The place of a hue among the codes. -/
def index : Hue → Nat
  | .black => 0
  | .red => 1
  | .green => 2
  | .yellow => 3
  | .blue => 4
  | .magenta => 5
  | .cyan => 6
  | .white => 7

/-- The hue with a name. -/
def ofName? (name : Text) : Option Hue := all.find? fun h => h.name == name

end Hue

/-- A colour that a terminal knows. -/
inductive Colour where
  | plain (h : Hue)
  | bright (h : Hue)
  | usual
  | palette (n : Fin 256)
  | mixture (r g b : Fin 256)
deriving Repr, DecidableEq

namespace Colour

/-- The colour that a text names. -/
def ofName? (name : Text) : Option Colour :=
  if name = "reset".toList then some .usual
  else
    match Hue.ofName? name with
    | some h => some (.plain h)
    | none =>
      match Text.after? "bright_".toList name with
      | some rest => (Hue.ofName? rest).map .bright
      | none => none

/-- A share of a mixture or an index into the palette. -/
def component? : Json.Value → Option (Fin 256)
  | .int n => if 0 ≤ n ∧ n < 256 then some (Fin.ofNat 256 n.toNat) else none
  | _ => none

/-- The colour that a value stands for. -/
def ofValue? : Json.Value → Option Colour
  | .text name => ofName? name
  | .list [r, g, b] =>
    match component? r, component? g, component? b with
    | some r, some g, some b => some (.mixture r g b)
    | _, _, _ => none
  | v => (component? v).map .palette

/-- The parameters that set a colour, `shift` being 0 for the text and 10 for its background. -/
def codes (shift : Nat) : Colour → List Nat
  | .plain h => [30 + shift + h.index]
  | .bright h => [90 + shift + h.index]
  | .usual => [39 + shift]
  | .palette n => [38 + shift, 5, n]
  | .mixture r g b => [38 + shift, 2, r, g, b]

end Colour

/-- The attributes that are either on or off. -/
inductive Switch where
  | bold
  | dim
  | underline
  | overline
  | italic
  | blink
  | reverse
  | strikethrough
deriving Repr, DecidableEq

namespace Switch

/-- All switches, in the order in which a style sets them. -/
def all : List Switch :=
  [.bold, .dim, .underline, .overline, .italic, .blink, .reverse, .strikethrough]

/-- The option that sets a switch. -/
def name : Switch → Text
  | .bold => "bold".toList
  | .dim => "dim".toList
  | .underline => "underline".toList
  | .overline => "overline".toList
  | .italic => "italic".toList
  | .blink => "blink".toList
  | .reverse => "reverse".toList
  | .strikethrough => "strikethrough".toList

/-- The parameter that switches an attribute on or off. -/
def code : Switch → Bool → Nat
  | .bold, on => if on then 1 else 22
  | .dim, on => if on then 2 else 22
  | .underline, on => if on then 4 else 24
  | .overline, on => if on then 53 else 55
  | .italic, on => if on then 3 else 23
  | .blink, on => if on then 5 else 25
  | .reverse, on => if on then 7 else 27
  | .strikethrough, on => if on then 9 else 29

end Switch

/-- Something that a style sets. -/
inductive Attribute where
  | foreground (c : Colour)
  | background (c : Colour)
  | switch (s : Switch) (on : Bool)
deriving Repr, DecidableEq

/-- The parameters that set an attribute. -/
def Attribute.codes : Attribute → List Nat
  | .foreground c => c.codes 0
  | .background c => c.codes 10
  | .switch s on => [s.code on]

/-- The character that starts an escape sequence. -/
def escape : Char := '\x1b'

/-- The escape sequence with some parameters. -/
def escapeSequence (codes : List Nat) : Text :=
  escape :: '[' :: [';'].intercalate (codes.map Text.ofNat) ++ ['m']

/-- What is set in front of a text, and whether all of it is reset behind the text. -/
structure Style where
  attributes : List Attribute
  resets : Bool := true
deriving Repr, DecidableEq

namespace Style

/-- A text in a style. -/
def apply (style : Style) (s : Text) : Text :=
  style.attributes.flatMap (fun a => escapeSequence a.codes) ++ s ++
    if style.resets then escapeSequence [0] else []

/-- A value that stands for no colour. -/
structure UnknownColour where
  value : Json.Value
deriving Repr

/-- The wording of an unknown colour. -/
def UnknownColour.message (u : UnknownColour) : Text := "Unknown color ".toList ++ u.value.display

/-- The attribute that a colour option sets; an option without a value sets nothing. -/
def colourOption (set : Colour → Attribute) (name : Text) (options : List (Text × Json.Value)) :
    Except UnknownColour (List Attribute) :=
  match options.lookup name with
  | none | some .null => .ok []
  | some v =>
    match Colour.ofValue? v with
    | some c => .ok [set c]
    | none => .error ⟨v⟩

/-- The attribute that a switch option sets; an option without a value sets nothing. -/
def switchOption (options : List (Text × Json.Value)) (s : Switch) : Option Attribute :=
  match options.lookup s.name with
  | none | some .null => none
  | some v => some (.switch s v.isAffirmative)

/-- Whether the options ask for a reset, as they do unless they say otherwise. -/
def resetOption (options : List (Text × Json.Value)) : Bool :=
  match options.lookup "reset".toList with
  | none => true
  | some v => v.isAffirmative

/-- The style that options describe; without any option there is none. -/
def ofOptions (options : List (Text × Json.Value)) : Except UnknownColour (Option Style) :=
  if options.isEmpty then .ok none
  else
    match colourOption .foreground "fg".toList options with
    | .error u => .error u
    | .ok foreground =>
      match colourOption .background "bg".toList options with
      | .error u => .error u
      | .ok background =>
        .ok (some
          { attributes := foreground ++ background ++ Switch.all.filterMap (switchOption options)
            resets := resetOption options })

end Style

end TemplateLint
