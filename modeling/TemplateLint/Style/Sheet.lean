import TemplateLint.Style.Basic

/-!
# Style sheets and documents

A document is a list of lines, each a list of fragments, and a fragment is a text that may carry a
label. A style sheet says in which style the texts of a label are shown; a label without a style
leaves its texts as they are.
-/

namespace TemplateLint

/-- The style of each label that has one. -/
abbrev Sheet := Text → Option Style

/-- A text that may carry a label. -/
structure Fragment where
  label : Option Text
  text : Text
deriving Repr, DecidableEq

/-- A text that tells of something wrong. -/
def Fragment.error (s : Text) : Fragment := ⟨some "error".toList, s⟩

/-- A text that tells of something right. -/
def Fragment.success (s : Text) : Fragment := ⟨some "success".toList, s⟩

/-- A text that asks for attention. -/
def Fragment.warning (s : Text) : Fragment := ⟨some "warning".toList, s⟩

/-- A text without a label. -/
def Fragment.bare (s : Text) : Fragment := ⟨none, s⟩

/-- A bare fragment from a literal. -/
def Fragment.literal (s : String) : Fragment := ⟨none, s.toList⟩

/-- Lines of fragments. -/
abbrev Document := List (List Fragment)

namespace Sheet

/-- A text under a label. -/
def paint (sheet : Sheet) (label s : Text) : Text :=
  match sheet label with
  | none => s
  | some style => style.apply s

/-- The sheet of coloured reports. -/
def coloured : Sheet := fun label =>
  if label = "error".toList then some { attributes := [.foreground (.plain .red)] }
  else if label = "success".toList then some { attributes := [.foreground (.plain .green)] }
  else if label = "warning".toList then
    some { attributes := [.foreground (.plain .yellow), .switch .bold true] }
  else none

/-- The sheet that leaves every text as it is. -/
def plain : Sheet := fun _ => none

/-- The sheet for some labels, taken in turn, from the options given for each. Options for a label
that is not asked for are not looked at. -/
def ofOptions (given : List (Text × Json.Value)) :
    List Text → Except Style.UnknownColour Sheet
  | [] => .ok plain
  | label :: labels =>
    match Style.ofOptions ((given.lookup label).getD .null).members with
    | .error u => .error u
    | .ok style =>
      (ofOptions given labels).map fun sheet l => if l = label then style else sheet l

end Sheet

/-- A fragment as a sheet shows it. -/
def Fragment.render (sheet : Sheet) (f : Fragment) : Text :=
  match f.label with
  | none => f.text
  | some label => sheet.paint label f.text

namespace Document

/-- A document as a sheet shows it, its lines joined by line feeds. -/
def render (sheet : Sheet) (d : Document) : Text :=
  Text.unlines (d.map fun line => line.flatMap (Fragment.render sheet))

/-- The labels in a document, from the first to the last. -/
def labels (d : Document) : List Text := d.flatten.filterMap Fragment.label

end Document

end TemplateLint
