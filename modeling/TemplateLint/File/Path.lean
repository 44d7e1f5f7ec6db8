import TemplateLint.Text.Basic

/-!
# Paths

A path is a root and the names between its slashes. Reading a path drops repeated slashes, slashes
at the end and parts that are a single point; a part of two points stays. Exactly two slashes at
the front are a root of their own, any other number of them is the plain root, and the path
without any part is a point.
-/

namespace TemplateLint

/-- Where a path starts. -/
inductive Root where
  | relative
  | slash
  | doubleSlash
deriving Repr, DecidableEq

/-- The text of a root. -/
def Root.text : Root → Text
  | .relative => []
  | .slash => ['/']
  | .doubleSlash => ['/', '/']

/-- A path in normal form. -/
structure Path where
  root : Root
  parts : List Text
deriving Repr, DecidableEq

namespace Path

/-- Whether a part between slashes names anything. -/
def isPart (part : Text) : Bool := part != [] && part != ['.']

/-- The root that a number of leading slashes stands for. -/
def rootOf : Nat → Root
  | 0 => .relative
  | 2 => .doubleSlash
  | _ => .slash

/-- The path that a text spells. -/
def ofText (s : Text) : Path where
  root := rootOf (s.takeWhile (· == '/')).length
  parts := (s.splitOnChar '/').filter isPart

/-- The normal spelling of a path. -/
def toText (p : Path) : Text :=
  match p.root, p.parts with
  | .relative, [] => ['.']
  | root, parts => root.text ++ ['/'].intercalate parts

end Path

end TemplateLint
