import TemplateLint.Text.Lowercase

/-!
# Casing of keys

A hump is an ASCII lower-case letter directly followed by an ASCII upper-case letter. A key with a
hump is camelCase, and the suggested key has an underscore at every hump and is in lower case.
`pieces` is the cut of a key at its humps, which the suggestion joins with underscores.
-/

namespace TemplateLint.Key

/-- Whether a lower-case and an upper-case ASCII letter meet. -/
def isHump (a b : Char) : Bool := a.isLower && b.isUpper

/-- Whether a key has a hump. -/
def isCamelCase : Text → Bool
  | a :: b :: s => isHump a b || isCamelCase (b :: s)
  | _ => false

/-- A key with an underscore inside every hump, in one pass that takes both letters of a hump at
once and goes on after them. -/
def separate : Text → Text
  | a :: b :: s => if isHump a b then a :: '_' :: b :: separate s else a :: separate (b :: s)
  | s => s

/-- The suggested spelling of a key. -/
def suggestion (key : Text) : Text := (separate key).lower

/-- A key cut at exactly those places where the two letters of a hump meet. -/
def pieces : Text → List Text
  | a :: b :: s =>
    if isHump a b then [a] :: pieces (b :: s)
    else match pieces (b :: s) with
      | [] => [[a]]
      | piece :: rest => (a :: piece) :: rest
  | s => [s]

/-- The pieces of a key make up the key. -/
theorem flatten_pieces (key : Text) : (pieces key).flatten = key := by
  fun_induction pieces key with
  | case1 a b s hump ih => simp [ih]
  | case2 a b s hump hnil ih => simp [hnil] at ih
  | case3 a b s hump piece rest hpieces ih => simpa [hpieces] using ih
  | case4 s => simp

end TemplateLint.Key
