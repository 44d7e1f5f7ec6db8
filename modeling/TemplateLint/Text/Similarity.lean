import TemplateLint.Text.Basic

/-!
# Similar texts

Two texts are compared by the blocks they share: the longest common block is found, and the texts
before it and behind it are compared in the same way. The similarity is twice the number of shared
characters over the number of all characters. Of several longest blocks the one that starts first
in the first text counts, and then the one that starts first in the second.
-/

namespace TemplateLint.Text

/-- How many characters two texts share at their front. -/
def commonFront : Text → Text → Nat
  | a :: s, b :: t => if a = b then commonFront s t + 1 else 0
  | _, _ => 0

/-- A block that two texts share: where it starts in each of them, and its length. -/
structure Block where
  left : Nat
  right : Nat
  size : Nat
deriving Repr, DecidableEq

/-- The longer of two blocks, the first if they are equally long. -/
def Block.longer (a b : Block) : Block := if a.size < b.size then b else a

/-- The longest common block of two texts. -/
def longestBlock (s t : Text) : Block :=
  let blocks := (List.range s.length).flatMap fun i =>
    (List.range t.length).map fun j => (⟨i, j, commonFront (s.drop i) (t.drop j)⟩ : Block)
  blocks.foldl Block.longer ⟨0, 0, 0⟩

/-- The number of characters in shared blocks, with at most `depth` divisions of the texts. -/
def sharedWithin : Nat → Text → Text → Nat
  | 0, _, _ => 0
  | depth + 1, s, t =>
    let b := longestBlock s t
    if b.size = 0 then 0
    else
      sharedWithin depth (s.take b.left) (t.take b.right) + b.size +
        sharedWithin depth (s.drop (b.left + b.size)) (t.drop (b.right + b.size))

/-- The number of characters in shared blocks. Every division leaves a shorter first text. -/
def shared (s t : Text) : Nat := sharedWithin (s.length + 1) s t

/-- A text of a list with what it shares with a given text. -/
structure Match where
  text : Text
  shared : Nat
  /-- the number of characters of both texts -/
  total : Nat
deriving Repr, DecidableEq

/-- Whether a match comes before another: the more similar first, and of equally similar ones the
greater text. -/
def Match.precedes (a b : Match) : Bool :=
  if a.shared * b.total = b.shared * a.total then isAtMost b.text a.text
  else b.shared * a.total < a.shared * b.total

/-- The texts of a list whose similarity to a given text is at least three fifths, at most three
of them, the most similar first. -/
def closeMatches (s : Text) (known : List Text) : List Text :=
  let matched := known.map fun k => (⟨k, shared k s, k.length + s.length⟩ : Match)
  let close := matched.filter fun m => 3 * m.total ≤ 10 * m.shared
  ((close.mergeSort Match.precedes).take 3).map Match.text

end TemplateLint.Text
