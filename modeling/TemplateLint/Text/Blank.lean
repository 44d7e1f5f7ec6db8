import TemplateLint.Text.Basic
import TemplateLint.Text.Range

/-!
# Blanks

The blank characters: the white space of Unicode 14 and the four information separators
U+001C to U+001F.
-/

namespace TemplateLint.Text

/-- Closed ranges of the blank characters, ascending. -/
def blankRanges : List (Nat × Nat) :=
  [(0x09, 0x0D), (0x1C, 0x20), (0x85, 0x85), (0xA0, 0xA0), (0x1680, 0x1680), (0x2000, 0x200A),
   (0x2028, 0x2029), (0x202F, 0x202F), (0x205F, 0x205F), (0x3000, 0x3000)]

/-- Whether a character is blank. -/
def isBlank (c : Char) : Bool := inRanges blankRanges c.toNat

/-- Whether a character is white space in the narrower sense, which leaves the information
separators out. -/
def isWhite (c : Char) : Bool := isBlank c && !(0x1C ≤ c.toNat && c.toNat ≤ 0x1F)

/-- A text without the blanks at either end. -/
def strip (s : Text) : Text := s.trim isBlank

end TemplateLint.Text
