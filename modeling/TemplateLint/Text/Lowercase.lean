import TemplateLint.Text.Basic
import TemplateLint.Text.CaseContext
import TemplateLint.Text.CaseTable

/-!
# Lower case of a text

Lowercasing looks at the whole text. A capital sigma becomes the final form when a cased character
precedes it and none follows, case-ignorable characters being passed over on both sides. The
capital I with a dot above becomes two characters. Every other character has a counterpart of its
own.
-/

namespace TemplateLint.Text

/-- Capital sigma, the one character whose lower case depends on its surroundings. -/
def capitalSigma : Char := Char.ofNat 0x3A3

/-- Whether the nearest character that is not case-ignorable is cased. -/
def startsCased (s : Text) : Bool :=
  match s.dropWhile isCaseIgnorable with
  | [] => false
  | c :: _ => isCased c

/-- Whether a cased character precedes the next position, given whether one precedes this one. -/
def casedAfter (preceded : Bool) (c : Char) : Bool :=
  if isCaseIgnorable c then preceded else isCased c

/-- The lower case of one character between a context before it and the text after it. -/
def lowerAt (preceded : Bool) (c : Char) (following : Text) : Text :=
  if c = capitalSigma then
    [Char.ofNat (if preceded && !startsCased following then 0x3C2 else 0x3C3)]
  else if c = Char.ofNat 0x130 then ['i', Char.ofNat 0x307]
  else [lowerChar c]

/-- The lower case of a text, given whether a cased character precedes it. -/
def lowerFrom : Bool → Text → Text
  | _, [] => []
  | preceded, c :: s => lowerAt preceded c s ++ lowerFrom (casedAfter preceded c) s

/-- The lower case of a text. -/
def lower (s : Text) : Text := lowerFrom false s

end TemplateLint.Text
