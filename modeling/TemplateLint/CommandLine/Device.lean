import TemplateLint.Text.Quoted

/-!
# Output devices

A device takes a text as a whole or not at all, for it refuses a text with a character that its
codec cannot encode. The complaint about such a text names the codec, the place of the refused
characters and the reason. Every device takes the characters below U+0080: an output whose codec
knows only these is written in UTF-8 instead, and every other codec in use extends them.
-/

namespace TemplateLint

/-- What a text on standard output is written to. -/
structure Device where
  /-- the name of its codec, and what the codec has against the characters that it refuses -/
  codec : Text
  reason : Text
  encodes : Char → Bool
  /-- whether a complaint is about all refused characters in a row, or about the first of them -/
  together : Bool := true
  isAscii_codec : codec.isAscii = true := by decide
  isAscii_reason : reason.isAscii = true := by decide
  encodes_of_ascii : ∀ c : Char, c.toNat < 0x80 → encodes c = true

namespace Device

/-- A device in UTF-8. The only code points that it refuses are surrogates, which are no
characters. -/
def utf8 : Device where
  codec := "utf-8".toList
  reason := "surrogates not allowed".toList
  encodes _ := true
  encodes_of_ascii _ _ := rfl

/-- A device in Latin-1. -/
def latin1 : Device where
  codec := "latin-1".toList
  reason := "ordinal not in range(256)".toList
  encodes c := c.toNat < 0x100
  encodes_of_ascii c h := by
    rw [decide_eq_true_iff]
    omega

/-- Where the first refused character of a text stands. -/
def place (d : Device) (s : Text) : Nat := (s.takeWhile d.encodes).length

/-- The refused characters that a complaint about a text is about. -/
def stretch (d : Device) (s : Text) : Text :=
  let refused := (s.dropWhile d.encodes).takeWhile fun c => !d.encodes c
  if d.together then refused else refused.take 1

/-- Which characters of a text a complaint is about: one by its code point, several by where they
stand. -/
def subject (d : Device) (s : Text) : Text :=
  match d.stretch s with
  | [c] =>
    " '".toList ++ Text.escapeCode c.toNat ++ "' in position ".toList ++ Text.ofNat (d.place s)
  | several =>
    "s in position ".toList ++ Text.ofNat (d.place s) ++ "-".toList ++
      Text.ofNat (d.place s + several.length - 1)

/-- The complaint about a text with a refused character. -/
def complaint (d : Device) (s : Text) : Text :=
  "'".toList ++ d.codec ++ "' codec can't encode character".toList ++ d.subject s ++
    ": ".toList ++ d.reason

/-- The text that comes to stand on a device, or the complaint about it. -/
def write (d : Device) (s : Text) : Except Text Text :=
  if s.all d.encodes then .ok s else .error (d.complaint s)

/-- What comes to stand on a device of a text: all of it or nothing. -/
def shown (d : Device) (s : Text) : Text := if s.all d.encodes then s else []

end Device

end TemplateLint
