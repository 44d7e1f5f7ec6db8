import TemplateLint.Encoding.Front

/-!
# Single-byte encodings

Each byte is a character of its own. Below 0x80 all of them agree with ASCII.
-/

namespace TemplateLint.Encoding

/-- The single-byte encodings. -/
inductive SingleByte where
  | ascii
  | latin1
  | latin9
  | windows1252
deriving Repr, DecidableEq

namespace SingleByte

/-- The code points that Latin-9 has in places of its own. -/
def latin9Table : List (Nat × Nat) :=
  [(0xA4, 0x20AC), (0xA6, 0x160), (0xA8, 0x161), (0xB4, 0x17D), (0xB8, 0x17E), (0xBC, 0x152),
   (0xBD, 0x153), (0xBE, 0x178)]

/-- The code points of the Windows code page between 0x80 and 0x9F; five bytes have none. -/
def windows1252Table : List (Nat × Nat) :=
  [(0x80, 0x20AC), (0x82, 0x201A), (0x83, 0x192), (0x84, 0x201E), (0x85, 0x2026), (0x86, 0x2020),
   (0x87, 0x2021), (0x88, 0x2C6), (0x89, 0x2030), (0x8A, 0x160), (0x8B, 0x2039), (0x8C, 0x152),
   (0x8E, 0x17D), (0x91, 0x2018), (0x92, 0x2019), (0x93, 0x201C), (0x94, 0x201D), (0x95, 0x2022),
   (0x96, 0x2013), (0x97, 0x2014), (0x98, 0x2DC), (0x99, 0x2122), (0x9A, 0x161), (0x9B, 0x203A),
   (0x9C, 0x153), (0x9E, 0x17E), (0x9F, 0x178)]

/-- The code point of a byte, if it has one. -/
def codePoint? : SingleByte → Nat → Option Nat
  | .ascii, n => if n < 0x80 then some n else none
  | .latin1, n => some n
  | .latin9, n => some ((latin9Table.lookup n).getD n)
  | .windows1252, n =>
    if 0x80 ≤ n ∧ n < 0xA0 then windows1252Table.lookup n else some n

/-- Why a byte without a code point is refused. -/
def refusal : SingleByte → Reason
  | .ascii => .notAscii
  | _ => .unmapped

/-- What stands at the front of bytes in a single-byte encoding. -/
def front (s : SingleByte) (b : UInt8) (_ : List UInt8) : Front :=
  match s.codePoint? b.toNat with
  | some n => .char (Char.ofNat n) 0
  | none => .bad 0 s.refusal

/-- The byte of a character, if it has one. -/
def encodeChar? (s : SingleByte) (c : Char) : Option (List UInt8) :=
  ((List.range 0x100).find? fun n => s.codePoint? n == some c.toNat).map fun n => [n.toUInt8]

/-- The name of an encoding in messages: those that differ from ASCII by a table share one. -/
def name : SingleByte → Text
  | .ascii => "ascii".toList
  | .latin1 => "latin-1".toList
  | .latin9 | .windows1252 => "charmap".toList

end SingleByte

end TemplateLint.Encoding
