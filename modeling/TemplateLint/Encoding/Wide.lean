import TemplateLint.Encoding.Front

/-!
# UTF-16 and UTF-32

Both forms are made of units of two or four bytes in one of two byte orders. In UTF-16 a code
point beyond U+FFFF takes a high and a low surrogate; in UTF-32 every code point takes one unit.
-/

namespace TemplateLint.Encoding

/-- The order of the bytes of a unit. -/
inductive ByteOrder where
  | little
  | big
deriving Repr, DecidableEq

/-- The forms whose units are wider than a byte. -/
inductive Wide where
  | utf16
  | utf32
deriving Repr, DecidableEq

namespace Wide

/-- The number in bytes whose order is given. -/
def unitValue (order : ByteOrder) (bytes : List UInt8) : Nat :=
  match order with
  | .little => bytes.foldr (fun b n => n * 0x100 + b.toNat) 0
  | .big => bytes.foldl (fun n b => n * 0x100 + b.toNat) 0

/-- What stands at the front of bytes in UTF-16. A high surrogate is judged only with the two
bytes after it. -/
def front16 (order : ByteOrder) (b : UInt8) : List UInt8 → Front
  | [] => .cut 0 .truncated
  | b' :: bs =>
    let unit := unitValue order [b, b']
    if unit < 0xD800 ∨ 0xE000 ≤ unit then .char (Char.ofNat unit) 1
    else if 0xDC00 ≤ unit then .bad 1 .illegalEncoding
    else match bs with
      | c :: c' :: _ =>
        let low := unitValue order [c, c']
        if 0xDC00 ≤ low ∧ low < 0xE000 then
          .char (Char.ofNat (0x10000 + (unit - 0xD800) * 0x400 + (low - 0xDC00))) 3
        else .bad 1 .illegalSurrogate
      | bs => .cut (bs.length + 1) .unexpectedEnd

/-- What stands at the front of bytes in UTF-32. -/
def front32 (order : ByteOrder) (b : UInt8) : List UInt8 → Front
  | c :: d :: e :: _ =>
    let unit := unitValue order [b, c, d, e]
    if 0xD800 ≤ unit ∧ unit < 0xE000 then .bad 3 .surrogateCode
    else if 0x110000 ≤ unit then .bad 3 .beyondUnicode
    else .char (Char.ofNat unit) 3
  | bs => .cut bs.length .truncated

/-- What stands at the front of bytes in a wide form. -/
def front : Wide → ByteOrder → UInt8 → List UInt8 → Front
  | .utf16 => front16
  | .utf32 => front32

/-- The given number of bytes of a number, the least significant first. -/
def lowBytes : Nat → Nat → List UInt8
  | 0, _ => []
  | width + 1, n => (n % 0x100).toUInt8 :: lowBytes width (n / 0x100)

/-- The bytes of a number in a given order. -/
def unitBytes (order : ByteOrder) (width n : Nat) : List UInt8 :=
  match order with
  | .little => lowBytes width n
  | .big => (lowBytes width n).reverse

/-- The bytes of a character in a wide form. -/
def encodeChar : Wide → ByteOrder → Char → List UInt8
  | .utf16, order, c =>
    if c.toNat < 0x10000 then unitBytes order 2 c.toNat
    else
      unitBytes order 2 (0xD800 + (c.toNat - 0x10000) / 0x400) ++
        unitBytes order 2 (0xDC00 + (c.toNat - 0x10000) % 0x400)
  | .utf32, order, c => unitBytes order 4 c.toNat

/-- The byte order mark U+FEFF as it stands at the front of a file. -/
def mark (w : Wide) (order : ByteOrder) : List UInt8 := w.encodeChar order (Char.ofNat 0xFEFF)

/-- The name of a form in messages. -/
def name : Wide → Text
  | .utf16 => "utf-16".toList
  | .utf32 => "utf-32".toList

end Wide

end TemplateLint.Encoding
