import TemplateLint.Encoding.Front

/-!
# UTF-8

A character is one byte below 0x80, or a lead byte and one to three continuation bytes. The lead
byte bounds the first continuation byte, which keeps out overlong forms, surrogates and code
points beyond Unicode.
-/

namespace TemplateLint.Encoding.Utf8

/-- A lead byte: its share of the code point, how many bytes follow, and the bounds of the first
of them. -/
structure Lead where
  bits : Nat
  following : Nat
  low : UInt8
  high : UInt8
deriving Repr, DecidableEq

/-- What a byte from 0x80 on says as a lead byte. -/
def lead? (b : UInt8) : Option Lead :=
  if b < 0xC2 then none
  else if b < 0xE0 then some ⟨b.toNat - 0xC0, 1, 0x80, 0xBF⟩
  else if b = 0xE0 then some ⟨0, 2, 0xA0, 0xBF⟩
  else if b = 0xED then some ⟨0xD, 2, 0x80, 0x9F⟩
  else if b < 0xF0 then some ⟨b.toNat - 0xE0, 2, 0x80, 0xBF⟩
  else if b = 0xF0 then some ⟨0, 3, 0x90, 0xBF⟩
  else if b < 0xF4 then some ⟨b.toNat - 0xF0, 3, 0x80, 0xBF⟩
  else if b = 0xF4 then some ⟨4, 3, 0x80, 0x8F⟩
  else none

/-- The continuation bytes of a character: `bits` is the code point so far, `seen` of them are
read and `needed` are still to come, the first of these within bounds. -/
def continuation (bits seen : Nat) : Nat → UInt8 → UInt8 → List UInt8 → Front
  | 0, _, _, _ => .char (Char.ofNat bits) seen
  | _ + 1, _, _, [] => .cut seen .unexpectedEnd
  | needed + 1, low, high, b :: bs =>
    if low ≤ b ∧ b ≤ high then
      continuation (bits * 0x40 + (b.toNat - 0x80)) (seen + 1) needed 0x80 0xBF bs
    else .bad seen .invalidContinuation

/-- Whether two bytes at the very end start the three-byte form of a surrogate. Such bytes can
never become a character, and yet are judged only with the bytes that follow. -/
def startsSurrogate (b : UInt8) : List UInt8 → Bool
  | [c] => b == 0xED && 0xA0 ≤ c && c ≤ 0xBF
  | _ => false

/-- What stands at the front of bytes in UTF-8. -/
def front (b : UInt8) (bs : List UInt8) : Front :=
  if b < 0x80 then .char (Char.ofNat b.toNat) 0
  else if startsSurrogate b bs then .cut 0 .invalidContinuation
  else match lead? b with
    | none => .bad 0 .invalidStart
    | some l => continuation l.bits 0 l.following l.low l.high bs

/-- The bytes of a character in UTF-8. -/
def encodeChar (c : Char) : List UInt8 :=
  let n := c.toNat
  let tail (unit : Nat) : UInt8 := (0x80 + n / unit % 0x40).toUInt8
  if n < 0x80 then [n.toUInt8]
  else if n < 0x800 then [(0xC0 + n / 0x40).toUInt8, tail 1]
  else if n < 0x10000 then [(0xE0 + n / 0x1000).toUInt8, tail 0x40, tail 1]
  else [(0xF0 + n / 0x40000).toUInt8, tail 0x1000, tail 0x40, tail 1]

end TemplateLint.Encoding.Utf8
