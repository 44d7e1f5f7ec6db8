import TemplateLint.Text.Basic

/-!
# Decoding byte by byte

An encoding form is given by what it sees at the front of some bytes: a character and how many
bytes it takes, bytes that no continuation can mend, or bytes that end before a character is
complete. `decodeFrom` repeats this over one stretch of bytes. The last stretch must be complete;
any other may leave the bytes of an unfinished character to the next.
-/

namespace TemplateLint.Encoding

/-- Why bytes stand for no character. -/
inductive Reason where
  | invalidStart
  | invalidContinuation
  | unexpectedEnd
  | notAscii
  | unmapped
  | truncated
  | illegalSurrogate
  | illegalEncoding
  | beyondUnicode
  | surrogateCode
deriving Repr, DecidableEq

/-- The wording of a reason. -/
def Reason.message : Reason → Text
  | .invalidStart => "invalid start byte".toList
  | .invalidContinuation => "invalid continuation byte".toList
  | .unexpectedEnd => "unexpected end of data".toList
  | .notAscii => "ordinal not in range(128)".toList
  | .unmapped => "character maps to <undefined>".toList
  | .truncated => "truncated data".toList
  | .illegalSurrogate => "illegal UTF-16 surrogate".toList
  | .illegalEncoding => "illegal encoding".toList
  | .beyondUnicode => "code point not in range(0x110000)".toList
  | .surrogateCode => "code point in surrogate code point range(0xd800, 0xe000)".toList

/-- What stands at the front of some bytes. Each case says how many bytes beyond the first it
concerns. -/
inductive Front where
  /-- a character that takes the first byte and `more` others -/
  | char (c : Char) (more : Nat)
  /-- bytes that are malformed whatever follows -/
  | bad (more : Nat) (reason : Reason)
  /-- bytes that are malformed unless others follow -/
  | cut (more : Nat) (reason : Reason)
deriving Repr, DecidableEq

/-- Where bytes are malformed: the position of the first of them in its stretch, that byte, how
many there are, and why. -/
structure Malformed where
  position : Nat
  byte : UInt8
  count : Nat
  reason : Reason
deriving Repr, DecidableEq

/-- The decoded part of a stretch of bytes, and the bytes at its end that wait for others. -/
structure Decoded where
  text : Text
  held : List UInt8
deriving Repr, DecidableEq

/-- A character in front of what was decoded after it. -/
def Decoded.cons (c : Char) (d : Decoded) : Decoded := { d with text := c :: d.text }

/-- A stretch of bytes decoded by what stands at its front, from a position on. Only the last
stretch is held to be complete. -/
def decodeFrom (front : UInt8 → List UInt8 → Front) (last : Bool) (position : Nat)
    (bytes : List UInt8) : Except Malformed Decoded :=
  match bytes with
  | [] => .ok ⟨[], []⟩
  | b :: bs =>
    match front b bs with
    | .char c more =>
      (decodeFrom front last (position + more + 1) (bs.drop more)).map (Decoded.cons c)
    | .bad more reason => .error ⟨position, b, more + 1, reason⟩
    | .cut more reason =>
      if last then .error ⟨position, b, more + 1, reason⟩ else .ok ⟨[], b :: bs⟩
termination_by bytes.length
decreasing_by
  simp only [List.length_drop, List.length_cons]
  omega

end TemplateLint.Encoding
