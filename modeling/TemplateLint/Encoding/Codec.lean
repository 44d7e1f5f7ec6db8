import TemplateLint.Encoding.SingleByte
import TemplateLint.Encoding.Utf8
import TemplateLint.Encoding.Wide

/-!
# Codecs and streams

A codec reads a file in stretches of at most 8192 bytes, each behind the bytes that the stretch
before it held back, and ends with a last stretch of only the bytes still held. A codec with a
signature drops one at the front of the file; a codec with a byte order mark takes the byte order
from it and refuses a file without one. Positions in an error count from the start of the stretch.
-/

namespace TemplateLint.Encoding

/-- The encoding forms that need nothing but the bytes at hand. -/
inductive Form where
  | utf8
  | wide (w : Wide) (order : ByteOrder)
  | single (s : SingleByte)
deriving Repr, DecidableEq

namespace Form

/-- What stands at the front of bytes in a form. -/
def front : Form → UInt8 → List UInt8 → Front
  | .utf8 => Utf8.front
  | .wide w order => w.front order
  | .single s => s.front

/-- The name of a form in messages. -/
def name : Form → Text
  | .utf8 => "utf-8".toList
  | .wide w .little => w.name ++ "-le".toList
  | .wide w .big => w.name ++ "-be".toList
  | .single s => s.name

/-- The bytes of a character in a form, if it can be written. -/
def encodeChar? : Form → Char → Option (List UInt8)
  | .utf8, c => some (Utf8.encodeChar c)
  | .wide w order, c => some (w.encodeChar order c)
  | .single s, c => s.encodeChar? c

/-- The bytes of a text in a form, if every character can be written. -/
def encode? (f : Form) : Text → Option (List UInt8)
  | [] => some []
  | c :: s =>
    match f.encodeChar? c, f.encode? s with
    | some bytes, some rest => some (bytes ++ rest)
    | _, _ => none

end Form

/-- The ways to turn the bytes of a file into text. -/
inductive Codec where
  /-- a form, from the first byte on -/
  | plain (form : Form)
  /-- UTF-8 behind an optional signature -/
  | signed
  /-- a wide form behind a byte order mark -/
  | marked (w : Wide)
deriving Repr, DecidableEq

/-- Why a file cannot be decoded. -/
inductive Fault where
  /-- bytes that are no character in a form -/
  | malformed (form : Form) (place : Malformed)
  /-- a file in a wide form without a byte order mark -/
  | unmarked (w : Wide)
deriving Repr, DecidableEq

/-- The signature of UTF-8, the byte order mark in that form. -/
def signature : List UInt8 := [0xEF, 0xBB, 0xBF]

/-- What a stretch of bytes gave: its text, the bytes held back, and the codec for what follows. -/
structure Step where
  text : Text
  held : List UInt8
  codec : Codec
deriving Repr, DecidableEq

/-- A stretch of bytes decoded in a form, after which the form stays. -/
def Form.step (f : Form) (last : Bool) (position : Nat) (bytes : List UInt8) : Except Fault Step :=
  match decodeFrom f.front last position bytes with
  | .ok d => .ok ⟨d.text, d.held, .plain f⟩
  | .error m => .error (.malformed f m)

/-- The first bytes of a file behind an optional signature. Bytes that may still become a
signature are held back, also by the last stretch. -/
def signedStep (last : Bool) (bytes : List UInt8) : Except Fault Step :=
  if bytes.length < signature.length ∧ bytes.isPrefixOf signature then .ok ⟨[], bytes, .signed⟩
  else if signature.isPrefixOf bytes then Form.utf8.step last 0 (bytes.drop signature.length)
  else Form.utf8.step last 0 bytes

/-- The first bytes of a file behind a byte order mark. Without a mark they are read as
little-endian until a character shows that the mark is missing. -/
def markedStep (w : Wide) (last : Bool) (bytes : List UInt8) : Except Fault Step :=
  if (w.mark .little).isPrefixOf bytes then
    (Form.wide w .little).step last (w.mark .little).length (bytes.drop (w.mark .little).length)
  else if (w.mark .big).isPrefixOf bytes then
    (Form.wide w .big).step last (w.mark .big).length (bytes.drop (w.mark .big).length)
  else
    match (Form.wide w .little).step last 0 bytes with
    | .error fault => .error fault
    | .ok step =>
      if step.text.isEmpty then .ok { step with codec := .marked w } else .error (.unmarked w)

namespace Codec

/-- A stretch of bytes decoded by a codec. -/
def step : Codec → Bool → List UInt8 → Except Fault Step
  | .plain f, last, bytes => f.step last 0 bytes
  | .signed, last, bytes => signedStep last bytes
  | .marked w, last, bytes => markedStep w last bytes

/-- The text of successive chunks, behind the bytes held back so far. -/
def decodeChunks (codec : Codec) (held : List UInt8) : List (List UInt8) → Except Fault Text
  | [] => (codec.step true held).map Step.text
  | chunk :: chunks =>
    match codec.step false (held ++ chunk) with
    | .error fault => .error fault
    | .ok s => (s.codec.decodeChunks s.held chunks).map (s.text ++ ·)

/-- The text of a file read at once. -/
def decodeWhole (codec : Codec) (bytes : List UInt8) : Except Fault Text :=
  (codec.step true bytes).map Step.text

/-- The bytes of a text as a file in a codec, with its signature or a little-endian mark. -/
def encode? : Codec → Text → Option (List UInt8)
  | .plain f, s => f.encode? s
  | .signed, s => (Form.utf8.encode? s).map (signature ++ ·)
  | .marked w, s => ((Form.wide w .little).encode? s).map (w.mark .little ++ ·)

end Codec

/-- Bytes in chunks of `size + 1`, the last of which may be shorter. -/
def chunksOf (size : Nat) (bytes : List UInt8) : List (List UInt8) :=
  match bytes with
  | [] => []
  | b :: bs => (b :: bs.take size) :: chunksOf size (bs.drop size)
termination_by bytes.length
decreasing_by
  simp only [List.length_drop, List.length_cons]
  omega

/-- The text of a file, read in chunks of 8192 bytes. -/
def Codec.decode (codec : Codec) (bytes : List UInt8) : Except Fault Text :=
  codec.decodeChunks [] (chunksOf 8191 bytes)

/-- The wording of a fault. -/
def Fault.message : Fault → Text
  | .malformed form m =>
    let place :=
      if m.count = 1 then
        "byte 0x".toList ++ Text.ofHex 2 m.byte.toNat ++ " in position ".toList ++
          Text.ofNat m.position
      else
        "bytes in position ".toList ++ Text.ofNat m.position ++ '-' ::
          Text.ofNat (m.position + m.count - 1)
    '\'' :: form.name ++ "' codec can't decode ".toList ++ place ++ ": ".toList ++ m.reason.message
  | .unmarked .utf16 => "UTF-16 stream does not start with BOM".toList
  | .unmarked .utf32 => "UTF-32 stream does not start with BOM".toList

end TemplateLint.Encoding
