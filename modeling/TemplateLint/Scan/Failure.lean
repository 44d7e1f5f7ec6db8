import TemplateLint.Encoding.Codec
import TemplateLint.File.System
import TemplateLint.Text.Quoted

/-!
# Why a file is not scanned

A file that is missing, may not be read, or cannot be opened and decoded to its end is an expected
failure: its message is all there is to say. The remaining failures come from paths about which the
operating system refuses to answer and from encodings that no scan can work with; they are reported
as unexpected.
-/

namespace TemplateLint

/-- Why reading a file stopped. -/
inductive ReadCause where
  | closed (path : Path) (error : SystemError)
  | malformed (form : Encoding.Form) (place : Encoding.Malformed)
deriving Repr, DecidableEq

/-- The wording of an error of the operating system about a path. -/
def SystemError.message (error : SystemError) (path : Path) : Text :=
  "[Errno ".toList ++ Text.ofNat error.code ++ "] ".toList ++ error.reason ++ ": ".toList ++
    path.toText.quoted

/-- The wording of what stopped reading. -/
def ReadCause.message : ReadCause → Text
  | .closed path error => error.message path
  | .malformed form place => (Encoding.Fault.malformed form place).message

/-- Why a file is not scanned. -/
inductive Failure where
  | notFound (path : Path)
  | unreadable (path : Path)
  | readFailed (path : Path) (cause : ReadCause)
  | refused (path : Path) (error : SystemError)
  | notTextEncoding (name : Text)
  | undefinedEncoding
  | unmarked (w : Encoding.Wide)
deriving Repr, DecidableEq

namespace Failure

/-- Whether a failure is one that every scan has to reckon with. -/
def isExpected : Failure → Bool
  | .notFound _ | .unreadable _ | .readFailed _ _ => true
  | _ => false

/-- A name cut to 400 bytes; a character that is cut in two leaves a replacement character. -/
def clipName (name : Text) : Text :=
  let front := Text.takeBytes 400 name
  if front.length < name.length ∧ front.byteLength < 400 then front ++ [Char.ofNat 0xFFFD]
  else front

/-- The wording of a failure. -/
def message : Failure → Text
  | .notFound path => "File not found: ".toList ++ path.toText
  | .unreadable path => "File is not readable: ".toList ++ path.toText
  | .readFailed _ cause => "Error reading file: ".toList ++ cause.message
  | .refused path error => error.message path
  | .notTextEncoding name =>
    '\'' :: clipName name ++
      "' is not a text encoding; use codecs.open() to handle arbitrary codecs".toList
  | .undefinedEncoding => "undefined encoding".toList
  | .unmarked w => (Encoding.Fault.unmarked w).message

end Failure

end TemplateLint
