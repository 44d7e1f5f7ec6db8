import TemplateLint.Scan.Failure
import TemplateLint.Scan.Line
import TemplateLint.Settings.Basic
import TemplateLint.Text.Line

/-!
# Scanning a file

A scan first checks that the path leads to something that may be read. Then it opens the file,
asks for a text encoding, reads the file to its end, and scans its lines. There is no partial
result: a file that cannot be decoded as a whole gives a failure.
-/

namespace TemplateLint

/-- What a path leads to, if it is there and may be read. -/
def openTarget (fs : FileSystem) (path : Path) : Except Failure Content :=
  match fs path with
  | .missing => .error (.notFound path)
  | .refused error => .error (.refused path error)
  | .present _ false => .error (.unreadable path)
  | .present content true => .ok content

/-- The failure that a fault in the bytes of a file amounts to. -/
def Failure.ofFault (path : Path) : Encoding.Fault → Failure
  | .malformed form place => .readFailed path (.malformed form place)
  | .unmarked w => .unmarked w

/-- The text of an opened file. -/
def readText (settings : Settings) (path : Path) : Content → Except Failure Text
  | .closed error => .error (.readFailed path (.closed path error))
  | .regular bytes =>
    match settings.encoding with
    | .transform => .error (.notTextEncoding settings.encodingName)
    | .undefined => .error .undefinedEncoding
    | .text codec => (codec.decode bytes).mapError (Failure.ofFault path)

/-- The result of scanning the file that a path leads to. -/
def scanFile (fs : FileSystem) (settings : Settings) (path : Path) : Except Failure ScanResult :=
  match openTarget fs path with
  | .error failure => .error failure
  | .ok content =>
    match readText settings path content with
    | .error failure => .error failure
    | .ok text => .ok (scanLines text.lines)

/-- What a scan notes before it opens a file. -/
def openingNote (settings : Settings) (path : Path) : Text :=
  "Scanning ".toList ++ path.toText ++ " (".toList ++ settings.encodingName ++ ")".toList

/-- What a scan notes when it is complete. -/
def closingNote (r : ScanResult) : Text :=
  "Scanned ".toList ++ Text.ofInt r.lines ++ " line(s), found ".toList ++ Text.ofNat r.count ++
    " violation(s)".toList

/-- The notes of a scan: one once the path is checked, another once the scan is complete. -/
def scanNotes (fs : FileSystem) (settings : Settings) (path : Path) : List Text :=
  match openTarget fs path with
  | .error _ => []
  | .ok content =>
    openingNote settings path ::
      match readText settings path content with
      | .error _ => []
      | .ok text => [closingNote (scanLines text.lines)]

end TemplateLint
