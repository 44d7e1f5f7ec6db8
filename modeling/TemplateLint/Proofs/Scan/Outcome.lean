import TemplateLint.Proofs.Encoding.Mark
import TemplateLint.Scan.File

/-!
# The outcomes of a scan

A scan is meant to end with a result, or to say that the file is missing, may not be read, or could
not be opened and read to its end (`Keeps`). Four things escape this contract (`Escapes`): a path of
which the operating system refuses to say whether anything is there, because a name is too long or a
directory on the way may not be searched, an encoding that is none of text, the encoding that
refuses everything, and a file that lacks its byte order mark. Malformed bytes do not escape it. For
the encodings that have a name here (`Encoding.ofName?`) nothing else does; some encodings beyond
these have faults of their own.
-/

namespace TemplateLint

open Encoding (Codec Fault)

/-- A file that may be read, in a text encoding, is scanned as far as its bytes can be decoded. -/
theorem scanFile_regular {fs : FileSystem} (settings : Settings) {path : Path}
    {bytes : List UInt8} {codec : Codec} (hfs : fs path = .present (.regular bytes) true)
    (hcodec : settings.encoding = .text codec) :
    scanFile fs settings path =
      match codec.decode bytes with
      | .error fault => .error (.ofFault path fault)
      | .ok text => .ok (scanLines text.lines) := by
  simp only [scanFile, openTarget, hfs, readText, hcodec]
  cases codec.decode bytes with
  | error fault => rfl
  | ok text => rfl

/-- The result of a scan, or one of the failures that a scan is meant to have. -/
def Keeps (path : Path) : Except Failure ScanResult → Prop
  | .ok _ => True
  | .error failure =>
    failure = .notFound path ∨ failure = .unreadable path ∨
      ∃ cause, failure = .readFailed path cause

/-- An encoding in which the bytes of a file fail in a way that a scan does not reckon with. -/
def Defies (encoding : Encoding) (bytes : List UInt8) : Prop :=
  encoding = .transform ∨ encoding = .undefined ∨
    ∃ w, encoding = .text (.marked w) ∧ w.IsUnmarked bytes

/-- A scan that fails in a way that it does not reckon with. -/
def Escapes (fs : FileSystem) (settings : Settings) (path : Path) : Prop :=
  (∃ error, fs path = .refused error) ∨
    ∃ bytes, fs path = .present (.regular bytes) true ∧ Defies settings.encoding bytes

private theorem keeps_ofFault_iff {path : Path} {fault : Fault} :
    Keeps path (.error (.ofFault path fault)) ↔ ∀ w, fault ≠ .unmarked w := by
  cases fault with
  | malformed form place => simp [Keeps, Failure.ofFault]
  | unmarked w => simp [Keeps, Failure.ofFault]

private theorem keeps_text_iff {fs : FileSystem} {settings : Settings} {path : Path}
    {bytes : List UInt8} {codec : Codec} (hfs : fs path = .present (.regular bytes) true)
    (hcodec : settings.encoding = .text codec) :
    Keeps path (scanFile fs settings path) ↔ ¬ Defies settings.encoding bytes := by
  have hdefies : Defies settings.encoding bytes ↔
      ∃ w, codec.decode bytes = .error (.unmarked w) := by
    simp [Defies, hcodec, Codec.decode_eq_unmarked_iff]
  rw [hdefies, scanFile_regular settings hfs hcodec]
  cases codec.decode bytes with
  | error fault => simp [keeps_ofFault_iff]
  | ok text => simp [Keeps]

private theorem keeps_regular_iff {fs : FileSystem} {settings : Settings} {path : Path}
    {bytes : List UInt8} (hfs : fs path = .present (.regular bytes) true) :
    Keeps path (scanFile fs settings path) ↔ ¬ Defies settings.encoding bytes := by
  cases hencoding : settings.encoding with
  | text codec => exact hencoding ▸ keeps_text_iff hfs hencoding
  | transform => simp [scanFile, openTarget, hfs, readText, hencoding, Keeps, Defies]
  | undefined => simp [scanFile, openTarget, hfs, readText, hencoding, Keeps, Defies]

/-- A scan keeps its contract unless it escapes it in one of the four ways. -/
theorem keeps_scanFile_iff (fs : FileSystem) (settings : Settings) (path : Path) :
    Keeps path (scanFile fs settings path) ↔ ¬ Escapes fs settings path := by
  cases hfs : fs path with
  | missing => simp [scanFile, openTarget, hfs, Keeps, Escapes]
  | refused error => simp [scanFile, openTarget, hfs, Keeps, Escapes]
  | present content readable =>
    cases readable with
    | false => simp [scanFile, openTarget, hfs, Keeps, Escapes]
    | true =>
      cases content with
      | closed error => simp [scanFile, openTarget, hfs, readText, Keeps, Escapes]
      | regular bytes =>
        rw [keeps_regular_iff hfs]
        simp [Escapes, hfs]

private theorem isExpected_of_keeps {path : Path} {failure : Failure}
    (h : Keeps path (.error failure)) : failure.isExpected = true := by
  rcases h with rfl | rfl | ⟨cause, rfl⟩
  · rfl
  · rfl
  · rfl

private theorem isExpected_of_escapes {fs : FileSystem} {settings : Settings} {path : Path}
    {failure : Failure} (he : Escapes fs settings path)
    (h : scanFile fs settings path = .error failure) : failure.isExpected = false := by
  rcases he with ⟨error, hfs⟩ | ⟨bytes, hfs, hencoding | hencoding | ⟨w, hencoding, hw⟩⟩
  · simp only [scanFile, openTarget, hfs, Except.error.injEq] at h
    exact h ▸ rfl
  · simp only [scanFile, openTarget, hfs, readText, hencoding, Except.error.injEq] at h
    exact h ▸ rfl
  · simp only [scanFile, openTarget, hfs, readText, hencoding, Except.error.injEq] at h
    exact h ▸ rfl
  · rw [scanFile_regular settings hfs hencoding,
      Codec.decode_eq_unmarked_iff.mpr ⟨rfl, hw⟩] at h
    exact (Except.error.inj h) ▸ rfl

/-- The failures that escape the contract are the unexpected ones. -/
theorem isExpected_eq_false_iff_escapes {fs : FileSystem} {settings : Settings} {path : Path}
    {failure : Failure} (h : scanFile fs settings path = .error failure) :
    failure.isExpected = false ↔ Escapes fs settings path := by
  constructor
  · intro hunexpected
    apply Classical.byContradiction
    intro hnot
    have hkeeps := (keeps_scanFile_iff fs settings path).mpr hnot
    rw [h] at hkeeps
    rw [isExpected_of_keeps hkeeps] at hunexpected
    cases hunexpected
  · intro he
    exact isExpected_of_escapes he h

end TemplateLint
