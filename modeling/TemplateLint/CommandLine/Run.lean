import TemplateLint.CommandLine.Device
import TemplateLint.CommandLine.Notice
import TemplateLint.Log.Basic
import TemplateLint.Report.Data
import TemplateLint.Report.Detailed
import TemplateLint.Scan.File
import TemplateLint.Style.Strip
import TemplateLint.Text.Line

/-!
# Running the program

A run turns a command line into an exit code, the text on standard output and the text on standard
error. What a call leads to (`perform`) is separate from how it is shown: colours decide which
escape sequences reach standard output, and verbosity which records reach standard error. A report
that standard output cannot take is an unexpected error of the call; a message that it cannot take
is the end of the run, which breaks down.
-/

namespace TemplateLint.CommandLine

/-- Why a scan gives no result. -/
inductive Stop where
  /-- the scan failed -/
  | failed (failure : Failure)
  /-- the linter reports an error in its own words -/
  | reported (message : Text)
  /-- something went wrong that no scan reckons with -/
  | unexpected (message : Text)
  /-- the user interrupted the scan -/
  | interrupted
deriving Repr, DecidableEq

/-- The attempt of a scan: its notes for the log, and its result. -/
structure Attempt where
  notes : List Text
  outcome : Except Stop ScanResult

/-- A way to scan a file under settings. -/
abbrev Scanner := Settings → Path → Attempt

/-- The scanner of a file system. -/
def Scanner.ofFileSystem (fs : FileSystem) : Scanner := fun settings path =>
  ⟨scanNotes fs settings path, (scanFile fs settings path).mapError .failed⟩

/-- A record for the log. -/
structure Record where
  level : Level
  name : Text
  message : Text
deriving Repr, DecidableEq

/-- What a call of the program leads to. -/
structure Performance where
  exitCode : Nat
  document : Document
  records : List Record
deriving Repr, DecidableEq

/-- The record of a note that a scan made. -/
def noteRecord (note : Text) : Record := ⟨.info, "keycase_lint.scanner".toList, note⟩

/-- The record of an unexpected error. The trace of the error, which standard error has behind its
line, is left out. -/
def surpriseRecord : Record :=
  ⟨.error, "keycase_lint.cli".toList, "Unexpected error during execution".toList⟩

/-- An error as a document. -/
def errorDocument (message : Text) : Document := [[.error ("Error: ".toList ++ message)]]

/-- The report of an unexpected error. -/
def surpriseDocument (message : Text) : Document :=
  [[.error ("An unexpected error occurred: ".toList ++ message)],
   [.literal "Run with --verbose for details."]]

/-- What an unexpected error leads to. -/
def surprise (records : List Record) (message : Text) : Performance :=
  ⟨1, surpriseDocument message, records ++ [surpriseRecord]⟩

/-- What a scan without a result leads to. -/
def performStop (records : List Record) : Stop → Performance
  | .interrupted => ⟨130, [[], [.literal "Operation cancelled by user"]], records⟩
  | .reported message => ⟨1, errorDocument message, records⟩
  | .unexpected message => surprise records message
  | .failed failure =>
    if failure.isExpected then ⟨1, errorDocument failure.message, records⟩
    else surprise records failure.message

/-- The sheet of a call: colours are left out where they are forbidden. -/
def sheetOf (inv : Invocation) : Sheet :=
  if inv.colour = some false then Sheet.plain else Sheet.coloured

/-- The text of a document for standard output. Escape sequences stay where colours are forced, or
where nothing is said about them and the output is a terminal. -/
def present (inv : Invocation) (terminal : Bool) (d : Document) : Text :=
  let text := d.render (sheetOf inv) ++ ['\n']
  if inv.colour.getD terminal then text else Style.strip text

/-- The report of a result in the form that a call asks for, if its integers can be written. -/
def report (inv : Invocation) (settings : Settings) (file : Text) (r : ScanResult) :
    Except Text Document :=
  if inv.json then (Report.data r file).map fun s => [[.bare s]]
  else Report.inDetail settings r file

/-- The report of a result, if it can be made and the device takes it. -/
def tryReport (device : Device) (terminal : Bool) (inv : Invocation) (settings : Settings)
    (file : Text) (r : ScanResult) : Except Text Document :=
  match report inv settings file r with
  | .error complaint => .error complaint
  | .ok document => (device.write (present inv terminal document)).map fun _ => document

/-- The settings of a call. -/
def settingsOf (inv : Invocation) : Except (List Settings.Complaint) Settings :=
  Settings.build
    [(Settings.encodingSetting, .text inv.encoding),
     (Settings.contextWidthSetting, .int inv.contextWidth)]

/-- What a call leads to: the number of paths is checked first, then the settings, and only then
is a file scanned. A report that fails is an unexpected error. -/
def perform (device : Device) (terminal : Bool) (scan : Scanner) (inv : Invocation) :
    Performance :=
  match singlePath inv.paths with
  | .error _ => ⟨1, usage programName, []⟩
  | .ok file =>
    match settingsOf inv with
    | .error complaints =>
      ⟨1, errorDocument ("Invalid option: ".toList ++ Settings.complaintsMessage complaints), []⟩
    | .ok settings =>
      let attempt := scan settings (Path.ofText file)
      let records := attempt.notes.map noteRecord
      match attempt.outcome with
      | .error stop => performStop records stop
      | .ok r =>
        match tryReport device terminal inv settings file r with
        | .error complaint => surprise records complaint
        | .ok document => ⟨r.exitCode, document, records⟩

/-- The streams that a log can write to. -/
inductive Stream where
  | standardError
  | buffer (name : Text)
  /-- a stream that has been replaced, and that nobody reads any more -/
  | replaced
deriving Repr, DecidableEq

/-- What a run leaves behind. A run that breaks down does so over an error that nothing in it
answers for; the trace of that error on standard error is left out. -/
structure Outcome where
  exitCode : Nat
  standardOutput : Text := []
  standardError : Text := []
  breakdown : Option Text := none
deriving Repr, DecidableEq

/-- The outcome of a run whose last word is a text, next to what it has put on standard error. -/
def Outcome.saying (device : Device) (exitCode : Nat) (text diagnostics : Text) : Outcome :=
  match device.write text with
  | .ok text => { exitCode, standardOutput := text, standardError := diagnostics }
  | .error complaint =>
    { exitCode := 1, standardError := diagnostics, breakdown := some complaint }

/-- An outcome with line feeds as its only line ends. -/
def Outcome.unifyLineEnds (o : Outcome) : Outcome where
  breakdown := o.breakdown
  exitCode := o.exitCode
  standardOutput := o.standardOutput.unifyLineEnds
  standardError := o.standardError.unifyLineEnds

/-- Why a run breaks off without an outcome. -/
inductive Abort where
  /-- a path holds a NUL, so that nothing can be asked about it -/
  | nullInPath
deriving Repr, DecidableEq

/-- The wording of an abort. -/
def Abort.message : Abort → Text
  | .nullInPath => "embedded null byte".toList

/-- A record as an event of the log. -/
def Record.event (r : Record) : Log.Event Stream := .record r.level r.name r.message

/-- The run of a call, with the state of the log before and after it. -/
def runInvocation (device : Device) (scan : Scanner) (terminal : Bool) (inv : Invocation)
    (log : Log Stream) : Outcome × Log Stream :=
  let performance := perform device terminal scan inv
  let start := (log.renew .replaced).configure inv.verbose inv.quiet .standardError
  let finish := start.applyAll (some .standardError) (performance.records.map Record.event)
  (.saying device performance.exitCode (present inv terminal performance.document)
    (finish.textOf .standardError), finish)

/-- The run of a command line, with the state of the log before and after it. All paths are looked
at before the call is carried out, however many there are. -/
def run (device : Device) (scan : Scanner) (terminal : Bool) (args : List Text)
    (log : Log Stream) : Except Abort Outcome × Log Stream :=
  match Request.ofArguments args with
  | .error fault => (.ok { exitCode := 2, standardError := faultNotice fault }, log)
  | .ok .showVersion => (.ok (.saying device 0 versionNotice []), log)
  | .ok .showHelp => (.ok (.saying device 0 helpNotice []), log)
  | .ok (.scan inv) =>
    if inv.paths.any (·.contains '\x00') then (.error .nullInPath, log)
    else
      let (outcome, log) := runInvocation device scan terminal inv log
      (.ok outcome, log)

end TemplateLint.CommandLine
