import TemplateLint.Proofs.CommandLine.ExitCode
import TemplateLint.Proofs.Log.History

/-!
# What the presentation of a call has a say in

How much a call tells about its work (`verbose`, `quiet`) shows on standard error and nowhere else.
In what form it reports (as data, with colours, with how much context) shows on standard output and
nowhere else, unless standard output takes the report in one form and not in the other. Neither
touches the exit code, and the log that earlier calls left behind shows nowhere at all.
-/

namespace TemplateLint

/-! ### What a scan reads of its settings -/

/-- Settings with the same encoding under the same name. -/
structure Settings.SameEncoding (s s' : Settings) : Prop where
  encodingName_eq : s.encodingName = s'.encodingName
  encoding_eq : s.encoding = s'.encoding

/-- The text of a file depends on the encoding only. -/
theorem Settings.SameEncoding.readText_eq {s s' : Settings} (h : s.SameEncoding s') (path : Path)
    (content : Content) : readText s path content = readText s' path content := by
  cases content with
  | closed error => rfl
  | regular bytes => simp only [readText, h.encoding_eq, h.encodingName_eq]

/-- The result of scanning a file depends on the encoding only. -/
theorem Settings.SameEncoding.scanFile_eq {s s' : Settings} (h : s.SameEncoding s')
    (fs : FileSystem) (path : Path) : scanFile fs s path = scanFile fs s' path := by
  simp only [scanFile, h.readText_eq]

/-- The notes of scanning a file depend on the encoding and its name only. -/
theorem Settings.SameEncoding.scanNotes_eq {s s' : Settings} (h : s.SameEncoding s')
    (fs : FileSystem) (path : Path) : scanNotes fs s path = scanNotes fs s' path := by
  have hopening : openingNote s path = openingNote s' path := by
    unfold openingNote
    rw [h.encodingName_eq]
  unfold scanNotes
  cases openTarget fs path with
  | error failure => rfl
  | ok content => simp only [hopening, h.readText_eq]

namespace CommandLine

/-- A scanner to which the encoding is all that counts among the settings. -/
def Scanner.GoesByEncoding (scan : Scanner) : Prop :=
  ∀ s s' : Settings, s.SameEncoding s' → ∀ path, scan s path = scan s' path

/-- Scanning the files of a file system goes by the encoding. -/
theorem Scanner.goesByEncoding_ofFileSystem (fs : FileSystem) :
    (Scanner.ofFileSystem fs).GoesByEncoding := by
  intro s s' h path
  simp only [Scanner.ofFileSystem, h.scanNotes_eq, h.scanFile_eq]

/-- A scan that makes some notes and is then stopped, whatever it is asked for. -/
def Scanner.stopping (notes : List Text) (stop : Stop) : Scanner := fun _ _ => ⟨notes, .error stop⟩

/-- A scan that is stopped goes by nothing at all. -/
theorem Scanner.goesByEncoding_stopping (notes : List Text) (stop : Stop) :
    (Scanner.stopping notes stop).GoesByEncoding := fun _ _ _ _ => rfl

/-! ### What the form of a report has a say in -/

/-- A context width that the settings accept. -/
def IsAcceptedWidth (width : Int) : Prop := 10 ≤ width ∧ width ≤ 1000

/-- A call with another form of its report. -/
def Invocation.reporting (inv : Invocation) (json : Bool) (colour : Option Bool) (width : Int) :
    Invocation :=
  { inv with json := json, colour := colour, contextWidth := width }

/-- With accepted widths, the form of a report has no say in whether the options are accepted. -/
theorem accepts_reporting_iff {inv : Invocation} {encoding : Encoding} (json : Bool)
    (colour : Option Bool) {width : Int} (h : IsAcceptedWidth inv.contextWidth)
    (hwidth : IsAcceptedWidth width) :
    Accepts (inv.reporting json colour width) encoding ↔ Accepts inv encoding := by
  constructor
  · intro ha
    exact ⟨ha.name_ne_nil, ha.null_not_mem, ha.ofName, h.1, h.2⟩
  · intro ha
    exact ⟨ha.name_ne_nil, ha.null_not_mem, ha.ofName, hwidth.1, hwidth.2⟩

/-- With accepted widths, the settings of a call in another form have the same encoding. -/
theorem settingsOf_reporting {inv : Invocation} {settings : Settings} (json : Bool)
    (colour : Option Bool) {width : Int} (h : IsAcceptedWidth inv.contextWidth)
    (hwidth : IsAcceptedWidth width) (hsettings : settingsOf inv = .ok settings) :
    ∃ other, settingsOf (inv.reporting json colour width) = .ok other ∧
      other.SameEncoding settings := by
  obtain ⟨encoding, haccepts, rfl⟩ := settingsOf_eq_ok_iff.mp hsettings
  refine ⟨settingsIn (inv.reporting json colour width) encoding, ?_, ⟨rfl, rfl⟩⟩
  apply settingsOf_eq_ok_iff.mpr
  exact ⟨encoding, (accepts_reporting_iff json colour h hwidth).mpr haccepts, rfl⟩

/-- With accepted widths, a call that has no settings has none in another form. -/
theorem settingsOf_reporting_eq_error {inv : Invocation} {complaints : List Settings.Complaint}
    (json : Bool) (colour : Option Bool) {width : Int} (h : IsAcceptedWidth inv.contextWidth)
    (hwidth : IsAcceptedWidth width) (hcomplaints : settingsOf inv = .error complaints) :
    ∃ others, settingsOf (inv.reporting json colour width) = .error others := by
  cases hother : settingsOf (inv.reporting json colour width) with
  | error others => exact ⟨others, rfl⟩
  | ok settings =>
    obtain ⟨encoding, haccepts, -⟩ := settingsOf_eq_ok_iff.mp hother
    have haccepts' := (accepts_reporting_iff json colour h hwidth).mp haccepts
    rw [settingsOf_eq_ok_iff.mpr ⟨encoding, haccepts', rfl⟩] at hcomplaints
    cases hcomplaints

/-- Whatever result the scan of a call gives, its report can be made and the device shows it. -/
def Reportable (device : Device) (scan : Scanner) (inv : Invocation) : Prop :=
  ∀ file settings r, inv.paths = [file] → settingsOf inv = .ok settings →
    (scan settings (Path.ofText file)).outcome = .ok r → CanReport device inv settings file r

/-- A call with a result is reportable exactly if the report of this result can be written. -/
theorem reportable_iff {device : Device} {scan : Scanner} {inv : Invocation} {file : Text}
    {settings : Settings} {r : ScanResult} (hfile : inv.paths = [file])
    (hsettings : settingsOf inv = .ok settings)
    (hr : (scan settings (Path.ofText file)).outcome = .ok r) :
    Reportable device scan inv ↔ CanReport device inv settings file r := by
  constructor
  · intro h
    exact h file settings r hfile hsettings hr
  · intro h file' settings' r' hfile' hsettings' hr'
    obtain rfl := List.singleton_inj.mp (hfile.symm.trans hfile')
    obtain rfl := Except.ok.inj (hsettings.symm.trans hsettings')
    obtain rfl := Except.ok.inj (hr.symm.trans hr')
    exact h

/-- With a result, a call has the exit code of the result and the records of its scan if the report
can be written, and else those of an unexpected error. -/
theorem perform_of_canReport (device : Device) (terminal : Bool) {scan : Scanner}
    {inv : Invocation} {file : Text} {settings : Settings} {r : ScanResult}
    (hfile : inv.paths = [file]) (hsettings : settingsOf inv = .ok settings)
    (hr : (scan settings (Path.ofText file)).outcome = .ok r) :
    let notes := (scan settings (Path.ofText file)).notes.map noteRecord
    (CanReport device inv settings file r →
      (perform device terminal scan inv).exitCode = r.exitCode ∧
        (perform device terminal scan inv).records = notes) ∧
    (¬ CanReport device inv settings file r →
      (perform device terminal scan inv).exitCode = 1 ∧
        (perform device terminal scan inv).records = notes ++ [surpriseRecord]) := by
  constructor
  · rintro ⟨document, hdocument⟩
    rw [perform_of_report device terminal hfile hsettings hr (tryReport_eq_ok_iff.mpr hdocument)]
    exact ⟨rfl, rfl⟩
  · intro hnot
    cases hreport : tryReport device terminal inv settings file r with
    | ok document => exact absurd ⟨document, tryReport_eq_ok_iff.mp hreport⟩ hnot
    | error complaint =>
      rw [perform_of_failed_report device terminal hfile hsettings hr hreport]
      exact ⟨rfl, rfl⟩

/-- Two calls whose scans make the same attempt and give a result have the same exit code and the
same records if the reports of both or of none can be written. -/
theorem perform_agree {device : Device} {terminal : Bool} {scan : Scanner} {inv inv' : Invocation}
    {file file' : Text} {settings settings' : Settings} {r : ScanResult}
    (hfile : inv.paths = [file]) (hfile' : inv'.paths = [file'])
    (hsettings : settingsOf inv = .ok settings) (hsettings' : settingsOf inv' = .ok settings')
    (hattempt : scan settings' (Path.ofText file') = scan settings (Path.ofText file))
    (hr : (scan settings (Path.ofText file)).outcome = .ok r)
    (hcan : CanReport device inv' settings' file' r ↔ CanReport device inv settings file r) :
    (perform device terminal scan inv').exitCode = (perform device terminal scan inv).exitCode ∧
      (perform device terminal scan inv').records =
        (perform device terminal scan inv).records := by
  have hr' := (congrArg Attempt.outcome hattempt).trans hr
  obtain ⟨hwritten, hfailed⟩ := perform_of_canReport device terminal hfile hsettings hr
  obtain ⟨hwritten', hfailed'⟩ := perform_of_canReport device terminal hfile' hsettings' hr'
  rw [hattempt] at hwritten' hfailed'
  by_cases hreport : CanReport device inv settings file r
  · obtain ⟨hcode, hrecords⟩ := hwritten hreport
    obtain ⟨hcode', hrecords'⟩ := hwritten' (hcan.mpr hreport)
    exact ⟨hcode'.trans hcode.symm, hrecords'.trans hrecords.symm⟩
  · obtain ⟨hcode, hrecords⟩ := hfailed hreport
    obtain ⟨hcode', hrecords'⟩ := hfailed' (mt hcan.mp hreport)
    exact ⟨hcode'.trans hcode.symm, hrecords'.trans hrecords.symm⟩

/-- A call leads to the same exit code and the same records in whatever form it reports, as long as
its scanner goes by the encoding and both reports or none can be written. -/
theorem perform_reporting {device : Device} {scan : Scanner} (hscan : scan.GoesByEncoding)
    (terminal : Bool) {inv : Invocation} (json : Bool) (colour : Option Bool) {width : Int}
    (h : IsAcceptedWidth inv.contextWidth) (hwidth : IsAcceptedWidth width)
    (hreport : Reportable device scan (inv.reporting json colour width) ↔
      Reportable device scan inv) :
    let other := perform device terminal scan (inv.reporting json colour width)
    other.exitCode = (perform device terminal scan inv).exitCode ∧
      other.records = (perform device terminal scan inv).records := by
  intro other
  have hpaths : (inv.reporting json colour width).paths = inv.paths := rfl
  by_cases hlength : inv.paths.length = 1
  · obtain ⟨file, hfile⟩ := List.length_eq_one_iff.mp hlength
    have hfile' := hpaths.trans hfile
    cases hsettings : settingsOf inv with
    | error complaints =>
      obtain ⟨others, hothers⟩ := settingsOf_reporting_eq_error json colour h hwidth hsettings
      rw [show other = _ from perform_of_complaints device terminal scan hfile' hothers,
        perform_of_complaints device terminal scan hfile hsettings]
      exact ⟨rfl, rfl⟩
    | ok settings =>
      obtain ⟨settings', hsettings', hsame⟩ := settingsOf_reporting json colour h hwidth hsettings
      -- The settings differ in the width, so it is here that the scanner must not look at it.
      have hattempt := hscan settings' settings hsame (Path.ofText file)
      cases houtcome : (scan settings (Path.ofText file)).outcome with
      | error stop =>
        rw [show other = _ from
            perform_of_stop device terminal hfile' hsettings' (hattempt ▸ houtcome),
          perform_of_stop device terminal hfile hsettings houtcome, hattempt]
        exact ⟨rfl, rfl⟩
      | ok r =>
        have houtcome' := (congrArg Attempt.outcome hattempt).trans houtcome
        rw [reportable_iff hfile' hsettings' houtcome',
          reportable_iff hfile hsettings houtcome] at hreport
        exact perform_agree hfile hfile' hsettings hsettings' hattempt houtcome hreport
  · rw [show other = _ from perform_of_length_ne device terminal scan (hpaths ▸ hlength),
      perform_of_length_ne device terminal scan hlength]
    exact ⟨rfl, rfl⟩

/-! ### The streams of a call -/

/-- The log of a call from its configuration on, for the records that the call makes. -/
def logOf (inv : Invocation) (records : List Record) : Log Stream :=
  (({} : Log Stream).configure inv.verbose inv.quiet .standardError).applyAll
    (some .standardError) (records.map Record.event)

/-- Whatever log a call finds, it leaves the log of its own records and writes nothing else to
standard error. -/
theorem runInvocation_eq (device : Device) (scan : Scanner) (terminal : Bool) (inv : Invocation)
    (log : Log Stream) :
    let performance := perform device terminal scan inv
    runInvocation device scan terminal inv log =
      (.saying device performance.exitCode (present inv terminal performance.document)
        ((logOf inv performance.records).textOf .standardError),
        logOf inv performance.records) := rfl

/-- Standard error has the records of a call, be it that the run breaks down. -/
theorem runInvocation_standardError (device : Device) (scan : Scanner) (terminal : Bool)
    (inv : Invocation) (log : Log Stream) :
    (runInvocation device scan terminal inv log).1.standardError =
      (logOf inv (perform device terminal scan inv).records).textOf .standardError := by
  rw [runInvocation_eq, standardError_saying]

/-- On streams that are not new, the records of a call come behind what stands there. -/
theorem textOf_configure_applyAll (earlier : Log Stream) (inv : Invocation)
    (records : List Record) (stream : Stream) :
    ((earlier.configure inv.verbose inv.quiet .standardError).applyAll (some .standardError)
        (records.map Record.event)).textOf stream =
      earlier.textOf stream ++ (logOf inv records).textOf stream := by
  have hbehind := Log.applyAll_configure (some .standardError) earlier inv.verbose inv.quiet
    .standardError (records.map Record.event)
  rw [← Log.textOf_behind]
  exact congrArg (Log.textOf · stream) hbehind

/-- How much a call tells is no part of what it leads to. -/
theorem perform_telling (device : Device) (terminal : Bool) (scan : Scanner) (inv : Invocation)
    (verbose quiet : Bool) :
    perform device terminal scan { inv with verbose := verbose, quiet := quiet } =
      perform device terminal scan inv := rfl

/-- Two calls that differ in how much they tell have the same exit code and the same standard
output. Two that differ in the form of their report, the context widths being accepted, have the
same exit code and the same standard error, be it that they scan the files of a file system or that
their scan is stopped; the device has to take the reports of both or of none. What a log holds from
earlier calls has no effect on either of the streams, on the exit code, or on the log that is left;
and where standard error is not a new stream, the call adds to it what it would write to a new
one. -/
theorem runInvocation_noninterference (device : Device) (scan : Scanner) (terminal : Bool)
    (inv : Invocation) (log : Log Stream) :
    let outcome := (runInvocation device scan terminal inv log).1
    (∀ verbose quiet,
      let other := (runInvocation device scan terminal
        { inv with verbose := verbose, quiet := quiet } log).1
      other.exitCode = outcome.exitCode ∧ other.standardOutput = outcome.standardOutput) ∧
    (scan.GoesByEncoding → IsAcceptedWidth inv.contextWidth →
      ∀ json colour width, IsAcceptedWidth width →
      let inv' : Invocation := { inv with json := json, colour := colour, contextWidth := width }
      (Reportable device scan inv' ↔ Reportable device scan inv) →
      let other := (runInvocation device scan terminal inv' log).1
      other.exitCode = outcome.exitCode ∧ other.standardError = outcome.standardError) ∧
    (∀ fs, (Scanner.ofFileSystem fs).GoesByEncoding) ∧
    (∀ notes stop, (Scanner.stopping notes stop).GoesByEncoding) ∧
    (∀ earlier,
      runInvocation device scan terminal inv earlier =
        runInvocation device scan terminal inv log) ∧
    (∀ earlier : Log Stream,
      ((earlier.configure inv.verbose inv.quiet .standardError).applyAll (some .standardError)
          ((perform device terminal scan inv).records.map Record.event)).textOf .standardError =
        earlier.textOf .standardError ++ outcome.standardError) := by
  intro outcome
  have herror : outcome.standardError =
      (logOf inv (perform device terminal scan inv).records).textOf .standardError :=
    runInvocation_standardError device scan terminal inv log
  refine ⟨?_, ?_, Scanner.goesByEncoding_ofFileSystem, Scanner.goesByEncoding_stopping, ?_, ?_⟩
  · intro verbose quiet other
    have hsame := perform_telling device terminal scan inv verbose quiet
    constructor
    · calc other.exitCode
          = (perform device terminal scan
              { inv with verbose := verbose, quiet := quiet }).exitCode :=
            runInvocation_exitCode log
        _ = (perform device terminal scan inv).exitCode := congrArg Performance.exitCode hsame
        _ = outcome.exitCode := (runInvocation_exitCode log).symm
    · calc other.standardOutput
          = device.shown (present inv terminal (perform device terminal scan
              { inv with verbose := verbose, quiet := quiet }).document) :=
            runInvocation_standardOutput log
        _ = device.shown (present inv terminal (perform device terminal scan inv).document) := by
            rw [hsame]
        _ = outcome.standardOutput := (runInvocation_standardOutput log).symm
  · intro hscan h json colour width hwidth inv' hreport other
    obtain ⟨hcode, hrecords⟩ := perform_reporting hscan terminal json colour h hwidth hreport
    constructor
    · calc other.exitCode
          = (perform device terminal scan inv').exitCode := runInvocation_exitCode log
        _ = (perform device terminal scan inv).exitCode := hcode
        _ = outcome.exitCode := (runInvocation_exitCode log).symm
    · calc other.standardError
          = (logOf inv (perform device terminal scan inv').records).textOf .standardError :=
            runInvocation_standardError device scan terminal inv' log
        _ = (logOf inv (perform device terminal scan inv).records).textOf .standardError := by
            rw [← hrecords]
            rfl
        _ = outcome.standardError := herror.symm
  · intro earlier
    rw [runInvocation_eq, runInvocation_eq]
  · intro earlier
    rw [herror]
    exact textOf_configure_applyAll earlier inv _ .standardError

/-- A verbose call tells the same about a file with a violation whether it reports in detail, as the
terminal likes it, or as data, in colours and with little context. -/
theorem runInvocation_noninterference_as_data :
    let scan := Scanner.ofFileSystem fun _ => .present
      (.regular [0x5B, 0x27, 0x61, 0x42, 0x27, 0x5D]) true
    let inv : Invocation := { paths := ["a.erb".toList], verbose := true }
    let other : Invocation := { inv with json := true, colour := some true, contextWidth := 10 }
    IsAcceptedWidth inv.contextWidth ∧ IsAcceptedWidth 10 ∧
    Reportable .utf8 scan inv ∧ Reportable .utf8 scan other ∧
    (runInvocation .utf8 scan true other {}).1.exitCode =
      (runInvocation .utf8 scan true inv {}).1.exitCode ∧
    (runInvocation .utf8 scan true other {}).1.standardError =
      (runInvocation .utf8 scan true inv {}).1.standardError := by
  intro scan inv other
  have hwidth : IsAcceptedWidth inv.contextWidth := ⟨by decide, by decide⟩
  have hother : IsAcceptedWidth 10 := ⟨by decide, by decide⟩
  let r : ScanResult := ⟨1, [⟨1, "aB".toList, "a_b".toList, "['aB']".toList⟩]⟩
  have hwritable : r.IsWritable := ⟨by decide, by decide, by decide⟩
  have hreport : Reportable .utf8 scan inv :=
    (reportable_iff rfl rfl (by decide +kernel)).mpr (canReport_utf8 hwritable)
  have hreport' : Reportable .utf8 scan other :=
    (reportable_iff rfl rfl (by decide +kernel)).mpr (canReport_utf8 hwritable)
  obtain ⟨-, hform, hfiles, -⟩ := runInvocation_noninterference .utf8 scan true inv {}
  obtain ⟨hcode, herror⟩ := hform (hfiles _) hwidth true (some true) 10 hother
    (iff_of_true hreport' hreport)
  exact ⟨hwidth, hother, hreport, hreport', hcode, herror⟩

end CommandLine

end TemplateLint
