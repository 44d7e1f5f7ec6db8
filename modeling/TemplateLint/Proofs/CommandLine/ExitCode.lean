import TemplateLint.Proofs.CommandLine.Report
import TemplateLint.Proofs.Settings.Build

/-!
# The exit code of a call

A call scans a file exactly when it names one path and its options are accepted (`Scans`). Its exit
code is zero exactly when it does scan a file, the scan comes to an end without a violation and its
report can be written, and 130 exactly when the scan is interrupted; whatever else happens, it is
one. A call that scans nothing looks at no file.
-/

namespace TemplateLint.CommandLine

/-! ### What a call scans -/

/-- The options of a call are accepted, and its encoding has a name for this one. -/
structure Accepts (inv : Invocation) (encoding : Encoding) : Prop where
  name_ne_nil : inv.encoding ≠ []
  null_not_mem : '\x00' ∉ inv.encoding
  ofName : Encoding.ofName? inv.encoding = some encoding
  least_le : 10 ≤ inv.contextWidth
  le_greatest : inv.contextWidth ≤ 1000

/-- The settings of a call whose options are accepted. -/
def settingsIn (inv : Invocation) (encoding : Encoding) : Settings where
  encodingName := inv.encoding
  encoding := encoding
  contextWidth := inv.contextWidth

/-- The settings under which a call scans a file, and the path of the file. -/
def Scans (inv : Invocation) (settings : Settings) (path : Path) : Prop :=
  ∃ file encoding, inv.paths = [file] ∧ Accepts inv encoding ∧
    settings = settingsIn inv encoding ∧ path = Path.ofText file

/-- A call has settings exactly when its options are accepted. -/
theorem settingsOf_eq_ok_iff {inv : Invocation} {settings : Settings} :
    settingsOf inv = .ok settings ↔
      ∃ encoding, Accepts inv encoding ∧ settings = settingsIn inv encoding := by
  rw [settingsOf, Settings.build_eq_ok_iff]
  constructor
  · intro h
    obtain ⟨name, encoding, width, tips⟩ := settings
    obtain rfl : inv.encoding = name := Json.Value.text.inj h.encoding_eq
    obtain rfl : inv.contextWidth = width := Except.ok.inj h.width_eq
    obtain rfl : ({} : Settings).tips = tips := Settings.list_text_injective h.tips_eq
    exact ⟨encoding, ⟨h.name_ne_nil, h.null_not_mem, h.ofName, h.least_le, h.le_greatest⟩, rfl⟩
  · rintro ⟨encoding, h, rfl⟩
    exact ⟨rfl, h.name_ne_nil, h.null_not_mem, h.ofName, rfl, h.least_le, h.le_greatest, rfl⟩

/-- A call that names one path scans it under the settings that it has. -/
theorem scans_iff {inv : Invocation} {settings : Settings} {path : Path} :
    Scans inv settings path ↔
      ∃ file, inv.paths = [file] ∧ settingsOf inv = .ok settings ∧ path = Path.ofText file := by
  simp only [settingsOf_eq_ok_iff]
  constructor
  · rintro ⟨file, encoding, hfile, haccepts, hsettings, hpath⟩
    exact ⟨file, hfile, ⟨encoding, haccepts, hsettings⟩, hpath⟩
  · rintro ⟨file, hfile, ⟨encoding, haccepts, hsettings⟩, hpath⟩
    exact ⟨file, encoding, hfile, haccepts, hsettings, hpath⟩

/-! ### What a call leads to -/

section
variable (device : Device) (terminal : Bool) (scan : Scanner) (inv : Invocation)

/-- What a call can lead to, and when. -/
inductive Leads : Performance → Prop
  | misused (hlength : inv.paths.length ≠ 1) : Leads ⟨1, usage programName, []⟩
  | rejected {file : Text} {complaints : List Settings.Complaint} (hfile : inv.paths = [file])
      (hsettings : settingsOf inv = .error complaints) :
      Leads ⟨1, errorDocument ("Invalid option: ".toList ++ Settings.complaintsMessage complaints),
        []⟩
  | stopped {file : Text} {settings : Settings} {stop : Stop} (hfile : inv.paths = [file])
      (hsettings : settingsOf inv = .ok settings)
      (hstop : (scan settings (Path.ofText file)).outcome = .error stop) :
      Leads (performStop ((scan settings (Path.ofText file)).notes.map noteRecord) stop)
  | reported {file : Text} {settings : Settings} {r : ScanResult} {document : Document}
      (hfile : inv.paths = [file]) (hsettings : settingsOf inv = .ok settings)
      (hr : (scan settings (Path.ofText file)).outcome = .ok r)
      (hreport : tryReport device terminal inv settings file r = .ok document) :
      Leads ⟨r.exitCode, document, (scan settings (Path.ofText file)).notes.map noteRecord⟩
  | unreported {file : Text} {settings : Settings} {r : ScanResult} {complaint : Text}
      (hfile : inv.paths = [file]) (hsettings : settingsOf inv = .ok settings)
      (hr : (scan settings (Path.ofText file)).outcome = .ok r)
      (hreport : tryReport device terminal inv settings file r = .error complaint) :
      Leads (surprise ((scan settings (Path.ofText file)).notes.map noteRecord) complaint)

/-- With no path or with several, a call shows how the program is used. -/
theorem perform_of_length_ne {inv : Invocation} (h : inv.paths.length ≠ 1) :
    perform device terminal scan inv = ⟨1, usage programName, []⟩ := by
  have hpath : singlePath inv.paths = .error inv.paths.length := by
    cases hpaths : inv.paths with
    | nil => rfl
    | cons file rest =>
      cases rest with
      | nil =>
        rw [hpaths] at h
        exact absurd rfl h
      | cons other rest => rfl
  rw [perform, hpath]

/-- With one path and options that are not accepted, a call shows what is wrong with them. -/
theorem perform_of_complaints {inv : Invocation} {file : Text}
    {complaints : List Settings.Complaint} (hfile : inv.paths = [file])
    (h : settingsOf inv = .error complaints) :
    perform device terminal scan inv =
      ⟨1, errorDocument ("Invalid option: ".toList ++ Settings.complaintsMessage complaints),
        []⟩ := by
  rw [perform, hfile, singlePath, h]

section
variable {scan} {inv} {file : Text} {settings : Settings} (hfile : inv.paths = [file])
  (hsettings : settingsOf inv = .ok settings)

include hfile hsettings

/-- A call whose scan gives no result does what the reason asks for. -/
theorem perform_of_stop {stop : Stop}
    (hstop : (scan settings (Path.ofText file)).outcome = .error stop) :
    perform device terminal scan inv =
      performStop ((scan settings (Path.ofText file)).notes.map noteRecord) stop := by
  simp only [perform, hfile, singlePath, hsettings, hstop]

variable {r : ScanResult} (hr : (scan settings (Path.ofText file)).outcome = .ok r)

include hr

/-- A call whose scan gives a result reports it. -/
theorem perform_of_report {document : Document}
    (hreport : tryReport device terminal inv settings file r = .ok document) :
    perform device terminal scan inv =
      ⟨r.exitCode, document, (scan settings (Path.ofText file)).notes.map noteRecord⟩ := by
  simp only [perform, hfile, singlePath, hsettings, hr, hreport]

/-- A report that fails is an unexpected error of the call. -/
theorem perform_of_failed_report {complaint : Text}
    (hreport : tryReport device terminal inv settings file r = .error complaint) :
    perform device terminal scan inv =
      surprise ((scan settings (Path.ofText file)).notes.map noteRecord) complaint := by
  simp only [perform, hfile, singlePath, hsettings, hr, hreport]

end

/-- These are the cases of a call. -/
theorem leads_perform : Leads device terminal scan inv (perform device terminal scan inv) := by
  by_cases hlength : inv.paths.length = 1
  · obtain ⟨file, hfile⟩ := List.length_eq_one_iff.mp hlength
    cases hsettings : settingsOf inv with
    | error complaints =>
      rw [perform_of_complaints device terminal scan hfile hsettings]
      exact .rejected hfile hsettings
    | ok settings =>
      cases houtcome : (scan settings (Path.ofText file)).outcome with
      | error stop =>
        rw [perform_of_stop device terminal hfile hsettings houtcome]
        exact .stopped hfile hsettings houtcome
      | ok r =>
        cases hreport : tryReport device terminal inv settings file r with
        | error complaint =>
          rw [perform_of_failed_report device terminal hfile hsettings houtcome hreport]
          exact .unreported hfile hsettings houtcome hreport
        | ok document =>
          rw [perform_of_report device terminal hfile hsettings houtcome hreport]
          exact .reported hfile hsettings houtcome hreport
  · rw [perform_of_length_ne device terminal scan hlength]
    exact .misused hlength

end

/-- Two calls lead to the same if they have the same paths and settings and report the same. -/
theorem perform_congr {device device' : Device} {terminal terminal' : Bool} {scan : Scanner}
    {inv inv' : Invocation} (hpaths : inv'.paths = inv.paths)
    (hsettings : settingsOf inv' = settingsOf inv)
    (hreport : ∀ file settings r, inv.paths = [file] → settingsOf inv = .ok settings →
      (scan settings (Path.ofText file)).outcome = .ok r →
      tryReport device' terminal' inv' settings file r =
        tryReport device terminal inv settings file r) :
    perform device' terminal' scan inv' = perform device terminal scan inv := by
  have hleads := leads_perform device terminal scan inv
  generalize hp : perform device terminal scan inv = p at hleads ⊢
  cases hleads with
  | misused hlength => exact perform_of_length_ne _ _ _ (hpaths ▸ hlength)
  | rejected hfile hrejected =>
    exact perform_of_complaints _ _ _ (hpaths.trans hfile) (hsettings.trans hrejected)
  | stopped hfile haccepted hstop =>
    exact perform_of_stop _ _ (hpaths.trans hfile) (hsettings.trans haccepted) hstop
  | reported hfile haccepted hr hok =>
    exact perform_of_report _ _ (hpaths.trans hfile) (hsettings.trans haccepted) hr
      ((hreport _ _ _ hfile haccepted hr).trans hok)
  | unreported hfile haccepted hr herror =>
    exact perform_of_failed_report _ _ (hpaths.trans hfile) (hsettings.trans haccepted) hr
      ((hreport _ _ _ hfile haccepted hr).trans herror)

/-- The device takes whatever report a call makes. -/
def Fits (device : Device) (scan : Scanner) (inv : Invocation) : Prop :=
  ∀ file settings r document, inv.paths = [file] → settingsOf inv = .ok settings →
    (scan settings (Path.ofText file)).outcome = .ok r →
    report inv settings file r = .ok document → device.CanShow document

/-- An interruption has an exit code of its own, and any other stop has that of a failure. -/
theorem exitCode_performStop (records : List Record) (stop : Stop) :
    (performStop records stop).exitCode = if stop = .interrupted then 130 else 1 := by
  cases stop with
  | failed failure =>
    rw [performStop]
    split <;> rfl
  | reported message => rfl
  | unexpected message => rfl
  | interrupted => rfl

/-- The exit code of a result is zero exactly without violations. -/
theorem exitCode_scanResult (r : ScanResult) :
    r.exitCode = if r.violations = [] then 0 else 1 := by
  cases hr : r.violations with
  | nil => simp [ScanResult.exitCode, ScanResult.hasViolations, hr]
  | cons v rest => simp [ScanResult.exitCode, ScanResult.hasViolations, hr]

/-- A call that scans nothing fails without a record, whatever scanner and output there are. -/
theorem perform_of_not_scans {inv : Invocation} (h : ¬ ∃ settings path, Scans inv settings path)
    (device : Device) (terminal : Bool) (scan : Scanner) :
    (perform device terminal scan inv).exitCode = 1 ∧
      (perform device terminal scan inv).records = [] ∧
      ∀ device' terminal' scan',
        perform device' terminal' scan' inv = perform device terminal scan inv := by
  by_cases hlength : inv.paths.length = 1
  · obtain ⟨file, hfile⟩ := List.length_eq_one_iff.mp hlength
    cases hsettings : settingsOf inv with
    | error complaints =>
      simp only [perform_of_complaints _ _ _ hfile hsettings, implies_true, and_self]
    | ok settings =>
      exact absurd ⟨settings, _, scans_iff.mpr ⟨file, hfile, hsettings, rfl⟩⟩ h
  · simp only [perform_of_length_ne _ _ _ hlength, implies_true, and_self]

/-- The scanner of a file system gives the results of scanning its files. -/
theorem Scanner.ofFileSystem_outcome_eq_ok_iff {fs : FileSystem} {settings : Settings} {path : Path}
    {r : ScanResult} :
    (Scanner.ofFileSystem fs settings path).outcome = .ok r ↔
      scanFile fs settings path = .ok r := by
  rw [Scanner.ofFileSystem]
  cases scanFile fs settings path with
  | error failure => simp [Except.mapError]
  | ok found => simp [Except.mapError]

/-! ### The exit code -/

section
variable {device : Device} {terminal : Bool} {scan : Scanner} {inv : Invocation}

/-- A result without violations can be reported by a call: its number of lines is short enough to be
written and, unless the call asks for data, the device takes the name of the file. -/
def CanReportClean (device : Device) (inv : Invocation) (r : ScanResult) : Prop :=
  Text.isShort r.lines = true ∧ (inv.json = true ∨ ∀ file ∈ inv.paths, device.Takes file)

/-- For a call with one path this is to say that the report can be written. -/
theorem canReportClean_iff (settings : Settings) {file : Text} {r : ScanResult}
    (hfile : inv.paths = [file]) (h : r.violations = []) :
    CanReportClean device inv r ↔ CanReport device inv settings file r := by
  rw [canReport_of_clean_iff h, CanReportClean, hfile, List.forall_mem_singleton]

/-- The exit code is zero exactly if a scan ends without a violation and can be reported. -/
theorem exitCode_perform_eq_zero_iff :
    (perform device terminal scan inv).exitCode = 0 ↔ ∃ settings path r, Scans inv settings path ∧
      (scan settings path).outcome = .ok r ∧ r.violations = [] ∧ CanReportClean device inv r := by
  constructor
  · intro hcode
    have hleads := leads_perform device terminal scan inv
    generalize perform device terminal scan inv = p at hcode hleads
    cases hleads with
    | misused hlength => cases hcode
    | rejected hfile hsettings => cases hcode
    | @stopped file settings stop hfile hsettings hstop =>
      rw [exitCode_performStop] at hcode
      split at hcode
      · cases hcode
      · cases hcode
    | @reported file settings r document hfile hsettings hr hreport =>
      have hnone : r.violations = [] := by
        apply Classical.byContradiction
        intro hviolations
        simp only [exitCode_scanResult, if_neg hviolations] at hcode
        cases hcode
      refine ⟨settings, _, r, scans_iff.mpr ⟨file, hfile, hsettings, rfl⟩, hr, hnone, ?_⟩
      exact (canReportClean_iff settings hfile hnone).mpr ⟨document, tryReport_eq_ok_iff.mp hreport⟩
    | unreported hfile hsettings hr hreport => cases hcode
  · rintro ⟨settings, path, r, hscans, hr, hnone, hclean⟩
    obtain ⟨file, hfile, hsettings, rfl⟩ := scans_iff.mp hscans
    obtain ⟨document, hreport⟩ := (canReportClean_iff settings hfile hnone).mp hclean
    rw [perform_of_report device terminal hfile hsettings hr (tryReport_eq_ok_iff.mpr hreport)]
    simp only [exitCode_scanResult, if_pos hnone]

/-- The exit code is 130 exactly if a scan is interrupted. -/
theorem exitCode_perform_eq_interrupted_iff :
    (perform device terminal scan inv).exitCode = 130 ↔ ∃ settings path, Scans inv settings path ∧
      (scan settings path).outcome = .error .interrupted := by
  constructor
  · intro hcode
    have hleads := leads_perform device terminal scan inv
    generalize perform device terminal scan inv = p at hcode hleads
    cases hleads with
    | misused hlength => cases hcode
    | rejected hfile hsettings => cases hcode
    | @stopped file settings stop hfile hsettings hstop =>
      rw [exitCode_performStop] at hcode
      split at hcode
      · next hinterrupted =>
        exact ⟨settings, _, scans_iff.mpr ⟨file, hfile, hsettings, rfl⟩, hinterrupted ▸ hstop⟩
      · cases hcode
    | @reported file settings r document hfile hsettings hr hreport =>
      simp only [exitCode_scanResult] at hcode
      split at hcode
      · cases hcode
      · cases hcode
    | unreported hfile hsettings hr hreport => cases hcode
  · rintro ⟨settings, path, hscans, hstop⟩
    obtain ⟨file, hfile, hsettings, rfl⟩ := scans_iff.mp hscans
    rw [perform_of_stop device terminal hfile hsettings hstop, exitCode_performStop, if_pos rfl]

/-- There are three exit codes. -/
theorem exitCode_perform_cases :
    (perform device terminal scan inv).exitCode = 0 ∨
      (perform device terminal scan inv).exitCode = 130 ∨
      (perform device terminal scan inv).exitCode = 1 := by
  have hleads := leads_perform device terminal scan inv
  generalize perform device terminal scan inv = p at hleads ⊢
  cases hleads with
  | misused hlength => exact .inr (.inr rfl)
  | rejected hfile hsettings => exact .inr (.inr rfl)
  | stopped hfile hsettings hstop =>
    rw [exitCode_performStop]
    split
    · exact .inr (.inl rfl)
    · exact .inr (.inr rfl)
  | reported hfile hsettings hr hreport =>
    simp only [exitCode_scanResult]
    split
    · exact .inl rfl
    · exact .inr (.inr rfl)
  | unreported hfile hsettings hr hreport => exact .inr (.inr rfl)

/-- A document that a call shows with another exit code than that of a failure is taken by the
device. -/
theorem canShow_document_of_exitCode_ne (h : (perform device terminal scan inv).exitCode ≠ 1) :
    device.CanShow (perform device terminal scan inv).document := by
  have hleads := leads_perform device terminal scan inv
  generalize perform device terminal scan inv = p at h hleads ⊢
  cases hleads with
  | misused hlength => exact absurd rfl h
  | rejected hfile hsettings => exact absurd rfl h
  | stopped hfile hsettings hstop =>
    rw [exitCode_performStop] at h
    split at h
    · next hinterrupted =>
      rw [hinterrupted]
      exact canShow_interruption device
    · exact absurd rfl h
  | reported hfile hsettings hr hreport => exact (tryReport_eq_ok_iff.mp hreport).2
  | unreported hfile hsettings hr hreport => exact absurd rfl h

/-- What a call leads to decides the exit code of its run, be it that the run breaks down. -/
theorem runInvocation_exitCode (log : Log Stream) :
    (runInvocation device scan terminal inv log).1.exitCode =
      (perform device terminal scan inv).exitCode := by
  simp only [runInvocation]
  by_cases htakes : device.Takes (present inv terminal (perform device terminal scan inv).document)
  · rw [saying_of_takes _ _ _ htakes]
  · rw [saying_of_not_takes _ _ _ htakes]
    apply Classical.byContradiction
    intro hcode
    exact htakes (device.takes_present_iff.mpr (canShow_document_of_exitCode_ne (Ne.symm hcode)))

/-- A run has on standard output what the device shows of the document of its call. -/
theorem runInvocation_standardOutput (log : Log Stream) :
    (runInvocation device scan terminal inv log).1.standardOutput =
      device.shown (present inv terminal (perform device terminal scan inv).document) := by
  rw [runInvocation, standardOutput_saying]

end

/-- The exit code of a call is zero exactly when it scans a file without a violation and can report
that, 130 exactly when the scan is interrupted, and otherwise one. A call that scans nothing has the
same exit code and the same output whatever files there are: how the program is used if there is not
one path, whatever the options, and else what is wrong with the options. -/
theorem exitCode_runInvocation (device : Device) (scan : Scanner) (terminal : Bool)
    (inv : Invocation) (log : Log Stream) :
    let outcome := (runInvocation device scan terminal inv log).1
    (outcome.exitCode = 0 ↔ ∃ settings path r, Scans inv settings path ∧
      (scan settings path).outcome = .ok r ∧ r.violations = [] ∧ CanReportClean device inv r) ∧
    (outcome.exitCode = 130 ↔ ∃ settings path, Scans inv settings path ∧
      (scan settings path).outcome = .error .interrupted) ∧
    (outcome.exitCode = 0 ∨ outcome.exitCode = 130 ∨ outcome.exitCode = 1) ∧
    (∀ fs, (runInvocation device (.ofFileSystem fs) terminal inv log).1.exitCode = 0 ↔
      ∃ settings path r, Scans inv settings path ∧ scanFile fs settings path = .ok r ∧
        r.violations = [] ∧ CanReportClean device inv r) ∧
    ((¬ ∃ settings path, Scans inv settings path) → ∀ other otherLog,
      (runInvocation device other terminal inv otherLog).1.exitCode = outcome.exitCode ∧
      (runInvocation device other terminal inv otherLog).1.standardOutput =
        outcome.standardOutput) ∧
    (inv.paths.length ≠ 1 →
      outcome.standardOutput = present inv terminal (usage programName)) ∧
    (inv.paths.length = 1 → (¬ ∃ encoding, Accepts inv encoding) → ∃ message,
      outcome.standardOutput = device.shown
        (present inv terminal (errorDocument ("Invalid option: ".toList ++ message)))) := by
  simp only [runInvocation_exitCode, runInvocation_standardOutput]
  refine ⟨exitCode_perform_eq_zero_iff, exitCode_perform_eq_interrupted_iff,
    exitCode_perform_cases, ?_, ?_, ?_, ?_⟩
  · intro fs
    simp only [← Scanner.ofFileSystem_outcome_eq_ok_iff]
    exact exitCode_perform_eq_zero_iff
  · intro hnot other otherLog
    rw [(perform_of_not_scans hnot device terminal scan).2.2 device terminal other]
    exact ⟨rfl, rfl⟩
  · intro hlength
    rw [perform_of_length_ne device terminal scan hlength]
    exact device.shown_of_takes (device.takes_present_iff.mpr (canShow_usage device))
  · intro hlength haccepts
    obtain ⟨file, hfile⟩ := List.length_eq_one_iff.mp hlength
    cases hsettings : settingsOf inv with
    | error complaints =>
      refine ⟨Settings.complaintsMessage complaints, ?_⟩
      rw [perform_of_complaints device terminal scan hfile hsettings]
    | ok settings =>
      obtain ⟨encoding, h, -⟩ := settingsOf_eq_ok_iff.mp hsettings
      exact absurd ⟨encoding, h⟩ haccepts

private theorem not_accepts_unknown {paths : List Text} :
    ¬ ∃ encoding, Accepts { paths := paths, encoding := "x".toList } encoding := by
  rintro ⟨encoding, h⟩
  have hname := h.ofName
  have hnone : Encoding.ofName? "x".toList = none := by decide
  rw [hnone] at hname
  cases hname

/-- An encoding of no known name is what is wrong with a call only if the call has one path. -/
theorem exitCode_runInvocation_unknown_encoding :
    let two : Invocation := { paths := ["a.erb".toList, "b.erb".toList], encoding := "x".toList }
    let one : Invocation := { paths := ["a.erb".toList], encoding := "x".toList }
    (runInvocation .utf8 (.ofFileSystem fun _ => .missing) false two {}).1.standardOutput =
      present two false (usage programName) ∧
    (∃ message,
      (runInvocation .utf8 (.ofFileSystem fun _ => .missing) false one {}).1.standardOutput =
        Device.utf8.shown
          (present one false (errorDocument ("Invalid option: ".toList ++ message)))) ∧
    (∀ other, (runInvocation .utf8 other false one {}).1.exitCode =
      (runInvocation .utf8 (.ofFileSystem fun _ => .missing) false one {}).1.exitCode) := by
  refine ⟨(exitCode_runInvocation .utf8 _ false _ {}).2.2.2.2.2.1 (by decide),
    (exitCode_runInvocation .utf8 _ false _ {}).2.2.2.2.2.2 rfl not_accepts_unknown,
    fun other => ?_⟩
  refine ((exitCode_runInvocation .utf8 _ false _ {}).2.2.2.2.1 ?_ other {}).1
  rintro ⟨settings, path, file, encoding, -, h, -⟩
  exact not_accepts_unknown ⟨encoding, h⟩

/-- A file without a violation, on a device in Latin-1 that does not take the euro sign in the name
of the file: the exit code is that of a failure. -/
theorem exitCode_runInvocation_euro_name :
    let scan := Scanner.ofFileSystem fun _ => .present (.regular [0x78, 0x0A]) true
    let inv : Invocation := { paths := [Char.ofNat 0x20AC :: ".erb".toList] }
    let outcome := (runInvocation .latin1 scan false inv {}).1
    outcome.exitCode = 1 ∧
    (∃ settings path r, Scans inv settings path ∧ (scan settings path).outcome = .ok r ∧
      r.violations = []) ∧
    ¬ (outcome.exitCode = 0 ↔ ∃ settings path r, Scans inv settings path ∧
      (scan settings path).outcome = .ok r ∧ r.violations = []) := by
  intro scan inv outcome
  have hcode : outcome.exitCode = 1 := by decide +kernel
  have hscan : ∃ settings path r, Scans inv settings path ∧
      (scan settings path).outcome = .ok r ∧ r.violations = [] := by
    refine ⟨{}, _, ⟨1, []⟩, scans_iff.mpr ⟨_, rfl, rfl, rfl⟩, ?_, rfl⟩
    decide +kernel
  refine ⟨hcode, hscan, fun h => ?_⟩
  rw [h.mpr hscan] at hcode
  cases hcode

end TemplateLint.CommandLine
