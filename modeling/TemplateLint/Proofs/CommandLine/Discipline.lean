import TemplateLint.Proofs.CommandLine.Layout
import TemplateLint.Proofs.CommandLine.Presentation

/-!
# The exit code of a command line

A run keeps to its discipline if its exit code is 0, 1 or 130, if any other exit code than zero goes
with a report or a message on standard output, and if standard error has lines of the log only
(`IsDisciplined`). Every call that is carried out or turned down does so, unless it has a message
that the device refuses: then the run breaks down, and standard output has nothing. A command line
that cannot be read as a call breaks the discipline in every respect: its exit code is 2, and its
message is all on standard error.
-/

namespace TemplateLint.CommandLine

/-! ### Command lines that can be read -/

/-- A command line that is well formed and asks for version or help, or for a scan with an integer
for its context width. -/
def IsReadable (args : List Text) : Prop :=
  ∃ l : Layout, l.spell = args ∧
    ((l.given {}).notice ≠ none ∨ integerOf? (l.given {}).contextWidth ≠ none)

private theorem exists_request_iff {args : List Text} {g : Given}
    (h : readArguments {} args = .ok g) :
    (∃ request, Request.ofArguments args = .ok request) ↔
      g.notice ≠ none ∨ integerOf? g.contextWidth ≠ none := by
  simp only [Request.ofArguments, h]
  cases hnotice : g.notice with
  | some option => cases option <;> simp
  | none => cases hwidth : integerOf? g.contextWidth <;> simp

/-- Exactly the command lines that can be read ask for something. -/
theorem isReadable_iff {args : List Text} :
    IsReadable args ↔ ∃ request, Request.ofArguments args = .ok request := by
  constructor
  · rintro ⟨l, hspell, h⟩
    have hread : readArguments {} args = .ok (l.given {}) :=
      readArguments_eq_ok_iff.mpr ⟨l, hspell, rfl⟩
    exact (exists_request_iff hread).mpr h
  · rintro ⟨request, h⟩
    cases hread : readArguments {} args with
    | error fault =>
      rw [Request.ofArguments, hread] at h
      cases h
    | ok g =>
      obtain ⟨l, hspell, rfl⟩ := readArguments_eq_ok_iff.mp hread
      exact ⟨l, hspell, (exists_request_iff hread).mp ⟨request, h⟩⟩

/-! ### What a call tells, and where -/

/-- A text of lines of the log. -/
def IsLogText (s : Text) : Prop :=
  ∃ entries : List (Bool × Record),
    s = entries.flatMap fun e => Log.line e.1 e.2.level e.2.name e.2.message

/-- What a call shows that does not end well, and the exit code that goes with it. -/
inductive Tells (inv : Invocation) : Nat → Document → Prop
  | misuse : Tells inv 1 (usage programName)
  | error (message : Text) : Tells inv 1 (errorDocument message)
  | surprise (message : Text) : Tells inv 1 (surpriseDocument message)
  | violations (settings : Settings) (file : Text) (r : ScanResult) (document : Document)
      (h : r.violations ≠ []) (hreport : report inv settings file r = .ok document) :
      Tells inv 1 document
  | interruption : Tells inv 130 [[], [.literal "Operation cancelled by user"]]

/-- What is promised of the outcome of a run. -/
structure IsDisciplined (terminal : Bool) (o : Outcome) : Prop where
  code : o.exitCode = 0 ∨ o.exitCode = 130 ∨ o.exitCode = 1
  told : o.exitCode ≠ 0 → ∃ inv document,
    Tells inv o.exitCode document ∧ o.standardOutput = present inv terminal document
  logged : IsLogText o.standardError

/-- A text without a line is one of lines of the log. -/
theorem isLogText_nil : IsLogText [] := ⟨[], rfl⟩

/-- To a log with a handler, records add lines of the log only. -/
theorem isLogText_applyAll {log : Log Stream} {stream : Stream} (hhandlers : log.handlers ≠ [])
    (h : IsLogText (log.textOf stream)) (resort : Option Stream) (records : List Record) :
    IsLogText ((log.applyAll resort (records.map Record.event)).textOf stream) := by
  induction records generalizing log with
  | nil => exact h
  | cons r records ih =>
    rw [List.map_cons, Log.applyAll, List.foldl_cons]
    apply ih
    · rw [Record.event, Log.apply, Log.handlers_record]
      exact hhandlers
    · rw [Record.event, Log.apply, Log.textOf_record_of_handlers _ _ _ _ _ hhandlers]
      obtain ⟨entries, hentries⟩ := h
      split
      · refine
          ⟨entries ++ (log.handlers.filter (·.stream = stream)).map fun h => (h.verbose, r), ?_⟩
        rw [hentries, List.flatMap_append, List.flatMap_map]
      · exact ⟨entries, by rw [hentries, List.append_nil]⟩

/-- A call without a result tells why. -/
theorem tells_performStop (inv : Invocation) (records : List Record) (stop : Stop) :
    Tells inv (performStop records stop).exitCode (performStop records stop).document := by
  cases stop with
  | interrupted => exact .interruption
  | reported message => exact .error message
  | unexpected message => exact .surprise message
  | failed failure =>
    rw [performStop]
    split
    · exact .error _
    · exact .surprise _

/-- Whatever call does not end well tells why. -/
theorem tells_perform {device : Device} {terminal : Bool} {scan : Scanner} {inv : Invocation}
    (h : (perform device terminal scan inv).exitCode ≠ 0) :
    Tells inv (perform device terminal scan inv).exitCode
      (perform device terminal scan inv).document := by
  have hleads := leads_perform device terminal scan inv
  generalize perform device terminal scan inv = p at h hleads ⊢
  cases hleads with
  | misused hlength => exact .misuse
  | rejected hfile hsettings => exact .error _
  | stopped hfile hsettings hstop => exact tells_performStop inv _ _
  | @reported file settings r document hfile hsettings hr hreport =>
    simp only [exitCode_scanResult] at h ⊢
    have hviolations : r.violations ≠ [] := by
      intro hnone
      rw [if_pos hnone] at h
      exact h rfl
    rw [if_neg hviolations]
    exact .violations settings file r document hviolations (tryReport_eq_ok_iff.mp hreport).1
  | unreported hfile hsettings hr hreport => exact .surprise _

/-! ### Messages that are refused -/

/-- What a stop gives as its reason, if it gives one. -/
def Stop.message? : Stop → Option Text
  | .failed failure => some failure.message
  | .reported message => some message
  | .unexpected message => some message
  | .interrupted => none

/-- The message that a call has about its options or about its scan, if it has one. -/
inductive Says (scan : Scanner) (inv : Invocation) : Text → Prop
  | rejected {file : Text} {complaints : List Settings.Complaint} (hfile : inv.paths = [file])
      (hsettings : settingsOf inv = .error complaints) :
      Says scan inv ("Invalid option: ".toList ++ Settings.complaintsMessage complaints)
  | stopped {file message : Text} {settings : Settings} {stop : Stop} (hfile : inv.paths = [file])
      (hsettings : settingsOf inv = .ok settings)
      (hstop : (scan settings (Path.ofText file)).outcome = .error stop)
      (hmessage : stop.message? = some message) : Says scan inv message

private theorem canShow_performStop_iff {device : Device} {records : List Record} {stop : Stop} :
    device.CanShow (performStop records stop).document ↔
      ∀ message, stop.message? = some message → device.Takes message := by
  cases stop with
  | interrupted => exact iff_of_true (canShow_interruption device) (by simp [Stop.message?])
  | reported message => simp [performStop, canShow_errorDocument_iff, Stop.message?]
  | unexpected message => simp [performStop, surprise, canShow_surpriseDocument_iff, Stop.message?]
  | failed failure =>
    rw [performStop]
    split
    · simp [canShow_errorDocument_iff, Stop.message?]
    · simp [surprise, canShow_surpriseDocument_iff, Stop.message?]

section
variable {scan : Scanner} {inv : Invocation} {file : Text} {settings : Settings}
  (hfile : inv.paths = [file])

include hfile

/-- A call whose options are not accepted says what is wrong with them. -/
theorem says_iff_of_complaints {complaints : List Settings.Complaint}
    (hsettings : settingsOf inv = .error complaints) {message : Text} :
    Says scan inv message ↔
      message = "Invalid option: ".toList ++ Settings.complaintsMessage complaints := by
  constructor
  · intro hsays
    cases hsays with
    | rejected hfile' hsettings' => rw [Except.error.inj (hsettings.symm.trans hsettings')]
    | stopped hfile' hsettings' hstop hmessage =>
      rw [hsettings] at hsettings'
      cases hsettings'
  · rintro rfl
    exact .rejected hfile hsettings

variable (hsettings : settingsOf inv = .ok settings)

include hsettings

/-- A call whose scan is stopped says why. -/
theorem says_iff_of_stop {stop : Stop}
    (hstop : (scan settings (Path.ofText file)).outcome = .error stop) {message : Text} :
    Says scan inv message ↔ stop.message? = some message := by
  constructor
  · intro hsays
    cases hsays with
    | rejected hfile' hsettings' =>
      rw [hsettings] at hsettings'
      cases hsettings'
    | stopped hfile' hsettings' hstop' hmessage =>
      obtain rfl := List.singleton_inj.mp (hfile.symm.trans hfile')
      obtain rfl := Except.ok.inj (hsettings.symm.trans hsettings')
      obtain rfl := Except.error.inj (hstop.symm.trans hstop')
      exact hmessage
  · exact .stopped hfile hsettings hstop

/-- A call whose scan gives a result says nothing. -/
theorem not_says_of_result {r : ScanResult}
    (hr : (scan settings (Path.ofText file)).outcome = .ok r) (message : Text) :
    ¬ Says scan inv message := by
  intro hsays
  cases hsays with
  | rejected hfile' hsettings' =>
    rw [hsettings] at hsettings'
    cases hsettings'
  | stopped hfile' hsettings' hstop hmessage =>
    obtain rfl := List.singleton_inj.mp (hfile.symm.trans hfile')
    obtain rfl := Except.ok.inj (hsettings.symm.trans hsettings')
    rw [hr] at hstop
    cases hstop

end

/-- A call with no path or with several says nothing. -/
theorem not_says_of_length_ne {scan : Scanner} {inv : Invocation} (h : inv.paths.length ≠ 1)
    (message : Text) : ¬ Says scan inv message := by
  intro hsays
  cases hsays with
  | rejected hfile hsettings => exact h (congrArg List.length hfile)
  | stopped hfile hsettings hstop hmessage => exact h (congrArg List.length hfile)

/-- A device shows the last word of a call exactly if it takes the message of the call. -/
theorem canShow_document_iff {device : Device} {terminal : Bool} {scan : Scanner}
    {inv : Invocation} :
    device.CanShow (perform device terminal scan inv).document ↔
      ∀ message, Says scan inv message → device.Takes message := by
  have hsilent : ∀ {d : Document}, device.CanShow d → (∀ message, ¬ Says scan inv message) →
      (device.CanShow d ↔ ∀ message, Says scan inv message → device.Takes message) :=
    fun hshow hnot => iff_of_true hshow fun message hsays => absurd hsays (hnot message)
  have hleads := leads_perform device terminal scan inv
  generalize perform device terminal scan inv = p at hleads ⊢
  cases hleads with
  | misused hlength => exact hsilent (canShow_usage device) (not_says_of_length_ne hlength)
  | rejected hfile hsettings =>
    simp only [canShow_errorDocument_iff, says_iff_of_complaints hfile hsettings, forall_eq]
  | stopped hfile hsettings hstop =>
    simp only [canShow_performStop_iff, says_iff_of_stop hfile hsettings hstop]
  | reported hfile hsettings hr hreport =>
    exact hsilent (tryReport_eq_ok_iff.mp hreport).2 (not_says_of_result hfile hsettings hr)
  | unreported hfile hsettings hr hreport =>
    have htakes := device.takes_of_isAscii (isAscii_of_tryReport_eq_error hreport)
    exact hsilent ((canShow_surpriseDocument_iff device).mpr htakes)
      (not_says_of_result hfile hsettings hr)

/-! ### The run of a call -/

section
variable (device : Device) (scan : Scanner) (terminal : Bool) (inv : Invocation) (log : Log Stream)

/-- The run of a call breaks down exactly if the call has a message that the device refuses. -/
theorem breakdown_runInvocation_eq_none_iff :
    (runInvocation device scan terminal inv log).1.breakdown = none ↔
      ∀ message, Says scan inv message → device.Takes message := by
  rw [runInvocation_eq, breakdown_saying_eq_none_iff, device.takes_present_iff,
    canShow_document_iff]

/-- The run of a call keeps to the discipline exactly if it does not break down. -/
theorem isDisciplined_runInvocation_iff :
    IsDisciplined terminal (runInvocation device scan terminal inv log).1 ↔
      (runInvocation device scan terminal inv log).1.breakdown = none := by
  rw [runInvocation_eq, breakdown_saying_eq_none_iff]
  constructor
  · intro h
    apply Classical.byContradiction
    intro hrefused
    rw [saying_of_not_takes _ _ _ hrefused] at h
    obtain ⟨inv', document, -, hshown⟩ := h.told Nat.one_ne_zero
    exact present_ne_nil inv' terminal document hshown.symm
  · intro htakes
    rw [saying_of_takes _ _ _ htakes]
    refine ⟨exitCode_perform_cases, fun hcode => ⟨inv, _, tells_perform hcode, rfl⟩, ?_⟩
    apply isLogText_applyAll
    · exact List.cons_ne_nil _ _
    · exact isLogText_nil

end

/-! ### The run of a command line -/

/-- A call with a path that nothing can be asked about. -/
def HoldsNull (inv : Invocation) : Prop := ∃ path ∈ inv.paths, '\x00' ∈ path

/-- This is checked path by path. -/
theorem any_contains_null_iff {inv : Invocation} :
    inv.paths.any (·.contains '\x00') = true ↔ HoldsNull inv := by
  simp [HoldsNull]

section
variable (device : Device) (scan : Scanner) (terminal : Bool) {args : List Text} (log : Log Stream)

/-- A command line that cannot be read is answered on standard error. -/
theorem run_of_fault {fault : UsageFault} (h : Request.ofArguments args = .error fault) :
    (run device scan terminal args log).1 =
      .ok { exitCode := 2, standardError := faultNotice fault } := by
  simp only [run, h]

/-- A path that nothing can be asked about breaks off a run. -/
theorem run_of_holdsNull {inv : Invocation} (h : Request.ofArguments args = .ok (.scan inv))
    (hnull : HoldsNull inv) : (run device scan terminal args log).1 = .error .nullInPath := by
  simp only [run, h, if_pos (any_contains_null_iff.mpr hnull)]

/-- Any other scan that is asked for is the run of a call. -/
theorem run_of_not_holdsNull {inv : Invocation} (h : Request.ofArguments args = .ok (.scan inv))
    (hnull : ¬ HoldsNull inv) :
    (run device scan terminal args log).1 =
      .ok (runInvocation device scan terminal inv log).1 := by
  simp only [run, h, if_neg (mt any_contains_null_iff.mp hnull)]

/-- A run breaks off exactly where a scan is asked for with a path that nothing can be asked
about. -/
theorem run_eq_error_iff :
    (run device scan terminal args log).1 = .error .nullInPath ↔
      ∃ inv, Request.ofArguments args = .ok (.scan inv) ∧ HoldsNull inv := by
  constructor
  · intro hrun
    cases h : Request.ofArguments args with
    | error fault =>
      rw [run_of_fault device scan terminal log h] at hrun
      cases hrun
    | ok request =>
      cases request with
      | showVersion => simp [run, h] at hrun
      | showHelp => simp [run, h] at hrun
      | scan inv =>
        refine ⟨inv, rfl, ?_⟩
        apply Classical.byContradiction
        intro hnull
        rw [run_of_not_holdsNull device scan terminal log h hnull] at hrun
        cases hrun
  · rintro ⟨inv, h, hnull⟩
    exact run_of_holdsNull device scan terminal log h hnull

/-- Where a scan is asked for, a run that does not break off is the run of the call. -/
theorem eq_runInvocation_of_run {inv : Invocation} {outcome : Outcome}
    (h : Request.ofArguments args = .ok (.scan inv))
    (hrun : (run device scan terminal args log).1 = .ok outcome) :
    outcome = (runInvocation device scan terminal inv log).1 := by
  by_cases hnull : HoldsNull inv
  · rw [run_of_holdsNull device scan terminal log h hnull] at hrun
    cases hrun
  · rw [run_of_not_holdsNull device scan terminal log h hnull] at hrun
    exact (Except.ok.inj hrun).symm

/-- A notice in ASCII is what a run shows that ends well and logs nothing, so the run keeps to the
discipline. -/
theorem isDisciplined_saying {notice : Text} (h : notice.isAscii = true) :
    IsDisciplined terminal (.saying device 0 notice []) ∧
      (Outcome.saying device 0 notice []).breakdown = none := by
  rw [saying_of_takes device 0 [] (device.takes_of_isAscii h)]
  exact ⟨⟨.inl rfl, fun hcode => absurd rfl hcode, isLogText_nil⟩, rfl⟩

/-- A run that does not break off keeps to the discipline exactly if it does not break down, as long
as something is asked for. -/
theorem isDisciplined_run_iff {request : Request} {outcome : Outcome}
    (h : Request.ofArguments args = .ok request)
    (hrun : (run device scan terminal args log).1 = .ok outcome) :
    IsDisciplined terminal outcome ↔ outcome.breakdown = none := by
  cases request with
  | showVersion =>
    simp only [run, h, Except.ok.injEq] at hrun
    obtain ⟨hdisciplined, hnone⟩ := isDisciplined_saying device terminal isAscii_versionNotice
    exact hrun ▸ iff_of_true hdisciplined hnone
  | showHelp =>
    simp only [run, h, Except.ok.injEq] at hrun
    obtain ⟨hdisciplined, hnone⟩ := isDisciplined_saying device terminal isAscii_helpNotice
    exact hrun ▸ iff_of_true hdisciplined hnone
  | scan inv =>
    rw [eq_runInvocation_of_run device scan terminal log h hrun]
    exact isDisciplined_runInvocation_iff device scan terminal inv log

/-- A run breaks down exactly if a scan is asked for by a call with a message that the device
refuses. -/
theorem breakdown_run_ne_none_iff {outcome : Outcome}
    (hrun : (run device scan terminal args log).1 = .ok outcome) :
    outcome.breakdown ≠ none ↔ ∃ inv message, Request.ofArguments args = .ok (.scan inv) ∧
      Says scan inv message ∧ ¬ device.Takes message := by
  cases h : Request.ofArguments args with
  | error fault =>
    rw [run_of_fault device scan terminal log h] at hrun
    obtain rfl := Except.ok.inj hrun
    simp
  | ok request =>
    cases request with
    | showVersion =>
      simp only [run, h, Except.ok.injEq] at hrun
      obtain ⟨-, hnone⟩ := isDisciplined_saying device terminal isAscii_versionNotice
      simp [← hrun, hnone]
    | showHelp =>
      simp only [run, h, Except.ok.injEq] at hrun
      obtain ⟨-, hnone⟩ := isDisciplined_saying device terminal isAscii_helpNotice
      simp [← hrun, hnone]
    | scan inv =>
      rw [eq_runInvocation_of_run device scan terminal log h hrun, ne_eq,
        breakdown_runInvocation_eq_none_iff]
      simp

/-- A command line that cannot be read has the exit code 2 and a message on standard error. -/
theorem run_of_not_isReadable (h : ¬ IsReadable args) :
    ∃ fault, (run device scan terminal args log).1 =
      .ok { exitCode := 2, standardError := faultNotice fault } := by
  cases hask : Request.ofArguments args with
  | error fault => exact ⟨fault, run_of_fault device scan terminal log hask⟩
  | ok request => exact absurd (isReadable_iff.mpr ⟨request, hask⟩) h

/-- The exit code 2 is against the discipline. -/
theorem not_isDisciplined_of_two (text : Text) :
    ¬ IsDisciplined terminal { exitCode := 2, standardError := text } := by
  intro h
  rcases h.code with hcode | hcode | hcode
  · cases hcode
  · cases hcode
  · cases hcode

end

/-- Apart from command lines with a path that nothing can be asked about, a run keeps to the
discipline exactly if its command line can be read and it does not break down. It breaks down
exactly if its call has a message about its options or its scan that the device refuses. If the
command line cannot be read, then the exit code is 2, standard output has nothing and the message is
on standard error. If it can, but the call is turned down for the number of its paths or for the
value of an option, then the exit code is 1 and standard error has nothing. -/
theorem run_disciplined_iff (device : Device) (scan : Scanner) (terminal : Bool)
    (args : List Text) (log : Log Stream) :
    let result := (run device scan terminal args log).1
    (result = .error .nullInPath ↔
      ∃ inv, Request.ofArguments args = .ok (.scan inv) ∧ HoldsNull inv) ∧
    (∀ outcome, result = .ok outcome →
      (IsDisciplined terminal outcome ↔ IsReadable args ∧ outcome.breakdown = none) ∧
      (outcome.breakdown ≠ none ↔ ∃ inv message, Request.ofArguments args = .ok (.scan inv) ∧
        Says scan inv message ∧ ¬ device.Takes message)) ∧
    (¬ IsReadable args →
      ∃ fault, result = .ok { exitCode := 2, standardError := faultNotice fault }) ∧
    (∀ inv outcome, Request.ofArguments args = .ok (.scan inv) →
      (¬ ∃ settings path, Scans inv settings path) → result = .ok outcome →
      outcome.exitCode = 1 ∧ outcome.standardError = []) := by
  intro result
  refine ⟨run_eq_error_iff device scan terminal log, ?_,
    run_of_not_isReadable device scan terminal log, ?_⟩
  · intro outcome hrun
    refine ⟨⟨?_, ?_⟩, breakdown_run_ne_none_iff device scan terminal log hrun⟩
    · intro hdisciplined
      have hreadable : IsReadable args := by
        apply Classical.byContradiction
        intro hnot
        obtain ⟨fault, hfault⟩ := run_of_not_isReadable device scan terminal log hnot
        obtain rfl := Except.ok.inj (hrun.symm.trans hfault)
        exact not_isDisciplined_of_two terminal _ hdisciplined
      obtain ⟨request, hask⟩ := isReadable_iff.mp hreadable
      exact ⟨hreadable, (isDisciplined_run_iff device scan terminal log hask hrun).mp hdisciplined⟩
    · rintro ⟨hreadable, hnone⟩
      obtain ⟨request, hask⟩ := isReadable_iff.mp hreadable
      exact (isDisciplined_run_iff device scan terminal log hask hrun).mpr hnone
  · intro inv outcome hask hnot hrun
    obtain ⟨hcode, hrecords, -⟩ := perform_of_not_scans hnot device terminal scan
    rw [eq_runInvocation_of_run device scan terminal log hask hrun]
    constructor
    · rw [runInvocation_exitCode, hcode]
    · rw [runInvocation_standardError, hrecords]
      rfl

/-- A context width that is too small is told on standard output, with the exit code 1. -/
theorem run_disciplined_iff_small_width :
    ∃ outcome, (run .utf8 (.ofFileSystem fun _ => .missing) false
        ["--context-width=5".toList, "form.erb".toList] {}).1 = .ok outcome ∧
      IsDisciplined false outcome ∧ outcome.exitCode = 1 ∧ outcome.standardError = [] := by
  have hread : readArguments {} ["--context-width=5".toList, "form.erb".toList] =
      .ok { paths := ["form.erb".toList], contextWidth := "5".toList } :=
    readArguments_layout ⟨[.setting .contextWidth rfl "5".toList true,
      .path "form.erb".toList (by decide)], none⟩ {}
  have hwidth : integerOf? "5".toList = some 5 := by cbv
  have hask : Request.ofArguments ["--context-width=5".toList, "form.erb".toList] =
      .ok (.scan { paths := ["form.erb".toList], contextWidth := 5 }) := by
    simp only [Request.ofArguments, hread, hwidth]
  have hnull : ¬ HoldsNull { paths := ["form.erb".toList], contextWidth := 5 } := by
    rw [← any_contains_null_iff]
    decide
  have hnot : ¬ ∃ settings path,
      Scans { paths := ["form.erb".toList], contextWidth := 5 } settings path := by
    rintro ⟨settings, path, file, encoding, -, h, -⟩
    exact absurd h.least_le (by decide)
  have hrun := run_of_not_holdsNull .utf8 (.ofFileSystem fun _ => .missing) false {} hask hnull
  obtain ⟨-, houtcome, -, hrejected⟩ := run_disciplined_iff .utf8
    (.ofFileSystem fun _ => .missing) false ["--context-width=5".toList, "form.erb".toList] {}
  obtain ⟨hiff, hbreakdown⟩ := houtcome _ hrun
  refine ⟨_, hrun, hiff.mpr ⟨isReadable_iff.mpr ⟨_, hask⟩, ?_⟩, hrejected _ _ hask hnot hrun⟩
  apply Classical.byContradiction
  intro hsome
  obtain ⟨-, message, -, -, hrefused⟩ := hbreakdown.mp hsome
  exact hrefused (Device.takes_utf8 message)

/-- A context width that is no number is told on standard error, with the exit code 2. -/
theorem not_isDisciplined_width_abc :
    ∃ outcome, (run .utf8 (.ofFileSystem fun _ => .missing) false
        ["--context-width".toList, "abc".toList, "form.erb".toList] {}).1 = .ok outcome ∧
      outcome.exitCode = 2 ∧ outcome.standardOutput = [] ∧ ¬ IsDisciplined false outcome := by
  have hread : readArguments {} ["--context-width".toList, "abc".toList, "form.erb".toList] =
      .ok { paths := ["form.erb".toList], contextWidth := "abc".toList } :=
    readArguments_layout ⟨[.setting .contextWidth rfl "abc".toList false,
      .path "form.erb".toList (by decide)], none⟩ {}
  have hwidth : integerOf? "abc".toList = none := by cbv
  have hask : Request.ofArguments ["--context-width".toList, "abc".toList, "form.erb".toList] =
      .error (.notInteger "abc".toList) := by
    simp only [Request.ofArguments, hread, hwidth]
  exact ⟨_, run_of_fault .utf8 _ false {} hask, rfl, rfl, not_isDisciplined_of_two false _⟩

end TemplateLint.CommandLine
