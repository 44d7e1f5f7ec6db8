import TemplateLint.Proofs.CommandLine.Discipline
import TemplateLint.Proofs.File.Path
import TemplateLint.Proofs.Report.Data

/-!
# How the path of a call is spelled

A call checks, opens, logs and complains about the path that its argument spells; only a report
shows the argument itself. So two calls that spell one path in two ways have the same exit code and
the same standard error, and their standard output differs in the name of the file in a report and
in nothing else. The normal spelling of a path is one of these ways. It has the same characters but
for slashes and points, so a device takes both spellings or none.
-/

namespace TemplateLint.CommandLine

/-- A call for one file, with the options of another call. -/
def Invocation.naming (inv : Invocation) (file : Text) : Invocation := { inv with paths := [file] }

/-- It has this one path. -/
theorem paths_naming (inv : Invocation) (file : Text) : (inv.naming file).paths = [file] := rfl

/-- It shows documents like the other call. -/
theorem present_naming (inv : Invocation) (file : Text) (terminal : Bool) (d : Document) :
    present (inv.naming file) terminal d = present inv terminal d := rfl

/-- The scan of a file under the options of a call comes to an end with a result. -/
def Completes (scan : Scanner) (inv : Invocation) (file : Text) (r : ScanResult) : Prop :=
  ∃ settings, settingsOf inv = .ok settings ∧ (scan settings (Path.ofText file)).outcome = .ok r

/-- A scan in a file system does so with the result of scanning the file. -/
theorem completes_ofFileSystem_iff {fs : FileSystem} {inv : Invocation} {file : Text}
    {r : ScanResult} :
    Completes (.ofFileSystem fs) inv file r ↔
      ∃ settings, settingsOf inv = .ok settings ∧
        scanFile fs settings (Path.ofText file) = .ok r := by
  simp only [Completes, Scanner.ofFileSystem_outcome_eq_ok_iff]

/-! ### Two spellings of a path -/

section
variable {file other : Text} (h : Path.ofText other = Path.ofText file)

include h

/-- Whether a scan comes to an end, and with which result, is a matter of the path. -/
theorem completes_of_ofText_eq (scan : Scanner) (inv : Invocation) (r : ScanResult) :
    Completes scan inv other r ↔ Completes scan inv file r := by
  unfold Completes
  rw [h]

/-- A device takes both spellings of a path or none. -/
theorem takes_iff_of_ofText_eq (device : Device) : device.Takes other ↔ device.Takes file := by
  apply device.takes_iff_of_mem_iff
  intro c hbeyond
  have hslash : c ≠ '/' := by
    rintro rfl
    exact absurd hbeyond (by decide)
  have hpoint : c ≠ '.' := by
    rintro rfl
    exact absurd hbeyond (by decide)
  rw [Path.mem_iff_exists_mem_parts hslash hpoint, Path.mem_iff_exists_mem_parts hslash hpoint, h]

/-- The reports under two spellings of a path can both be written, or none of them can. -/
theorem canReport_naming_iff (device : Device) (inv : Invocation) (settings : Settings)
    (r : ScanResult) :
    CanReport device (inv.naming other) settings other r ↔
      CanReport device (inv.naming file) settings file r := by
  cases hjson : inv.json with
  | true =>
    have hdata : ∀ name, (inv.naming name).json = true := fun _ => hjson
    rw [canReport_of_json_iff (hdata other), canReport_of_json_iff (hdata file)]
  | false =>
    have hdetail : ∀ name, (inv.naming name).json = false := fun _ => hjson
    rw [canReport_of_not_json_iff (hdetail other), canReport_of_not_json_iff (hdetail file),
      takes_iff_of_ofText_eq h]

/-- Two calls that spell one path in two ways have the same exit code and the same records, and
show the same document if their scan gives no result. -/
theorem perform_naming (device : Device) (terminal : Bool) (scan : Scanner) (inv : Invocation) :
    let first := perform device terminal scan (inv.naming file)
    let second := perform device terminal scan (inv.naming other)
    second.exitCode = first.exitCode ∧ second.records = first.records ∧
      ((¬ ∃ r, Completes scan inv file r) → second.document = first.document) := by
  intro first second
  cases hsettings : settingsOf inv with
  | error complaints =>
    have hsame : second = first :=
      (perform_of_complaints device terminal scan (paths_naming inv other) hsettings).trans
        (perform_of_complaints device terminal scan (paths_naming inv file) hsettings).symm
    rw [hsame]
    exact ⟨rfl, rfl, fun _ => rfl⟩
  | ok settings =>
    cases houtcome : (scan settings (Path.ofText file)).outcome with
    | error stop =>
      have hfirst := perform_of_stop device terminal (paths_naming inv file) hsettings houtcome
      have hsecond := perform_of_stop device terminal (paths_naming inv other) hsettings
        (h ▸ houtcome)
      have hsame : second = first := by
        rw [show second = _ from hsecond, show first = _ from hfirst, h]
      rw [hsame]
      exact ⟨rfl, rfl, fun _ => rfl⟩
    | ok r =>
      have hresult : ∃ r, Completes scan inv file r := ⟨r, settings, hsettings, houtcome⟩
      obtain ⟨hcode, hrecords⟩ := perform_agree (paths_naming inv file) (paths_naming inv other)
        hsettings hsettings (congrArg (scan settings) h) houtcome
        (canReport_naming_iff h device inv settings r)
      exact ⟨hcode, hrecords, fun hnone => absurd hresult hnone⟩

end

/-- A call whose scan gives a result prints the report of the result if this can be written. -/
theorem standardOutput_of_completes {device : Device} {scan : Scanner} {inv : Invocation}
    {file : Text} {settings : Settings} {r : ScanResult} {document : Document}
    (hsettings : settingsOf inv = .ok settings)
    (hr : (scan settings (Path.ofText file)).outcome = .ok r)
    (hreport : report inv settings file r = .ok document) (hshow : device.CanShow document)
    (terminal : Bool) (log : Log Stream) :
    (runInvocation device scan terminal (inv.naming file) log).1.standardOutput =
      present inv terminal document := by
  have htry : tryReport device terminal (inv.naming file) settings file r = .ok document :=
    tryReport_eq_ok_iff.mpr ⟨hreport, hshow⟩
  rw [runInvocation_standardOutput,
    perform_of_report device terminal (paths_naming inv file) hsettings hr htry]
  exact device.shown_of_takes (device.takes_present_iff.mpr hshow)

/-- As data the report is printed on any device, if the integers in the result can be written. -/
theorem standardOutput_as_data {scan : Scanner} {inv : Invocation} {file : Text}
    {settings : Settings} {r : ScanResult} (hjson : inv.json = true) (hwritable : r.IsWritable)
    (hsettings : settingsOf inv = .ok settings)
    (hr : (scan settings (Path.ofText file)).outcome = .ok r) (device : Device) (terminal : Bool)
    (log : Log Stream) :
    (runInvocation device scan terminal (inv.naming file) log).1.standardOutput =
      (Report.value r file).write ++ ['\n'] := by
  have hdata : Report.data r file = .ok (Report.value r file).write :=
    Report.data_eq_ok_iff.mpr ⟨hwritable, rfl⟩
  have hmade : report inv settings file r = .ok [[.bare (Report.value r file).write]] := by
    rw [report_of_json hjson, hdata]
    rfl
  have hshow := Report.canShow_data device hdata
  rw [standardOutput_of_completes hsettings hr hmade hshow terminal log,
    present_bare (Report.escape_not_mem_data hdata)]

/-- A path that nothing can be asked about is the only one of such a call. -/
theorem holdsNull_naming_iff {inv : Invocation} {file : Text} :
    HoldsNull (inv.naming file) ↔ '\x00' ∈ file := by
  simp [HoldsNull, Invocation.naming]

/-- A call for a file and the same call for the normal spelling of its path have the same exit code,
leave the same log, and write the same to standard error. If no scan comes to an end, they write the
same to standard output; and if one does, and its integers can be written, then each writes the
report of the result under its own name for the file: as data on any device, and in detail on one
that takes the report. Command lines that ask for these calls lead to these outcomes, unless nothing
can be asked about the path, in which case both break off. -/
theorem runInvocation_spelling_independent (device : Device) (scan : Scanner) (terminal : Bool)
    (inv : Invocation) (log : Log Stream) (p : Text) :
    let q := (Path.ofText p).toText
    let first := runInvocation device scan terminal { inv with paths := [p] } log
    let second := runInvocation device scan terminal { inv with paths := [q] } log
    (Path.ofText q).toText = q ∧
    second.1.exitCode = first.1.exitCode ∧
    second.1.standardError = first.1.standardError ∧
    second.2 = first.2 ∧
    ((¬ ∃ r, Completes scan inv p r ∨ Completes scan inv q r) →
      second.1.standardOutput = first.1.standardOutput) ∧
    (∀ r, Completes scan inv p r ∨ Completes scan inv q r → r.IsWritable →
      ∃ settings, settingsOf inv = .ok settings ∧
        (inv.json = true → ∃ text text',
          Report.data r p = .ok text ∧ first.1.standardOutput = text ++ ['\n'] ∧
          Report.data r q = .ok text' ∧ second.1.standardOutput = text' ++ ['\n']) ∧
        (inv.json = false → device.CanShow (Report.detailed settings r p) →
          first.1.standardOutput = present inv terminal (Report.detailed settings r p) ∧
          second.1.standardOutput = present inv terminal (Report.detailed settings r q))) ∧
    (∀ args args', Request.ofArguments args = .ok (.scan { inv with paths := [p] }) →
      Request.ofArguments args' = .ok (.scan { inv with paths := [q] }) →
      let result := (run device scan terminal args log).1
      let result' := (run device scan terminal args' log).1
      result = .ok first.1 ∧ result' = .ok second.1 ∨
        result = .error .nullInPath ∧ result' = .error .nullInPath) := by
  intro q first second
  have hpath : Path.ofText q = Path.ofText p := Path.ofText_toText_ofText p
  obtain ⟨hcode, hrecords, hdocument⟩ := perform_naming hpath device terminal scan inv
  have hcompletes : ∀ r, Completes scan inv p r ∨ Completes scan inv q r → Completes scan inv p r :=
    fun r hr => hr.elim id (completes_of_ofText_eq hpath scan inv r).mp
  have hlog : second.2 = first.2 := congrArg (logOf inv) hrecords
  refine ⟨congrArg Path.toText hpath, ?_, ?_, hlog, ?_, ?_, ?_⟩
  · calc second.1.exitCode
        = (perform device terminal scan (inv.naming q)).exitCode := runInvocation_exitCode log
      _ = (perform device terminal scan (inv.naming p)).exitCode := hcode
      _ = first.1.exitCode := (runInvocation_exitCode log).symm
  · calc second.1.standardError
        = second.2.textOf .standardError :=
          runInvocation_standardError device scan terminal (inv.naming q) log
      _ = first.2.textOf .standardError := by rw [hlog]
      _ = first.1.standardError :=
          (runInvocation_standardError device scan terminal (inv.naming p) log).symm
  · intro hnone
    have hsame := hdocument fun ⟨r, hr⟩ => hnone ⟨r, .inl hr⟩
    have houtput : ∀ file,
        (runInvocation device scan terminal (inv.naming file) log).1.standardOutput =
          device.shown (present inv terminal
            (perform device terminal scan (inv.naming file)).document) := by
      intro file
      rw [runInvocation_standardOutput, present_naming]
    exact (houtput q).trans (hsame ▸ (houtput p).symm)
  · intro r hr hwritable
    obtain ⟨settings, hsettings, hfirst⟩ := hcompletes r hr
    have hsecond : (scan settings (Path.ofText q)).outcome = .ok r := by
      rw [hpath]
      exact hfirst
    refine ⟨settings, hsettings, fun hjson => ?_, fun hjson hshow => ?_⟩
    · exact ⟨_, _, Report.data_eq_ok_iff.mpr ⟨hwritable, rfl⟩,
        standardOutput_as_data hjson hwritable hsettings hfirst device terminal log,
        Report.data_eq_ok_iff.mpr ⟨hwritable, rfl⟩,
        standardOutput_as_data hjson hwritable hsettings hsecond device terminal log⟩
    · have hmade : ∀ name, report inv settings name r =
          .ok (Report.detailed settings r name) := by
        intro name
        rw [report_of_not_json hjson]
        exact Report.inDetail_eq_ok_iff.mpr ⟨hwritable.isShort_of_mem_shownIntegers, rfl⟩
      have hshow' : device.CanShow (Report.detailed settings r q) := by
        rw [Report.canShow_detailed_iff] at hshow ⊢
        exact ⟨(takes_iff_of_ofText_eq hpath device).mpr hshow.1, hshow.2⟩
      exact ⟨standardOutput_of_completes hsettings hfirst (hmade p) hshow terminal log,
        standardOutput_of_completes hsettings hsecond (hmade q) hshow' terminal log⟩
  · intro args args' hargs hargs'
    have hnull : HoldsNull (inv.naming q) ↔ HoldsNull (inv.naming p) := by
      rw [holdsNull_naming_iff, holdsNull_naming_iff]
      exact Path.mem_toText_ofText_iff (by decide) (by decide) p
    by_cases h : HoldsNull (inv.naming p)
    · exact .inr ⟨run_of_holdsNull device scan terminal log hargs h,
        run_of_holdsNull device scan terminal log hargs' (hnull.mpr h)⟩
    · exact .inl ⟨run_of_not_holdsNull device scan terminal log hargs h,
        run_of_not_holdsNull device scan terminal log hargs' (mt hnull.mp h)⟩

/-- A file that is named with a point, repeated slashes and a slash at the end, and by its name
alone. -/
theorem runInvocation_spelling_independent_slashes :
    let fs : FileSystem := fun path =>
      if path = ⟨.relative, ["a.erb".toList]⟩ then .present (.regular [0x61, 0x0A]) true
      else .missing
    let r : ScanResult := ⟨1, []⟩
    (Path.ofText ".//a.erb/".toList).toText = "a.erb".toList ∧
    Completes (.ofFileSystem fs) {} ".//a.erb/".toList r ∧ r.IsWritable ∧
    (runInvocation .latin1 (.ofFileSystem fs) false
        { paths := [".//a.erb/".toList] } {}).1.standardOutput =
      "[OK] All keys in .//a.erb/ are properly snake_cased!\n\nTotal lines scanned: 1\n".toList ∧
    (runInvocation .latin1 (.ofFileSystem fs) false
        { paths := ["a.erb".toList] } {}).1.standardOutput =
      "[OK] All keys in a.erb are properly snake_cased!\n\nTotal lines scanned: 1\n".toList := by
  intro fs r
  have hspelling : (Path.ofText ".//a.erb/".toList).toText = "a.erb".toList := by decide
  have hsettings : settingsOf {} = .ok {} := rfl
  have hscan : scanFile fs {} (Path.ofText ".//a.erb/".toList) = .ok r := by decide +kernel
  have hcompletes : Completes (.ofFileSystem fs) {} ".//a.erb/".toList r :=
    completes_ofFileSystem_iff.mpr ⟨{}, hsettings, hscan⟩
  have hwritable : r.IsWritable := ⟨by decide, List.forall_mem_nil _, by decide⟩
  have hshow : Device.latin1.CanShow (Report.detailed {} r ".//a.erb/".toList) :=
    (Report.canShow_detailed_iff {} r _).mpr
      ⟨Device.latin1.takes_of_isAscii (by decide), Report.canShow_detailed_nil {} rfl⟩
  obtain ⟨-, -, -, -, -, hreport, -⟩ := runInvocation_spelling_independent .latin1
    (.ofFileSystem fs) false {} {} ".//a.erb/".toList
  obtain ⟨settings, hok, -, hdetailed⟩ := hreport r (.inl hcompletes) hwritable
  obtain rfl := Except.ok.inj (hsettings.symm.trans hok)
  obtain ⟨hfirst, hsecond⟩ := hdetailed rfl hshow
  rw [hspelling] at hsecond
  refine ⟨hspelling, hcompletes, hwritable, hfirst.trans ?_, hsecond.trans ?_⟩
  · decide +kernel
  · decide +kernel

end TemplateLint.CommandLine
