import TemplateLint.Proofs.CommandLine.ExitCode

/-!
# The report as data, read back

The report as data is plain text from which the result and the file can be read back, so no two
results or files have the same report. It is made as long as all integers in the result are short
enough to be written. It holds no escape sequence that colours could leave or strip, so a call that
asks for it prints it as it is.
-/

namespace TemplateLint

open Json (Value read? read?_write)

/-! ### The report and its value -/

namespace Report

private theorem violationValue_injective : Function.Injective violationValue := by
  rintro ⟨line, key, suggestion, context⟩ ⟨line', key', suggestion', context'⟩ h
  simpa [violationValue] using h

private theorem value_injective {r r' : ScanResult} {file file' : Text}
    (h : value r file = value r' file') : r = r' ∧ file = file' := by
  obtain ⟨lines, violations⟩ := r
  obtain ⟨lines', violations'⟩ := r'
  simp only [value, Value.object.injEq, List.cons.injEq, Prod.mk.injEq, Value.text.injEq,
    Value.int.injEq, Value.list.injEq, true_and] at h
  obtain ⟨hfile, hlines, hviolations, -⟩ := h
  rw [hfile, hlines, violationValue_injective.list_map hviolations]
  exact ⟨rfl, rfl⟩

/-- A report determines the result and the file that it is about. -/
theorem data_injective {r r' : ScanResult} {file file' s : Text} (h : data r file = .ok s)
    (h' : data r' file' = .ok s) : r = r' ∧ file = file' := by
  obtain ⟨-, hs⟩ := data_eq_ok_iff.mp h
  obtain ⟨-, hs'⟩ := data_eq_ok_iff.mp h'
  apply value_injective
  apply Option.some.inj
  rw [← read?_write, ← read?_write, hs, hs']

/-- A report holds no escape character. -/
theorem escape_not_mem_data {r : ScanResult} {file s : Text} (h : data r file = .ok s) :
    escape ∉ s := by
  intro hmem
  have hplain : Json.IsPlain escape := allPlain_data h escape hmem
  exact absurd hplain (by decide)

end Report

/-! ### The report on standard output -/

namespace CommandLine

/-- A bare line without the escape character is printed as it is, whatever the colours. -/
theorem present_bare {s : Text} (h : escape ∉ s) (inv : Invocation) (terminal : Bool) :
    present inv terminal [[.bare s]] = s ++ ['\n'] := by
  have hrender : Document.render (sheetOf inv) [[.bare s]] = s := by
    simp [Document.render, Text.unlines, Fragment.render, Fragment.bare]
  have hline : escape ∉ s ++ ['\n'] := by
    rw [List.mem_append, not_or]
    exact ⟨h, by decide⟩
  rw [present, hrender, Style.strip_eq_self hline, ite_self]

/-- A command line asks for the report of a file as data, and the scan of the file comes to an end
with a result. -/
def CompletesAsData (scan : Scanner) (args : List Text) (file : Text) (r : ScanResult) : Prop :=
  ∃ inv settings, Request.ofArguments args = .ok (.scan inv) ∧ inv.json = true ∧
    inv.paths = [file] ∧ '\x00' ∉ file ∧ settingsOf inv = .ok settings ∧
    (scan settings (Path.ofText file)).outcome = .ok r

/-- A call that asks for data and completes its scan prints the report if it can be made. -/
theorem CompletesAsData.standardOutput_run {scan : Scanner} {args : List Text} {file : Text}
    {r : ScanResult} (h : CompletesAsData scan args file r) {s : Text}
    (hdata : Report.data r file = .ok s) (device : Device) (terminal : Bool) (log : Log Stream) :
    (run device scan terminal args log).1.map Outcome.standardOutput = .ok (s ++ ['\n']) := by
  obtain ⟨inv, settings, hargs, hjson, hfile, hnull, hsettings, hr⟩ := h
  have hpaths : inv.paths.any (·.contains '\x00') = false := by simp [hfile, hnull]
  have hmade : report inv settings file r = .ok [[.bare s]] := by
    rw [report_of_json hjson, hdata]
    rfl
  have hshow : device.CanShow [[.bare s]] := Report.canShow_data device hdata
  have hperform := perform_of_report device terminal hfile hsettings hr
    (tryReport_eq_ok_iff.mpr ⟨hmade, hshow⟩)
  rw [run, hargs]
  simp only [hpaths, Bool.false_eq_true, if_false, Except.map]
  rw [runInvocation_standardOutput, hperform,
    device.shown_of_takes (device.takes_present_iff.mpr hshow),
    present_bare (Report.escape_not_mem_data hdata)]

end CommandLine

/-- The report as data is made exactly of the results whose integers can be written. It is made of
line feeds and the characters U+0020 to U+007E only. It is read back as an object of the file, the
number of lines, the violations in order with their four fields each, and a summary with their
number. So no other result or file has the same report. A call that asks for it and completes its
scan prints it and a line feed, whatever the colours, the device, and whether or not the output is a
terminal. -/
theorem Report.data_reads_back (r : ScanResult) (file : Text) :
    (¬ r.IsWritable → data r file = .error Text.digitsComplaint) ∧
    (r.IsWritable → ∃ text, data r file = .ok text ∧
      (∀ c ∈ text, c = '\n' ∨ 0x20 ≤ c.toNat ∧ c.toNat ≤ 0x7E) ∧
      escape ∉ text ∧
      read? text = some (.object
        [("file".toList, .text file),
         ("total_lines_scanned".toList, .int r.lines),
         ("violations".toList, .list (r.violations.map fun v => .object
            [("line_number".toList, .int v.line),
             ("offending_key".toList, .text v.key),
             ("suggested_key".toList, .text v.suggestion),
             ("context".toList, .text v.context)])),
         ("summary".toList, .object
            [("total_violations".toList, .int r.violations.length)])]) ∧
      (∀ r' file', (r', file') ≠ (r, file) → data r' file' ≠ .ok text) ∧
      (∀ scan args, CommandLine.CompletesAsData scan args file r → ∀ device terminal log,
        (CommandLine.run device scan terminal args log).1.map
          CommandLine.Outcome.standardOutput = .ok (text ++ ['\n']))) := by
  constructor
  · intro hnot
    cases hdata : data r file with
    | error complaint => rw [Text.withNumerals_eq_error hdata]
    | ok text => exact absurd (data_eq_ok_iff.mp hdata).1 hnot
  · intro hwritable
    have hdata : data r file = .ok (value r file).write := data_eq_ok_iff.mpr ⟨hwritable, rfl⟩
    refine ⟨_, hdata, allPlain_data hdata, escape_not_mem_data hdata, read?_write (value r file),
      ?_, ?_⟩
    · intro r' file' hne hdata'
      obtain ⟨rfl, rfl⟩ := data_injective hdata' hdata
      exact hne rfl
    · intro scan args h device terminal log
      exact h.standardOutput_run hdata device terminal log

/-- A context with a quotation mark and a character outside the basic plane, with colours forced
and with colours forbidden. -/
theorem Report.data_reads_back_any_colour :
    let fs : FileSystem := fun _ => .present
      (.regular [0x5B, 0x27, 0x61, 0x42, 0x27, 0x5D, 0x22, 0xF0, 0x9D, 0x84, 0x9E]) true
    let context : Text := "['aB']\"".toList ++ [Char.ofNat 0x1D11E]
    let r : ScanResult := ⟨1, [⟨1, "aB".toList, "a_b".toList, context⟩]⟩
    let coloured : List Text := ["--color".toList, "--json".toList, "a.erb".toList]
    let plain : List Text := ["--no-color".toList, "--json".toList, "a.erb".toList]
    r.IsWritable ∧
    CommandLine.CompletesAsData (.ofFileSystem fs) coloured "a.erb".toList r ∧
    CommandLine.CompletesAsData (.ofFileSystem fs) plain "a.erb".toList r ∧
    ∃ text, data r "a.erb".toList = .ok text ∧ ∀ terminal,
      (CommandLine.run .utf8 (.ofFileSystem fs) terminal coloured {}).1.map
          CommandLine.Outcome.standardOutput = .ok (text ++ ['\n']) ∧
      (CommandLine.run .latin1 (.ofFileSystem fs) terminal plain {}).1.map
          CommandLine.Outcome.standardOutput = .ok (text ++ ['\n']) := by
  intro fs context r coloured plain
  have hwritable : r.IsWritable := ⟨by decide, by decide, by decide⟩
  have hscan : (CommandLine.Scanner.ofFileSystem fs {} (Path.ofText "a.erb".toList)).outcome =
      .ok r := by
    decide +kernel
  have hcoloured : CommandLine.CompletesAsData (.ofFileSystem fs) coloured "a.erb".toList r :=
    ⟨_, {}, rfl, rfl, rfl, by decide, rfl, hscan⟩
  have hplain : CommandLine.CompletesAsData (.ofFileSystem fs) plain "a.erb".toList r :=
    ⟨_, {}, rfl, rfl, rfl, by decide, rfl, hscan⟩
  obtain ⟨text, hdata, -, -, -, -, hprinted⟩ := (data_reads_back r "a.erb".toList).2 hwritable
  refine ⟨hwritable, hcoloured, hplain, text, hdata, fun terminal => ?_⟩
  exact ⟨hprinted _ _ hcoloured .utf8 terminal {}, hprinted _ _ hplain .latin1 terminal {}⟩

/-- The least number of lines with too many digits keeps a report from being made. -/
theorem Report.not_data_of_long_integer :
    ¬ ∃ text, data ⟨10 ^ Text.mostDigits, []⟩ "a.erb".toList = .ok text := by
  rintro ⟨text, hdata⟩
  have hshort := Text.isShort_iff.mp (data_eq_ok_iff.mp hdata).1.lines
  -- The power is not to be evaluated, so its exponent becomes a variable first.
  generalize Text.mostDigits = k at hshort
  rw [Int.natAbs_pow] at hshort
  exact Nat.lt_irrefl _ hshort

end TemplateLint
