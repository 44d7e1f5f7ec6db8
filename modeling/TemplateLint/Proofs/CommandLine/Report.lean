import TemplateLint.Proofs.CommandLine.Device
import TemplateLint.Proofs.Json.RoundTrip

/-!
# Reports that can be written

A report is made if its integers are short enough, and a device shows it if it takes the texts in
it. The report as data is ASCII, so every device shows it; a detailed report without violations is
ASCII apart from the name of the file.
-/

namespace TemplateLint

open Json (Value)

/-! ### Reports that can be made -/

/-- The integers in a result can be written. -/
structure ScanResult.IsWritable (r : ScanResult) : Prop where
  lines : Text.isShort r.lines = true
  line_of_mem : ∀ v ∈ r.violations, Text.isShort v.line = true
  count : Text.isShort r.count = true

/-- Then the integers that a detailed report shows can be written. -/
theorem ScanResult.IsWritable.isShort_of_mem_shownIntegers {r : ScanResult} (h : r.IsWritable) :
    ∀ n ∈ Report.shownIntegers r, Text.isShort n = true := by
  intro n hn
  unfold Report.shownIntegers at hn
  split at hn
  · rcases List.mem_cons.mp hn with rfl | hn
    · exact h.count
    · obtain ⟨v, hv, rfl⟩ := List.mem_map.mp hn
      exact h.line_of_mem v hv
  · rw [List.mem_singleton.mp hn]
    exact h.lines

namespace Report

private theorem itemIntegers_violations (vs : List Violation) :
    Json.itemIntegers (vs.map violationValue) = vs.map Violation.line := by
  induction vs with
  | nil => rfl
  | cons v vs ih =>
    rw [List.map_cons, List.map_cons, Json.itemIntegers, ih]
    rfl

/-- The integers in the value of a result are the number of lines, those of the lines with
violations, and how many these are. -/
theorem integers_value (r : ScanResult) (file : Text) :
    (value r file).integers =
      r.lines :: (r.violations.map Violation.line ++ [(r.count : Int)]) := by
  simp [value, Value.integers, Json.memberIntegers, itemIntegers_violations]

/-- The report as data is made exactly if the integers in the result can be written. -/
theorem data_eq_ok_iff {r : ScanResult} {file s : Text} :
    data r file = .ok s ↔ r.IsWritable ∧ (value r file).write = s := by
  have hshort : (∀ n ∈ (value r file).integers, Text.isShort n = true) ↔ r.IsWritable := by
    rw [integers_value]
    simp only [List.mem_cons, List.mem_append, List.mem_map, List.not_mem_nil, or_false]
    constructor
    · intro h
      exact ⟨h _ (.inl rfl), fun v hv => h _ (.inr (.inl ⟨v, hv, rfl⟩)), h _ (.inr (.inr rfl))⟩
    · rintro h n (rfl | ⟨v, hv, rfl⟩ | rfl)
      · exact h.lines
      · exact h.line_of_mem v hv
      · exact h.count
  rw [data, Value.dump, Text.withNumerals_eq_ok_iff, hshort]

/-- A report as data holds line feeds and the characters U+0020 to U+007E only. -/
theorem allPlain_data {r : ScanResult} {file s : Text} (h : data r file = .ok s) :
    Json.AllPlain s := by
  obtain ⟨-, rfl⟩ := data_eq_ok_iff.mp h
  exact Json.allPlain_writeAt (value r file) 0

private theorem isAscii_of_allPlain {s : Text} (h : Json.AllPlain s) : s.isAscii = true := by
  rw [Text.isAscii_iff]
  intro c hc
  rcases h c hc with rfl | hrange
  · decide
  · omega

/-- Every device shows a report as data. -/
theorem canShow_data {r : ScanResult} {file s : Text} (device : Device)
    (h : data r file = .ok s) : device.CanShow [[.bare s]] := by
  intro line hline f hf
  obtain rfl := List.mem_singleton.mp hline
  obtain rfl := List.mem_singleton.mp hf
  exact device.takes_of_isAscii (isAscii_of_allPlain (allPlain_data h))

/-- The detailed report is made exactly if the integers in it can be written. -/
theorem inDetail_eq_ok_iff {settings : Settings} {r : ScanResult} {file : Text} {d : Document} :
    inDetail settings r file = .ok d ↔
      (∀ n ∈ shownIntegers r, Text.isShort n = true) ∧ detailed settings r file = d :=
  Text.withNumerals_eq_ok_iff

private theorem detailed_eq_cons (settings : Settings) (r : ScanResult) :
    ∃ label front back rest, Text.isAscii front = true ∧ Text.isAscii back = true ∧
      ∀ file, detailed settings r file = [⟨some label, front ++ file ++ back⟩] :: rest := by
  unfold detailed
  split
  · refine ⟨_, "[FAIL] Found ".toList ++ Text.ofNat r.count ++ " camelCase violation(s) in ".toList,
      ":".toList, _, ?_, by decide, fun file => rfl⟩
    simp [Text.isAscii_ofNat]
  · exact ⟨_, _, _, _, by decide, by decide, fun file => rfl⟩

/-- A device shows the detailed report about a file exactly if it takes the name of the file and
shows the rest. -/
theorem canShow_detailed_iff {device : Device} (settings : Settings) (r : ScanResult)
    (file : Text) :
    device.CanShow (detailed settings r file) ↔
      device.Takes file ∧ device.CanShow (detailed settings r []) := by
  obtain ⟨label, front, back, rest, hfront, hback, hdetailed⟩ := detailed_eq_cons settings r
  have hback : device.Takes back := device.takes_of_isAscii hback
  have htitle : ∀ name, device.CanShow (detailed settings r name) ↔
      device.Takes name ∧ device.CanShow rest := by
    intro name
    rw [hdetailed, device.canShow_cons_iff, List.forall_mem_singleton, List.append_assoc,
      device.takes_append_iff_of_isAscii hfront, device.takes_append_iff, and_iff_left hback]
  have hnone : device.Takes [] := device.takes_of_isAscii rfl
  rw [htitle, htitle, and_iff_right hnone]

/-- Of a result without violations, a device shows all but the name of the file. -/
theorem canShow_detailed_nil {device : Device} (settings : Settings) {r : ScanResult}
    (h : r.violations = []) : device.CanShow (detailed settings r []) := by
  have hclean : detailed settings r [] = clean r.lines [] := by
    simp [detailed, ScanResult.hasViolations, h]
  have hlines : device.Takes (Text.ofInt r.lines) := device.takes_of_isAscii (Text.isAscii_ofInt _)
  rw [hclean, clean]
  simp only [Device.CanShow, List.mem_cons, List.not_mem_nil, or_false, forall_eq_or_imp, forall_eq,
    IsEmpty.forall_iff, implies_true, true_and]
  exact ⟨device.takes_of_isAscii (by decide), device.takes_of_isAscii (by decide), hlines⟩

end Report

/-! ### Reports of a call -/

namespace CommandLine

/-- The report of a result can be made, and a device shows it. -/
def CanReport (device : Device) (inv : Invocation) (settings : Settings) (file : Text)
    (r : ScanResult) : Prop :=
  ∃ document, report inv settings file r = .ok document ∧ device.CanShow document

section
variable {device : Device} {terminal : Bool} {inv : Invocation} {settings : Settings} {file : Text}
  {r : ScanResult}

/-- A call that asks for data reports it as a line that nothing styles. -/
theorem report_of_json (h : inv.json = true) :
    report inv settings file r = (Report.data r file).map fun s => [[.bare s]] := if_pos h

/-- Any other call reports in detail. -/
theorem report_of_not_json (h : inv.json = false) :
    report inv settings file r = Report.inDetail settings r file := by
  rw [report, h]
  rfl

/-- A report is tried with success exactly if it can be made and shown. -/
theorem tryReport_eq_ok_iff {document : Document} :
    tryReport device terminal inv settings file r = .ok document ↔
      report inv settings file r = .ok document ∧ device.CanShow document := by
  unfold tryReport
  cases report inv settings file r with
  | error complaint => simp
  | ok made =>
    by_cases h : device.CanShow made
    · simp only [device.write_of_takes (device.takes_present_iff.mpr h), Except.map,
        Except.ok.injEq]
      exact ⟨fun heq => ⟨heq, heq ▸ h⟩, And.left⟩
    · simp only [device.write_of_not_takes (mt device.takes_present_iff.mp h), Except.map,
        Except.ok.injEq, reduceCtorEq, false_iff, not_and]
      rintro rfl
      exact h

/-- A report that can be shown if it can be made is tried as it is made. -/
theorem tryReport_eq_report (terminal : Bool)
    (h : ∀ document, report inv settings file r = .ok document → device.CanShow document) :
    tryReport device terminal inv settings file r = report inv settings file r := by
  cases hmade : report inv settings file r with
  | error complaint => simp only [tryReport, hmade]
  | ok document => exact tryReport_eq_ok_iff.mpr ⟨hmade, h document hmade⟩

/-- What keeps a report from being written is told in ASCII. -/
theorem isAscii_of_tryReport_eq_error {complaint : Text}
    (h : tryReport device terminal inv settings file r = .error complaint) :
    complaint.isAscii = true := by
  have hreport : ∀ message, report inv settings file r = .error message →
      message.isAscii = true := by
    intro message hmessage
    have hdigits : message = Text.digitsComplaint := by
      cases hjson : inv.json with
      | true =>
        rw [report_of_json hjson, map_eq_error_iff] at hmessage
        exact Text.withNumerals_eq_error hmessage
      | false =>
        rw [report_of_not_json hjson] at hmessage
        exact Text.withNumerals_eq_error hmessage
    rw [hdigits]
    exact Text.isAscii_digitsComplaint
  unfold tryReport at h
  cases hmade : report inv settings file r with
  | error message =>
    rw [hmade] at h
    exact Except.error.inj h ▸ hreport message hmade
  | ok made =>
    simp only [hmade, map_eq_error_iff] at h
    by_cases hshow : device.CanShow made
    · rw [device.write_of_takes (device.takes_present_iff.mpr hshow)] at h
      cases h
    · rw [device.write_of_not_takes (mt device.takes_present_iff.mp hshow)] at h
      exact Except.error.inj h ▸ device.isAscii_complaint _

/-- Every device shows a report as data, so that it only has to be made. -/
theorem canReport_of_json_iff (h : inv.json = true) :
    CanReport device inv settings file r ↔ r.IsWritable := by
  unfold CanReport
  rw [report_of_json h]
  constructor
  · rintro ⟨document, hdocument, -⟩
    obtain ⟨s, hs, -⟩ := map_eq_ok_iff.mp hdocument
    exact (Report.data_eq_ok_iff.mp hs).1
  · intro hwritable
    have hdata : Report.data r file = .ok (Report.value r file).write :=
      Report.data_eq_ok_iff.mpr ⟨hwritable, rfl⟩
    exact ⟨_, map_eq_ok_iff.mpr ⟨_, hdata, rfl⟩, Report.canShow_data device hdata⟩

/-- A device shows a detailed report if it takes the name of the file and shows the rest, and the
report can be made if its integers can be written. -/
theorem canReport_of_not_json_iff (h : inv.json = false) :
    CanReport device inv settings file r ↔
      (∀ n ∈ Report.shownIntegers r, Text.isShort n = true) ∧ device.Takes file ∧
        device.CanShow (Report.detailed settings r []) := by
  unfold CanReport
  simp only [report_of_not_json h, Report.inDetail_eq_ok_iff]
  constructor
  · rintro ⟨document, ⟨hshort, rfl⟩, hshow⟩
    exact ⟨hshort, (Report.canShow_detailed_iff settings r file).mp hshow⟩
  · rintro ⟨hshort, hshow⟩
    exact ⟨_, ⟨hshort, rfl⟩, (Report.canShow_detailed_iff settings r file).mpr hshow⟩

/-- On a device in UTF-8, a report can be written if the integers in the result can. -/
theorem canReport_utf8 (h : r.IsWritable) : CanReport .utf8 inv settings file r := by
  cases hjson : inv.json with
  | true => exact (canReport_of_json_iff hjson).mpr h
  | false =>
    exact (canReport_of_not_json_iff hjson).mpr
      ⟨h.isShort_of_mem_shownIntegers, Device.takes_utf8 file, Device.canShow_utf8 _⟩

/-- A result without violations can be reported exactly if its number of lines can be written and,
unless the report is one as data, the device takes the name of the file. -/
theorem canReport_of_clean_iff (h : r.violations = []) :
    CanReport device inv settings file r ↔
      Text.isShort r.lines = true ∧ (inv.json = true ∨ device.Takes file) := by
  cases hjson : inv.json with
  | true =>
    rw [canReport_of_json_iff hjson]
    constructor
    · intro hwritable
      exact ⟨hwritable.lines, .inl rfl⟩
    · rintro ⟨hlines, -⟩
      refine ⟨hlines, ?_, ?_⟩
      · simp [h]
      · rw [ScanResult.count, h]
        decide
  | false =>
    have hintegers : Report.shownIntegers r = [r.lines] := by
      simp [Report.shownIntegers, ScanResult.hasViolations, h]
    rw [canReport_of_not_json_iff hjson, hintegers, List.forall_mem_singleton,
      and_iff_left (Report.canShow_detailed_nil settings h)]
    simp

end

end CommandLine

end TemplateLint
