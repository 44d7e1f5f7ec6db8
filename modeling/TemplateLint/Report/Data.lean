import TemplateLint.Json.Writer
import TemplateLint.Scan.Line

/-!
# The report as data

The same result as a JSON value: the file, the number of lines, the violations and a summary.
-/

namespace TemplateLint.Report

open Json (Value)

/-- A violation as a value. -/
def violationValue (v : Violation) : Value :=
  .object
    [("line_number".toList, .int v.line), ("offending_key".toList, .text v.key),
     ("suggested_key".toList, .text v.suggestion), ("context".toList, .text v.context)]

/-- A result about a file as a value. -/
def value (r : ScanResult) (file : Text) : Value :=
  .object
    [("file".toList, .text file), ("total_lines_scanned".toList, .int r.lines),
     ("violations".toList, .list (r.violations.map violationValue)),
     ("summary".toList, .object [("total_violations".toList, .int r.count)])]

/-- The written form of a result about a file, if its integers can be written. -/
def data (r : ScanResult) (file : Text) : Except Text Text := (value r file).dump

end TemplateLint.Report
