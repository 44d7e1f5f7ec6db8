import TemplateLint.CommandLine.Arguments
import TemplateLint.CommandLine.Device
import TemplateLint.CommandLine.Notice
import TemplateLint.CommandLine.Run
import TemplateLint.Decimal.Basic
import TemplateLint.Decimal.Binary64
import TemplateLint.Decimal.Shortest
import TemplateLint.Encoding.Codec
import TemplateLint.Encoding.Front
import TemplateLint.Encoding.Name
import TemplateLint.Encoding.SingleByte
import TemplateLint.Encoding.Utf8
import TemplateLint.Encoding.Wide
import TemplateLint.File.Path
import TemplateLint.File.System
import TemplateLint.File.Tree
import TemplateLint.Json.Display
import TemplateLint.Json.Reader
import TemplateLint.Json.Value
import TemplateLint.Json.Writer
import TemplateLint.Key.Candidate
import TemplateLint.Key.Casing
import TemplateLint.Key.Delimiter
import TemplateLint.Log.Basic
import TemplateLint.Main
import TemplateLint.Report.Data
import TemplateLint.Report.Detailed
import TemplateLint.Scan.Failure
import TemplateLint.Scan.File
import TemplateLint.Scan.Line
import TemplateLint.Settings.Basic
import TemplateLint.Settings.Complaint
import TemplateLint.Settings.Numeral
import TemplateLint.Style.Basic
import TemplateLint.Style.Sheet
import TemplateLint.Style.Strip
import TemplateLint.Text.Basic
import TemplateLint.Text.Blank
import TemplateLint.Text.CaseContext
import TemplateLint.Text.CaseTable
import TemplateLint.Text.DecimalDigit
import TemplateLint.Text.Line
import TemplateLint.Text.Lowercase
import TemplateLint.Text.Numeral
import TemplateLint.Text.Printable
import TemplateLint.Text.Quoted
import TemplateLint.Text.Range
import TemplateLint.Text.Similarity
import TemplateLint.Proofs.File.Tree
import TemplateLint.Proofs.Encoding.Stretch
import TemplateLint.Proofs.Text.Ascii
import TemplateLint.Proofs.Encoding.Utf8
import TemplateLint.Proofs.Scan.Utf8File
import TemplateLint.Proofs.Key.Cell
import TemplateLint.Proofs.Key.Respelling
import TemplateLint.Proofs.CommandLine.ExitCode
import TemplateLint.Proofs.Encoding.Mark
import TemplateLint.Proofs.CommandLine.Surprise
import TemplateLint.Proofs.Log.History
import TemplateLint.Proofs.Scan.Violation
import TemplateLint.Proofs.Encoding.RoundTrip
import TemplateLint.Proofs.Scan.EncodedFile
import TemplateLint.Proofs.Json.RoundTrip
import TemplateLint.Proofs.Style.Strip
import TemplateLint.Proofs.Report.Data
import TemplateLint.Proofs.CommandLine.Device
import TemplateLint.Proofs.CommandLine.Report
import TemplateLint.Proofs.CommandLine.Colour
import TemplateLint.Proofs.CommandLine.Presentation
import TemplateLint.Proofs.Scan.Concatenation
import TemplateLint.Proofs.Key.Appended
import TemplateLint.Proofs.Key.Occurrence
import TemplateLint.Proofs.Key.Extraction
import TemplateLint.Proofs.Scan.LineEnd
import TemplateLint.Proofs.Scan.LongerLine
import TemplateLint.Proofs.Scan.Margin
import TemplateLint.Proofs.Key.Written
import TemplateLint.Proofs.Scan.ListedCall
import TemplateLint.Proofs.Key.Pieces
import TemplateLint.Proofs.Key.Suggestion
import TemplateLint.Proofs.CommandLine.Discipline
import TemplateLint.Proofs.CommandLine.Spelling
import TemplateLint.Proofs.Report.Detailed
