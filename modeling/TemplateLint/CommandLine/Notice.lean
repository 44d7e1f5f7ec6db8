import TemplateLint.CommandLine.Arguments
import TemplateLint.Style.Sheet

/-!
# Fixed texts of the program

Its name and version, the help, how to call it, and the messages about a call that cannot be
carried out.
-/

namespace TemplateLint.CommandLine

/-- The name of the program. -/
def programName : Text := "keycase-lint".toList

/-- The version of the program. -/
def version : Text := "0.1.0".toList

/-- The answer to a question for the version. -/
def versionNotice : Text := programName ++ ", version ".toList ++ version ++ ['\n']

/-- How the program is called. -/
def synopsis : Text := "Usage: ".toList ++ programName ++ " [OPTIONS] [PATHS]...\n".toList

/-- The answer to a call for help. -/
def helpNotice : Text :=
  synopsis ++ Text.unlines (
    ["",
     "  Keycase-lint: flag camelCase keys in ERB form mapping templates.",
     "",
     "Options:",
     "  --version                Show the version and exit.",
     "  --json                   Output as JSON",
     "  --color / --no-color     Force or disable colored output",
     "  --encoding TEXT          Template file encoding  [default: utf-8]",
     "  --context-width INTEGER  Context characters shown per line  [default: 81]",
     "  --verbose                Enable verbose logging",
     "  --quiet                  Suppress warnings (errors only)",
     "  --help                   Show this message and exit.",
     ""].map String.toList)

/-- The message about a fault in the command line. -/
def faultNotice (fault : UsageFault) : Text :=
  (if fault.showsUsage then
    synopsis ++ "Try '".toList ++ programName ++ " --help' for help.\n\n".toList
  else []) ++
    "Error: ".toList ++ fault.message ++ ['\n']

/-- The answer to a call with no path or with several, for a program of a given name. -/
def usage (name : Text) : Document :=
  [[.error ("Usage: ".toList ++ name ++ " <erb_file_path>".toList)],
   [],
   [.literal "Example:"],
   [.literal "  ", .bare name, .literal " output/form_mappings/vba_21p_601.json.erb"]]

/-- The one path among the paths of a call, or how many there are instead. -/
def singlePath : List Text → Except Nat Text
  | [path] => .ok path
  | paths => .error paths.length

/-- The wording of a wrong number of paths. -/
def pathCountMessage (count : Nat) : Text :=
  "Expected exactly one file path, got ".toList ++ Text.ofNat count

end TemplateLint.CommandLine
