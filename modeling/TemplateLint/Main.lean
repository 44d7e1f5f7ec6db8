import TemplateLint.CommandLine.Run

/-!
# The program

The outer layer: it asks the machine about the file that the command line names, runs the command
line on the answer, writes the two streams and returns the exit code. Standard output is in UTF-8.
-/

namespace TemplateLint

/-- The code and the reason of an error of the operating system. -/
def SystemError.ofIO : IO.Error → SystemError
  | .alreadyExists _ code reason | .otherError code reason | .resourceBusy code reason
  | .resourceVanished code reason | .unsupportedOperation code reason | .hardwareFault code reason
  | .unsatisfiedConstraints code reason | .illegalOperation code reason
  | .protocolError code reason | .timeExpired code reason | .interrupted _ code reason
  | .noFileOrDirectory _ code reason | .invalidArgument _ code reason
  | .permissionDenied _ code reason | .resourceExhausted _ code reason
  | .inappropriateType _ code reason | .noSuchThing _ code reason => ⟨code.toNat, reason.toList⟩
  | .unexpectedEof => ⟨0, []⟩
  | .userError reason => ⟨0, reason.toList⟩

/-- The codes of the errors that say that nothing is there: no entry, a bad descriptor, no directory
on the way, too many links. -/
def missingCodes : List Nat := [2, 9, 20, 40]

/-- Whether the machine's file system can say where a path leads. -/
def isFound (path : Path) : IO Bool := do
  try
    let _ ← IO.FS.realPath (String.ofList path.toText)
    return true
  catch _ => return false

/-- What the machine's file system answers about a path. A file is opened to see whether it may be
read; a path that cannot be opened but leads somewhere passes the check for its existence. -/
def probeFile (path : Path) : IO Probe := do
  if path.toText.contains '\x00' then return .missing
  try
    let bytes ← IO.FS.readBinFile (String.ofList path.toText)
    return .present (.regular bytes.toList) true
  catch failure =>
    let error := SystemError.ofIO failure
    if missingCodes.contains error.code then return .missing
    else if ← isFound path then
      return .present (.closed error) (error.code != SystemError.permissionDenied.code)
    else return .refused error

/-- The answer about the path that a command line asks to scan. -/
def probeArguments (args : List Text) : IO Probe :=
  match CommandLine.Request.ofArguments args with
  | .ok (.scan inv) =>
    match CommandLine.singlePath inv.paths with
    | .ok file => probeFile (Path.ofText file)
    | .error _ => return .missing
  | _ => return .missing

/-- A run of the program on a command line. -/
def runProgram (args : List Text) : IO UInt32 := do
  let probe ← probeArguments args
  let output ← IO.getStdout
  let terminal ← output.isTty
  match (CommandLine.run .utf8 (.ofFileSystem fun _ => probe) terminal args {}).1 with
  | .error abort =>
    (← IO.getStderr).putStrLn (String.ofList abort.message)
    return 1
  | .ok outcome =>
    output.putStr (String.ofList outcome.standardOutput)
    (← IO.getStderr).putStr (String.ofList outcome.standardError)
    if let some complaint := outcome.breakdown then
      (← IO.getStderr).putStrLn (String.ofList complaint)
    return outcome.exitCode.toUInt32

end TemplateLint

/-- The entry point of the program. -/
def main (args : List String) : IO UInt32 := TemplateLint.runProgram (args.map String.toList)
