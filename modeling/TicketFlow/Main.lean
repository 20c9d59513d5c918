import Std.Time.DateTime.Timestamp
import TicketFlow.CommandLine.Run
import TicketFlow.Time.Clock

/-!
# The command line

The program reads the arguments, the variables, the file and the clock, lets
`CommandLine.run` decide everything, and prints what comes back. Ids are random
to begin with and count on from there.
-/

namespace TicketFlow.CommandLine

-- Powers are those of plain numbers, also where monoids have powers.
attribute [local instance (high)] instPowNat

/-- The reason behind the code of a failed access, if it is one of those that are
told apart. A code can come with either sign. -/
def FileError.ofCode? (code : UInt32) : Option FileError :=
  if code = 20 ∨ code = -20 then some .notADirectory
  else if code = 21 ∨ code = -21 then some .isDirectory
  else if code = 36 ∨ code = -36 then some .nameTooLong
  else none

/-- The reason behind a failed access, if it is one of those that are told apart. -/
def FileError.of? : IO.Error → Option FileError
  | .noFileOrDirectory .. => some .notFound
  | .inappropriateType _ code _ => FileError.ofCode? code
  | .invalidArgument _ code _ => FileError.ofCode? code
  | _ => none

/-- Read a file. -/
def readDocumentFile (path : String) : IO (Except FileError String) := do
  try
    return .ok (← IO.FS.readFile path)
  catch error =>
    match FileError.of? error with
    | some reason => return .error reason
    | none => throw error

/-- The names of the variables of all settings, in capitals. -/
def variableNames : List String :=
  ["log_level", "optimize_before_compile", "json_indent"].map fun field =>
    (Settings.variableStem ++ field).toUpper

/-- The variables that are set. -/
def readEnvironment : IO (List (String × String)) := do
  let entries ← variableNames.mapM fun name => do
    return (← IO.getEnv name).map fun text => (name, text)
  return entries.filterMap fun entry? => entry?

/-- An id in the usual grouping of 32 hexadecimal digits. -/
def groupedId (n : Nat) : String :=
  let digits := Text.hexadecimal 32 (n % 2 ^ (128 : Nat))
  "-".intercalate ([(0, 8), (8, 4), (12, 4), (16, 4), (20, 12)].map fun group =>
    String.ofList ((digits.drop group.1).take group.2))

/-- Ids that count on from a random one. -/
def randomIds : IO IdSource := do
  let bytes ← IO.getRandomBytes 16
  let base := bytes.toList.foldl (fun n byte => n * 256 + byte.toNat) 0
  return ⟨[], fun n => groupedId (base + n), 0⟩

/-- The current time. -/
def currentTime : IO (Option Timestamp) := do
  let now ← Std.Time.Timestamp.now
  return Timestamp.ofUnixMicroseconds? (now.toNanosecondsSinceUnixEpoch.val.toNat / 1000)

/-- Print an outcome. -/
def printOutcome (outcome : Outcome) : IO UInt32 := do
  IO.print outcome.stdout
  IO.eprint outcome.stderr
  return outcome.exit.toUInt32

/-- How a call is written. -/
def usageText : String :=
  "usage: [-h] (path | --template KEY) [--optimize] [--json]"

/-- The text about a failure. -/
def failureText : Failure → String
  | .usage _ => usageText
  | .settings issues =>
    "\n".intercalate (issues.map fun issue => issue.field ++ ": " ++ issue.fault.name)
  | .noSource => "no workflow is named"
  | .path => "the path holds a NUL character"
  | .excess .numeral => "a numeral has too many digits"
  | .excess .nesting => "a document is nested too deep"
  | .excess .indentation | .excess .width => "the indentation is too wide"
  | .misfit (.document error) => error.message
  | .misfit (.compile .hoursOutOfRange) => "a number of hours is out of range"
  | .misfit _ => "a value does not fit its place"

/-- The exit code of a failure. -/
def failureCode : Failure → UInt32
  | .usage exit => exit.code.toUInt32
  | _ => 1

/-- Read what the call depends on. A file is read only if the arguments name one. -/
def readSurroundings (args : List String) : IO Surroundings := do
  let content ← match Request.read args with
    | .ok ⟨.path path, _, _⟩ => readDocumentFile (normalPath path)
    | _ => pure (.error .notFound)
  return ⟨← readEnvironment, ← randomIds, ← currentTime, fun _ => content⟩

/-- Run a call and print what comes of it. Only help goes to the standard output. -/
def runAndPrint (args : List String) : IO UInt32 := do
  match run (← readSurroundings args) args with
  | .ok outcome => printOutcome outcome
  | .error (.usage .help) =>
    IO.println usageText
    return 0
  | .error failure =>
    IO.eprintln (failureText failure)
    return failureCode failure

end TicketFlow.CommandLine

def main (args : List String) : IO UInt32 :=
  TicketFlow.CommandLine.runAndPrint args
