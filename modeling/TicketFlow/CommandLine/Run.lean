import TicketFlow.CommandLine.Arguments
import TicketFlow.CommandLine.Files
import TicketFlow.Json.Limit
import TicketFlow.Json.Reader
import TicketFlow.Settings
import TicketFlow.Sketch.Report
import TicketFlow.Sketch.Template

/-!
# A call of the command line

A call loads a workflow, repairs it if that is asked for, lists its issues, and
compiles it unless one of them is an error. The result goes to the standard
output as one document, everything else to the standard error: the log lines of
the set level and, without a full report, the changes and the issues.

A call is a function of its surroundings, so it can be followed without any
input or output. The workflow passes through it as a sketch, because the ids of
its surroundings need not be texts. A call works within limits: there is room for a number of nested
containers when a document is read, when a workflow is copied to be repaired, and
when a report is written.
-/

namespace TicketFlow.CommandLine

/-- What a call depends on besides its arguments. -/
structure Surroundings where
  environment : List (String × String)
  ids : IdSource
  now : Option Timestamp
  /-- Read the file under a path in normal form. -/
  readFile : String → Except FileError String

/-- What a call leaves behind. -/
structure Outcome where
  exit : Nat
  stdout : String
  stderr : String

/-- Why a call has no outcome. -/
inductive Failure where
  | usage (exit : UsageExit)
  | settings (issues : List SettingIssue)
  /-- The arguments stand for a source but name none. -/
  | noSource
  /-- A path holds a character that no path can hold. -/
  | path
  | excess (excess : Json.Excess)
  /-- A value does not fit what is to be done with it. -/
  | misfit (misfit : Misfit)

/-- What is attempted with values can be attempted in a call. -/
instance : MonadLift (Except Misfit) (Except Failure) where
  monadLift attempt := attempt.mapError .misfit

/-- The room for nested containers when a document is read. -/
def readRoom : Nat := 988

/-- The room for nested containers when a workflow is copied. -/
def copyRoom : Nat := 492

/-- The room for nested containers when a report is written. -/
def writeRoom : Nat := 991

/-- What was loaded, with the ids left, or the text of what went wrong. -/
inductive Loaded where
  | sketch (g : Sketch) (ids : IdSource)
  | unreadable (reason : String)

/-- Read a workflow from the text of a file. A text that is no JSON and a document that
defines no workflow are reported; other faults of a document end the call. -/
def loadText (s : Surroundings) (text : List Char) : Except Failure Loaded :=
  match Json.readWithin readRoom text with
  | .error ⟨.longNumeral, _⟩ => .error (.excess .numeral)
  | .error ⟨.deepNesting, _⟩ => .error (.excess .nesting)
  | .error fault => .ok (.unreadable (fault.message text))
  | .ok document =>
    match Workflow.read document with
    | .ok w => .ok (.sketch w.sketch s.ids)
    | .error error =>
      if error.isDefinition then .ok (.unreadable error.message)
      else .error (.misfit (.document error))

/-- Read the document under a path. A file that cannot be opened is reported; a path
that cannot be one ends the call. -/
def loadDocument (s : Surroundings) (path : String) : Except Failure Loaded :=
  let path := normalPath path
  if path.contains '\x00' then .error .path
  else
    match s.readFile path with
    | .error fault => .ok (.unreadable (fault.message path))
    | .ok text => loadText s (unifyLineEnds text.toList)

/-- Load the workflow of a source. -/
def load (s : Surroundings) : Source → Except Failure Loaded
  | .path path => loadDocument s path
  | .template t => do return .sketch (← t.sketch s.ids s.now) (s.ids.drop t.idCount)
  | .nowhere => .error .noSource

/-- A line. -/
def line (text : String) : String :=
  text ++ "\n"

/-- A log line, if its level is shown. -/
def logLine (settings : Settings) (level : LogLevel) (source text : String) : String :=
  if level.shownAt settings.logLevel then line (level.name ++ " " ++ source ++ ": " ++ text)
  else ""

/-- The version of a sketch, as a whole number. -/
def versionText (g : Sketch) : String :=
  toString (g.version.quantity?.getD 0).truncate

/-- The log line about what was loaded. -/
def loadedLine (settings : Settings) (g : Sketch) : String :=
  logLine settings .info "compile_workflow"
    ("Loaded workflow " ++ g.name.display ++ " (" ++ g.id.display ++ ") v" ++ versionText g)

/-- The log lines about a repair. -/
def repairLines (settings : Settings) (r : Sketch.Repaired) : String :=
  let log := logLine settings .debug "workflow_compiler.optimizer"
  let id := r.sketch.id.display
  String.join (r.changes.map fun c => log ("Workflow " ++ id ++ ": " ++ c.description)) ++
    log ("Optimized workflow " ++ id ++ ": " ++ toString r.changes.length ++
      " change(s), now version " ++ versionText r.sketch)

/-- The log line about the issues. -/
def validatedLine (settings : Settings) (g : Sketch) (issues : List Sketch.Issue) : String :=
  let errors := issues.countP Sketch.Issue.isError
  logLine settings .debug "workflow_compiler.validator"
    ("Validated workflow " ++ g.id.display ++ ": " ++ toString errors ++ " error(s), " ++
      toString (issues.length - errors) ++ " warning(s)")

/-- The log line about the rules. -/
def compiledLine (settings : Settings) (g : Sketch) (rules : List Sketch.Rule) : String :=
  logLine settings .debug "workflow_compiler.decomposer"
    ("Decomposed workflow " ++ g.id.display ++ " into " ++ toString rules.length ++ " rule(s)")

/-- The printed line of a change. -/
def changeLine (c : Sketch.Change) : String :=
  line ("  fixed [" ++ c.kind.name ++ "] " ++ c.description)

/-- The printed line of an issue, its severity padded to a column. -/
def issueLine (issue : Sketch.Issue) : String :=
  let severity := issue.severity.name
  line ("  " ++ severity ++ String.ofList (List.replicate (7 - severity.length) ' ') ++ " " ++
    issue.message)

/-- Text that is printed unless a full report is asked for. -/
def unlessFull (request : Request) (text : String) : String :=
  if request.fullReport then "" else text

/-- A document as it is printed. -/
def printed (settings : Settings) (v : Value) : Except Failure String :=
  ((Json.writeWithin writeRoom settings.jsonIndent v).map line).mapError .excess

/-- Go on from the sketch to be compiled. `report` holds what a full report begins
with, and `log` what was written to the standard error so far. -/
def conclude (settings : Settings) (request : Request) (now : Option Timestamp)
    (g : Sketch) (report : List (String × Value)) (log : String) : Except Failure Outcome := do
  let issues ← g.findings
  let log := log ++ validatedLine settings g issues ++
    unlessFull request (String.join (issues.map issueLine))
  let report := report ++ [("validation", Sketch.Issue.listing issues)]
  if issues.any Sketch.Issue.isError then
    if request.fullReport then return ⟨1, ← printed settings (.object report), log⟩
    else return ⟨1, "", log ++ line "Workflow has validation errors; not compiling."⟩
  else
    let rules ← g.rules
    let log := log ++ compiledLine settings g rules
    let content ← g.exportValue rules now
    return ⟨0, ← printed settings
      (if request.fullReport then .object (report ++ [("export", content)]) else content), log⟩

/-- Go on from what was loaded. -/
def process (settings : Settings) (request : Request) (now : Option Timestamp)
    (g : Sketch) (ids : IdSource) : Except Failure Outcome := do
  let log := loadedLine settings g
  if !(request.optimize || settings.optimizeBeforeCompile) then
    conclude settings request now g [] log
  else if copyRoom < (← g.document).depth then throw (.excess .nesting)
  else
    let r ← g.repaired ids now
    conclude settings request now r.sketch [("optimize", ← r.toValue)]
      (log ++ repairLines settings r ++
        unlessFull request (String.join (r.changes.map changeLine)))

/-- Run a call. The settings are read before the arguments. -/
def run (s : Surroundings) (args : List String) : Except Failure Outcome := do
  let settings ← (Settings.read s.environment).mapError .settings
  let request ← (Request.read args).mapError .usage
  match ← load s request.source with
  | .unreadable reason => return ⟨1, "", line ("Cannot load workflow: " ++ reason)⟩
  | .sketch g ids => process settings request s.now g ids

end TicketFlow.CommandLine
