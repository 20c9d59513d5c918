import TicketFlow.Template
import TicketFlow.Text.Digit

/-!
# Arguments of the command line

A call names one source, either the path of a document or a template, and may
ask for repairs and for a full report. Long options may be shortened as long as
they stay unambiguous, a value may follow its option after an equals sign, and
two dashes end the options. All arguments are classified before any takes
effect; then they take effect from left to right, and the first misuse or
request for help ends the call. Arguments that are left over are only found at
the end.
-/

namespace TicketFlow.CommandLine

/-- Where the workflow comes from. A template option that was left without a key
names no source, although it stands for one. -/
inductive Source where
  | path (path : String)
  | template (template : Template)
  | nowhere

/-- What a call asks for. -/
structure Request where
  source : Source
  optimize : Bool
  fullReport : Bool

/-- Why a call ends before anything is done. -/
inductive UsageExit where
  | help
  | misuse
deriving DecidableEq, Repr

/-- The exit code of a call that ends early. -/
def UsageExit.code : UsageExit → Nat
  | .help => 0
  | .misuse => 2

/-- The options. -/
inductive Flag where
  | help
  | template
  | optimize
  | json
deriving DecidableEq, Repr

/-- An argument, classified. -/
inductive Token where
  /-- A path, or the value of an option. -/
  | text (s : String)
  /-- The end of the options. -/
  | divider
  /-- A long option, with the text behind its equals sign. -/
  | long (flag : Flag) (value? : Option String)
  /-- The short form of help, with what follows the letter. -/
  | short (rest : List Char)
  /-- An option that there is not. -/
  | unknown
deriving DecidableEq, Repr

/-- The long options by name. -/
def longOptions : List (String × Flag) :=
  [("--help", .help), ("--template", .template), ("--optimize", .optimize), ("--json", .json)]

/-- Whether a text is a negative number: decimal digits of any script, with at most
one point before some of them. -/
def isNegativeNumber (arg : List Char) : Bool :=
  match arg with
  | '-' :: rest =>
    let body := if rest.getLast? = some '\n' then rest.dropLast else rest
    let whole := body.takeWhile Text.isDecimalDigit
    match body.drop whole.length with
    | [] => !whole.isEmpty
    | '.' :: fraction => !fraction.isEmpty && fraction.all Text.isDecimalDigit
    | _ => false
  | _ => false

/-- Split a text at the first equals sign. -/
def splitEquals (arg : List Char) : List Char × Option (List Char) :=
  match arg.dropWhile (· ≠ '=') with
  | _ :: value => (arg.takeWhile (· ≠ '='), some value)
  | [] => (arg, none)

/-- Classify an argument that is no option by name: a negative number and a text
with a blank are texts. -/
def classifyOther (arg : List Char) : Token :=
  if isNegativeNumber arg || arg.contains ' ' then .text (String.ofList arg) else .unknown

/-- Classify an argument that begins with two dashes. -/
def classifyLong (arg : List Char) : Except UsageExit Token :=
  let (name, value?) := splitEquals arg
  let value? := value?.map String.ofList
  match longOptions.lookup (String.ofList arg) with
  | some flag => .ok (.long flag none)
  | none =>
    match longOptions.filter fun o => name.isPrefixOf o.1.toList with
    | [] => .ok (classifyOther arg)
    | [o] => .ok (.long o.2 value?)
    | _ => .error .misuse

/-- Classify an argument in front of the divider. -/
def classify (arg : String) : Except UsageExit Token :=
  match arg.toList with
  | '-' :: '-' :: rest => classifyLong ('-' :: '-' :: rest)
  | '-' :: 'h' :: rest => .ok (.short rest)
  | '-' :: c :: rest => .ok (classifyOther ('-' :: c :: rest))
  | _ => .ok (.text arg)

/-- Classify all arguments. Behind the divider everything is a text. -/
def classifyAll : List String → Except UsageExit (List Token)
  | [] => .ok []
  | arg :: rest =>
    if arg = "--" then .ok (.divider :: rest.map .text)
    else do
      let token ← classify arg
      let tokens ← classifyAll rest
      return token :: tokens

/-- What the short form of help comes to. Only further such letters may follow it,
also after an equals sign. -/
def shortHelp : List Char → UsageExit
  | ['='] => .misuse
  | '=' :: letters => if letters.all (· == 'h') then .help else .misuse
  | letters => if letters.all (· == 'h') then .help else .misuse

/-- What the arguments so far have said. -/
structure Progress where
  path? : Option String
  /-- Whether a path can still be given. -/
  pathOpen : Bool
  template? : Option Template
  /-- Whether a template option was given, with or without a key. -/
  templateGiven : Bool
  optimize : Bool
  fullReport : Bool
  /-- Whether some argument was left over. -/
  leftOver : Bool

namespace Progress

/-- Nothing said yet. -/
def start : Progress :=
  ⟨none, true, none, false, false, false, false⟩

/-- Take a path. It cannot be given beside a template. -/
def takePath (p : Progress) (path : String) : Except UsageExit Progress :=
  if p.templateGiven then .error .misuse
  else .ok { p with path? := some path, pathOpen := false }

/-- Take a template option. It cannot be given beside a path. -/
def giveTemplate (p : Progress) (template? : Option Template) : Except UsageExit Progress :=
  if p.path?.isSome then .error .misuse else .ok { p with template?, templateGiven := true }

/-- Take the key of a template. The divider in its place leaves the option without a
key. -/
def takeTemplate (p : Progress) (key : String) : Except UsageExit Progress :=
  if key = "--" then p.giveTemplate none
  else
    match Template.ofKey? key with
    | none => .error .misuse
    | some t => p.giveTemplate (some t)

/-- Leave an argument over. -/
def leave (p : Progress) : Progress :=
  { p with leftOver := true }

end Progress

/-- Let the arguments take effect from left to right. The divider belongs to the path,
before or directly behind it; anywhere else it is left over. -/
def interpret : List Token → Progress → Except UsageExit Progress
  | [], p => .ok p
  | .text s :: .divider :: rest, p =>
    if p.pathOpen then do interpret rest (← p.takePath s)
    else interpret rest p.leave
  | .text s :: rest, p =>
    if p.pathOpen then do interpret rest (← p.takePath s)
    else interpret rest p.leave
  | .divider :: rest, p => interpret rest (if p.pathOpen then p else p.leave)
  | .long .help none :: _, _ => .error .help
  | .long .optimize none :: rest, p => interpret rest { p with optimize := true }
  | .long .json none :: rest, p => interpret rest { p with fullReport := true }
  | .long .template (some key) :: rest, p => do interpret rest (← p.takeTemplate key)
  | .long .template none :: .text key :: rest, p => do interpret rest (← p.takeTemplate key)
  | .long _ _ :: _, _ => .error .misuse
  | .short rest :: _, _ => .error (shortHelp rest)
  | .unknown :: rest, p => interpret rest p.leave

/-- Read the arguments of a call. -/
def Request.read (args : List String) : Except UsageExit Request := do
  let tokens ← classifyAll args
  let p ← interpret tokens .start
  if p.leftOver then .error .misuse
  else
    match p.template?, p.path? with
    | some t, _ => return ⟨.template t, p.optimize, p.fullReport⟩
    | none, some path => return ⟨.path path, p.optimize, p.fullReport⟩
    | none, none =>
      if p.templateGiven then return ⟨.nowhere, p.optimize, p.fullReport⟩ else .error .misuse

end TicketFlow.CommandLine
