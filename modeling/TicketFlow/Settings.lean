import TicketFlow.Json.Scalar
import TicketFlow.Text.Lowered

/-!
# Settings

The command line takes three settings from named texts, the variables of its
environment. Names are matched without regard to case, and of several spellings
of a name the last one counts. A missing variable leaves the default, a text
that cannot be read is an issue of its setting, and all issues are reported, in
the order of the settings.
-/

namespace TicketFlow

/-- How much is logged. -/
inductive LogLevel where
  | debug
  | info
  | warning
  | error
deriving DecidableEq, Repr

namespace LogLevel

/-- The name of a level. -/
def name : LogLevel → String
  | .debug => "DEBUG"
  | .info => "INFO"
  | .warning => "WARNING"
  | .error => "ERROR"

/-- The level with a name. -/
def ofName? (name : String) : Option LogLevel :=
  [LogLevel.debug, .info, .warning, .error].find? fun l => l.name == name

/-- The rank of a level. -/
def rank : LogLevel → Nat
  | .debug => 0
  | .info => 1
  | .warning => 2
  | .error => 3

/-- Whether messages of a level are written when another level is set. -/
def shownAt (message threshold : LogLevel) : Bool :=
  threshold.rank ≤ message.rank

end LogLevel

/-- The settings of the command line. -/
structure Settings where
  logLevel : LogLevel
  /-- Repair before compiling even when it is not asked for. -/
  optimizeBeforeCompile : Bool
  jsonIndent : Int

/-- The kinds of texts that settings cannot be read from. -/
inductive SettingFault where
  | literal
  | boolean
  | integer
  /-- A text that begins with too many digits for a whole number. -/
  | integerSize
deriving DecidableEq, Repr

/-- A setting, and what its text is not. -/
structure SettingIssue where
  field : String
  fault : SettingFault
deriving DecidableEq, Repr

namespace SettingFault

/-- The name of a kind of fault. -/
def name : SettingFault → String
  | .literal => "literal_error"
  | .boolean => "bool_parsing"
  | .integer => "int_parsing"
  | .integerSize => "int_parsing_size"

end SettingFault

namespace Settings

/-- The settings without any variables. -/
def default : Settings :=
  ⟨.warning, false, 2⟩

/-- What the names of all variables begin with. -/
def variableStem : String := "workflow_compiler_"

/-- The text of the variable for a field. -/
def textOf? (environment : List (String × String)) (field : String) : Option String :=
  let wanted := (variableStem ++ field).toList
  (environment.reverse.find? fun e => Text.lowered e.1 == wanted).map Prod.snd

/-- Read a truth value. -/
def readBool (text : String) : Except SettingFault Bool :=
  let word := String.ofList (text.toList.map Char.toLower)
  if word ∈ ["1", "true", "t", "yes", "y", "on"] then .ok true
  else if word ∈ ["0", "false", "f", "no", "n", "off"] then .ok false
  else .error .boolean

/-- Whether a character counts as a blank around a number. -/
def isSpace (c : Char) : Bool :=
  let n := c.toNat
  (9 ≤ n && n ≤ 13) || n == 0x20 || n == 0x85 || n == 0xa0 || n == 0x1680 ||
    (0x2000 ≤ n && n ≤ 0x200a) || n == 0x2028 || n == 0x2029 || n == 0x202f || n == 0x205f ||
    n == 0x3000

/-- A text without the blanks at its ends. -/
def strip (text : List Char) : List Char :=
  ((text.dropWhile isSpace).reverse.dropWhile isSpace).reverse

/-- A text without a plus sign in front. No second sign may follow it. -/
def withoutPlus? : List Char → Option (List Char)
  | '+' :: rest => if rest.head? = some '+' ∨ rest.head? = some '-' then none else some rest
  | text => some text

/-- A text without its fraction, which has to consist of zeros. -/
def withoutFraction? (text : List Char) : Option (List Char) :=
  let whole := text.takeWhile (· ≠ '.')
  match text.drop whole.length with
  | [] => some text
  | _ :: fraction => if fraction ≠ [] ∧ fraction.all (· == '0') then some whole else none

/-- A text without the zeros in front, and without the underscores that follow the
first of them. What remains begins with a digit or a minus sign; of nothing but zeros
and underscores the last character remains. -/
def withoutZeros? (text : List Char) : Option (List Char) :=
  let rest := match text with
    | '0' :: _ => text.dropWhile fun c => c = '0' ∨ c = '_'
    | _ => text
  match rest with
  | [] => text.getLast?.map fun c => [c]
  | c :: _ => if c.isDigit ∨ c = '-' then some rest else none

/-- A text without zeros in front, behind a minus sign if there is one. -/
def significant? : List Char → Option (List Char)
  | '-' :: rest => (withoutZeros? rest).map ('-' :: ·)
  | text => withoutZeros? text

/-- A text without its underscores. None stands at an end or beside another one. -/
def withoutUnderscores? (text : List Char) : Option (List Char) :=
  if (text.splitOn '_').all (· ≠ []) then some (text.filter (· ≠ '_')) else none

/-- The numeral that the text of a whole number comes down to: blanks around it, a
plus sign, a fraction of zeros, zeros in front and underscores between digits are
allowed. -/
def numeral? (text : String) : Option (List Char) := do
  let whole ← withoutFraction? (← withoutPlus? (strip text.toList))
  withoutUnderscores? (← significant? whole)

/-- Read the digits of a whole number. -/
def readDigits (negative : Bool) (digits : List Char) : Except SettingFault Int :=
  if digits = [] ∨ !digits.all Char.isDigit ∨ digits.head? = some '0' ∧ digits ≠ ['0'] ∨
      Json.Numeral.maxDigits < digits.length then
    .error .integer
  else .ok (Double.signed negative (Json.digitsValue digits))

/-- The digits that a text begins with, behind a minus sign if there is one. -/
def leadingDigits : List Char → List Char
  | '-' :: rest => rest.takeWhile Char.isDigit
  | text => text.takeWhile Char.isDigit

/-- Whether a text as it stands begins with too many digits to be a whole number. Only
what begins like a numeral is measured: behind a blank, a plus sign or a needless zero
there is none. -/
def isOversized (text : List Char) : Bool :=
  let digits := leadingDigits text
  digits.head? != some '0' && Json.Numeral.maxDigits < digits.length

/-- Read a whole number. Too many digits are a fault of their own only if they are seen
before the text is brought down to a numeral. -/
def readInt (text : String) : Except SettingFault Int :=
  if isOversized text.toList then .error .integerSize
  else
    match numeral? text with
    | none => .error .integer
    | some ('-' :: digits) => readDigits true digits
    | some digits => readDigits false digits

/-- Read a level. -/
def readLevel (text : String) : Except SettingFault LogLevel :=
  match LogLevel.ofName? text with
  | some level => .ok level
  | none => .error .literal

/-- Read one setting, or take its default. -/
def readField {α : Type} (environment : List (String × String)) (field : String)
    (default : α) (readText : String → Except SettingFault α) : Except SettingIssue α :=
  match textOf? environment field with
  | none => .ok default
  | some text => (readText text).mapError fun fault => ⟨field, fault⟩

/-- The issue of a setting, if it has one. -/
def issueOf {α : Type} : Except SettingIssue α → List SettingIssue
  | .ok _ => []
  | .error issue => [issue]

/-- Read all settings. -/
def read (environment : List (String × String)) : Except (List SettingIssue) Settings :=
  let level := readField environment "log_level" default.logLevel readLevel
  let optimize :=
    readField environment "optimize_before_compile" default.optimizeBeforeCompile readBool
  let indent := readField environment "json_indent" default.jsonIndent readInt
  match level, optimize, indent with
  | .ok level, .ok optimize, .ok indent => .ok ⟨level, optimize, indent⟩
  | _, _, _ => .error (issueOf level ++ issueOf optimize ++ issueOf indent)

end Settings

end TicketFlow
