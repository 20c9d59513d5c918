import TicketFlow.Schema.Basic

/-!
# Errors of documents

Why a document is not read as a workflow, a rule or a part of one. A schema
error carries all violations, sorted by place. The last four causes concern
parts that are read without a schema, or fields that no schema speaks of.
-/

namespace TicketFlow

/-- The name of the export format. -/
def exportFormat : String := "cliaas-workflow-v1"

/-- Why a document could not be read. -/
inductive ReadError where
  /-- The schema of workflow documents is violated. -/
  | schema (violations : List Violation)
  /-- An export is in another format. -/
  | format (found : Value)
  /-- A node is stored under a key that is not its id. -/
  | keyMismatch (key id : String)
  /-- A text is no timestamp. -/
  | timestamp (text : String)
  /-- A field that is always needed is missing. -/
  | missingKey (key : String)
  /-- A value is of a kind that has no parts to read. -/
  | wrongKind
  /-- A value that must be an object is none. -/
  | notAnObject
  /-- A type name is unknown. -/
  | unknownType (name : String)

namespace ReadError

/-- The lines that report an error piece by piece. -/
def lines : ReadError → List String
  | .schema violations => violations.map Violation.line
  | .format _ => ["  - $.format: expected '" ++ exportFormat ++ "'"]
  | _ => []

/-- The wording of an error. -/
def message : ReadError → String
  | .schema violations =>
    "Workflow schema validation failed with " ++ toString violations.length ++ " error(s):\n" ++
      "\n".intercalate (violations.map Violation.line)
  | .format found => "Unsupported export format: '" ++ found.display ++ "'"
  | .keyMismatch key id =>
    "Node key '" ++ key ++ "' does not match node id '" ++ id ++ "'"
  | .timestamp text => "Invalid timestamp: '" ++ text ++ "'"
  | .missingKey key => Text.quoted key
  | .wrongKind => "value of the wrong kind"
  | .notAnObject => "value is not an object"
  | .unknownType name => "unknown type " ++ Text.quoted name

/-- Whether an error says that the document does not define a workflow. -/
def isDefinition : ReadError → Bool
  | .schema _ | .format _ | .keyMismatch _ _ | .timestamp _ => true
  | _ => false

end ReadError

end TicketFlow
