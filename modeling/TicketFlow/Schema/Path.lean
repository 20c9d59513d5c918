import TicketFlow.Text.Quoted

/-!
# Places in a document

A path leads from the root of a document to a value, through object keys and
array indices. Paths are ordered element by element, a shorter one before its
continuations. A key and an index are not comparable; inside one document they
never meet, because the value above decides which of the two follows.
-/

namespace TicketFlow

/-- One step into a document. -/
inductive Step where
  | key (name : String)
  | index (i : Nat)
deriving DecidableEq, Repr

/-- A place in a document, from the root. -/
abbrev Path := List Step

namespace Step

/-- Compare two steps of the same kind. -/
def compare? : Step → Step → Option Ordering
  | .key a, .key b => some (compareOfLessAndEq a b)
  | .index i, .index j => some (compare i j)
  | _, _ => none

/-- A name that can follow a point: a letter, then letters, digits and
underscores, and possibly one line feed at the end. -/
def isPlainName (name : String) : Bool :=
  let chars := name.toList
  let body := if chars.getLast? = some '\n' then chars.dropLast else chars
  match body with
  | [] => false
  | first :: rest => first.isAlpha && rest.all fun c => c.isAlphanum || c == '_'

/-- The characters of a name between brackets. -/
def escapedName (name : String) : String :=
  String.ofList (name.toList.flatMap fun c =>
    if c = Text.backslash ∨ c = Text.apostrophe then [Text.backslash, c] else [c])

/-- The text of a step. -/
def text : Step → String
  | .index i => "[" ++ toString i ++ "]"
  | .key name => if isPlainName name then "." ++ name else "['" ++ escapedName name ++ "']"

end Step

namespace Path

/-- Compare two paths: at the first difference, or by length. -/
def compare? : Path → Path → Option Ordering
  | [], [] => some .eq
  | [], _ :: _ => some .lt
  | _ :: _, [] => some .gt
  | a :: p, b :: q =>
    match a.compare? b with
    | some .eq => compare? p q
    | other => other

/-- Whether a path does not come after another. -/
def le (p q : Path) : Bool :=
  compare? p q != some .gt

/-- The text of a path; the root is a dollar sign. -/
def text (path : Path) : String :=
  "$" ++ String.join (path.map Step.text)

@[simp] theorem text_nil : text [] = "$" := rfl

end Path

end TicketFlow
