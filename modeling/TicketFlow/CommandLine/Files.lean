import TicketFlow.Text.Quoted

/-!
# Files of the command line

A path is put into normal form before a file is opened: empty parts and parts
that mean the same directory are dropped, and the empty path is the current
directory. Then it is followed part by part, and the first part that leads
nowhere tells why there is no file. Line ends are unified when a text is read.
-/

namespace TicketFlow.CommandLine

/-- Why a file cannot be read. -/
inductive FileError where
  | notFound
  | notADirectory
  | isDirectory
  | nameTooLong
deriving DecidableEq, Repr

namespace FileError

/-- The wording of an error about a path. -/
def message (path : String) : FileError → String
  | .notFound => "[Errno 2] No such file or directory: " ++ Text.quoted path
  | .notADirectory => "[Errno 20] Not a directory: " ++ Text.quoted path
  | .isDirectory => "[Errno 21] Is a directory: " ++ Text.quoted path
  | .nameTooLong => "[Errno 36] File name too long: " ++ Text.quoted path

end FileError

/-- The parts of a path, without those that are empty or a single point. -/
def pathParts (path : List Char) : List (List Char) :=
  (path.splitOn '/').filter fun part => part ≠ [] ∧ part ≠ ['.']

/-- What an absolute path begins with. Exactly two slashes are kept. -/
def pathRoot (path : List Char) : String :=
  match path with
  | '/' :: '/' :: '/' :: _ => "/"
  | '/' :: '/' :: _ => "//"
  | '/' :: _ => "/"
  | _ => ""

/-- The normal form of a path. -/
def normalPath (path : String) : String :=
  let chars := path.toList
  let text := pathRoot chars ++ "/".intercalate ((pathParts chars).map String.ofList)
  if text = "" then "." else text

/-- A place of a file or directory: below the root, or below a directory some levels
above the current one. -/
structure Place where
  /-- The number of levels above the current directory; none below the root. -/
  above? : Option Nat
  parts : List (List Char)
deriving DecidableEq

namespace Place

/-- Where a path is followed from. -/
def base (path : List Char) : Place :=
  ⟨if path.head? = some '/' then none else some 0, []⟩

/-- The directory that holds a place. The root holds itself. -/
def parent (p : Place) : Place :=
  match p.parts with
  | [] => { p with above? := p.above?.map (· + 1) }
  | parts => { p with parts := parts.dropLast }

/-- The place that a part of a path leads to. -/
def step (p : Place) (part : List Char) : Place :=
  if part = ['.', '.'] then p.parent else { p with parts := p.parts ++ [part] }

/-- The place that a path leads to. -/
def ofPath (path : String) : Place :=
  (pathParts path.toList).foldl step (base path.toList)

/-- Whether there is something at a place, if there are files at some others: a file,
a directory on the way to one, or a directory that is always there. -/
def isTaken (p : Place) (files : List Place) : Bool :=
  p.parts.isEmpty || files.any fun q => p.above? == q.above? && p.parts.isPrefixOf q.parts

end Place

/-- The most bytes that a part of a path may have. -/
def maxPartBytes : Nat := 255

/-- The most bytes that a path may have. -/
def maxPathBytes : Nat := 4095

/-- Follow the parts of a path from a place to the file there. -/
def follow (files : List (Place × String)) (p : Place) : List (List Char) →
    Except FileError String
  | [] =>
    match (files.find? fun f => f.1 == p).map Prod.snd with
    | some text => .ok text
    | none => .error .isDirectory
  | part :: rest =>
    let next := p.step part
    if files.any fun f => f.1 == p then .error .notADirectory
    else if maxPartBytes < (String.ofList part).utf8ByteSize then .error .nameTooLong
    else if next.isTaken (files.map Prod.fst) then follow files next rest
    else .error .notFound

/-- The file under a path in normal form, in a current directory that holds some
files. Of files in one place the last one counts. -/
def lookupFile (files : List (String × String)) (path : String) : Except FileError String :=
  if maxPathBytes < path.utf8ByteSize then .error .nameTooLong
  else
    follow (files.reverse.map fun f => (Place.ofPath f.1, f.2)) (Place.base path.toList)
      (pathParts path.toList)

/-- A text with every line end as a line feed. -/
def unifyLineEnds : List Char → List Char
  | [] => []
  | '\r' :: '\n' :: rest => '\n' :: unifyLineEnds rest
  | '\r' :: rest => '\n' :: unifyLineEnds rest
  | c :: rest => c :: unifyLineEnds rest

end TicketFlow.CommandLine
