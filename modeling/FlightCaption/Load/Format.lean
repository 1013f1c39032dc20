import FlightCaption.Document.Reader

/-!
# Document formats

Snapshots, settings and calendars are written in YAML or in JSON. A file's format follows from the
extension of its name, and each format has a reader.
-/

namespace FlightCaption

/-! ## Formats and extensions -/

/-- How a document is written. -/
inductive Format where
  | yaml
  | json
deriving DecidableEq, Repr

/-- The parts of a path between slashes. Empty parts and single dots mean nothing. -/
def pathParts (path : String) : List String :=
  ((path.toList.splitOn '/').map String.ofList).filter fun part => part ≠ "" ∧ part ≠ "."

/-- The extension of a file name: what stands behind its last dot, unless that is its first
character. -/
def nameExtension? (name : List Char) : Option (List Char) :=
  let tail := (name.reverse.takeWhile (· ≠ '.')).reverse
  if tail.length + 1 < name.length then some tail else none

/-- The extension of the file that a path names; a path that ends in two dots names none. -/
def extension? (path : String) : Option String :=
  match (pathParts path).getLast? with
  | none => none
  | some name =>
    if name = ".." then none else (nameExtension? name.toList).map String.ofList

/-- The format that a path's extension stands for. -/
def Format.ofPath? (path : String) : Option Format :=
  match extension? path with
  | some "yaml" => some yaml
  | some "yml" => some yaml
  | some "json" => some json
  | _ => none

/-! ## Readers of the formats -/

/-- A reader for each format. -/
structure Readers where
  yaml : Document.Reader
  json : Document.Reader

/-- The reader of a format. -/
def Format.reader (readers : Readers) : Format → Document.Reader
  | yaml => readers.yaml
  | json => readers.json

end FlightCaption
