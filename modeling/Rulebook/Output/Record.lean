import Rulebook.Data.Shape
import Rulebook.Issue

/-!
# Reports as documents

A report is a record of whether it is ok and of its issues in their order; an issue is a record of its
four parts, which may also be written as an array of them.
-/

namespace Rulebook

def Issue.record (i : Issue) : Json :=
  .object [("level", .string i.level.text), ("code", .string i.code), ("message", .string i.message),
    ("path", .array (i.path.map .string))]

def Report.record (r : Report) : Json :=
  .object [("ok", .bool r.ok), ("issues", .array (r.issues.map Issue.record))]

namespace Issue

/-- What is read, or why it cannot be. -/
abbrev Reading (α : Type) := Except DataFault α

def readText : Json → Reading String
  | .string s => .ok s
  | v => .error (.wrongType (DataFault.found v) Shape.text.expected)

def readList {α : Type} (read : Json → Reading α) : Json → Reading (List α)
  | .array items => items.mapM read
  | v => .error (.wrongType (DataFault.found v) "a sequence")

def levelNamed (name : String) : Reading Level :=
  match [Level.warning, .error].find? fun l => l.text = name with
  | some l => .ok l
  | none => .error (.unknownVariant name ["warning", "error"])

/-- A level by its name, which may also be the only key of an object, with nothing under it. -/
def readLevel : Json → Reading Level
  | .string name => levelNamed name
  | .object [(name, v)] => do
    let level ← levelNamed name
    match v with
    | .null => return level
    | v => throw (.wrongType (DataFault.found v) "unit")
  | .object _ => .error (.wrongValue "map" "map with a single key")
  | v => .error (.wrongType (DataFault.found v) "string or map")

/-- The parts of an issue that were read so far. -/
structure Parts where
  level : Option Level := none
  code : Option String := none
  message : Option String := none
  path : Option (List String) := none

def Parts.add (p : Parts) (name : String) (v : Json) : Reading Parts :=
  match name with
  | "level" => (readLevel v).map fun x => { p with level := some x }
  | "code" => (readText v).map fun x => { p with code := some x }
  | "message" => (readText v).map fun x => { p with message := some x }
  | "path" => (readList readText v).map fun x => { p with path := some x }
  | _ => .ok p

/-- Reads parts by their names. -/
def Parts.ofMembers (members : List (String × Json)) : Reading Parts :=
  members.foldlM (fun (p : Parts) (name, v) => p.add name v) {}

def names : List String := ["level", "code", "message", "path"]

/-- An issue of whose parts none may be missing. -/
def Parts.finish (p : Parts) : Reading Issue :=
  match p.level, p.code, p.message, p.path with
  | some level, some code, some message, some path => .ok ⟨level, code, message, path⟩
  | none, _, _, _ => .error (.missingField "level")
  | _, none, _, _ => .error (.missingField "code")
  | _, _, none, _ => .error (.missingField "message")
  | _, _, _, none => .error (.missingField "path")

/-- The issue that a document writes. -/
def ofRecord : Json → Reading Issue
  | .object members => do
    let parts ← Parts.ofMembers members
    parts.finish
  | .array items => do
    let parts ← Parts.ofMembers (names.zip items)
    if items.length < names.length then
      throw (.wrongLength items.length "struct Issue with 4 elements")
    if names.length < items.length then
      throw (.wrongLength items.length "fewer elements in array")
    parts.finish
  | v => .error (.wrongType (DataFault.found v) "struct Issue")

/-- The issues that a document writes. -/
def listOfRecord (v : Json) : Reading (List Issue) := readList ofRecord v

end Issue

end Rulebook
