import Rulebook.Data.Shape
import Rulebook.Toml.Reader

/-!
# Data in TOML

A value is read by its shape. A record may be written as an array of its fields; a moment is a record of
which no field is known.
-/

namespace Rulebook.Toml

/-- Reads a value of a shape. -/
abbrev ShapeReader := Value → Option Json

namespace Value

def text? : Value → Option Json
  | string s => some (.string s)
  | _ => none

def flag? : Value → Option Json
  | bool b => some (.bool b)
  | _ => none

def count? : Value → Option Json
  | int n => if 0 ≤ n then some (.number (.int n)) else none
  | _ => none

/-- The fields of a record that a table gives. -/
def fields? (readers : List (String × ShapeReader)) : Entries → Option (List (String × Json))
  | [] => some []
  | (key, v) :: rest => do
    let later ← fields? readers rest
    match readers.lookup key with
    | none => return later
    | some reader => return (key, ← reader v) :: later

/-- The fields of a record that an array gives in their order; the last may be missing. -/
def fieldsOf? : List (String × ShapeReader) → List Value → Option (List (String × Json))
  | (key, reader) :: readers, v :: vs => do
    let field ← reader v
    return (key, field) :: (← fieldsOf? readers vs)
  | _, _ => some []

def record? (readers : List (String × ShapeReader)) : Value → Option Json
  | table _ entries => (fields? readers entries).map .object
  | array items => (fieldsOf? readers items).map .object
  | tables parts => (fieldsOf? readers (parts.map (table .header))).map .object
  | moment => some (.object [])
  | _ => none

end Value

mutual

def shapeReader : Shape → ShapeReader
  | .text | .path => Value.text?
  | .flag => Value.flag?
  | .count => Value.count?
  | .optional inner => shapeReader inner
  | .record _ fields => Value.record? (fieldReaders fields)

def fieldReaders : List (String × Shape) → List (String × ShapeReader)
  | [] => []
  | (name, s) :: rest => (name, shapeReader s) :: fieldReaders rest

end

/-- The document of a shape that a text holds. -/
def decodeShape? (s : Shape) (text : String) : Option Json :=
  (Entries.ofText? text).bind fun entries => shapeReader s (.table .header entries)

end Rulebook.Toml
