import Rulebook.Data.Shape
import Rulebook.Yaml.Node
import Rulebook.Yaml.Plain

/-!
# Data in YAML

Only plain texts mean something else than themselves, unless a tag of the standard says so. A collection
may lie in no more than `maxDepth` others, and references are followed only so often.
-/

namespace Rulebook.Yaml

/-! ## Texts -/

namespace Scalar

def standardTag (name : String) : String := "tag:yaml.org,2002:" ++ name

def hasTag (s : Scalar) (name : String) : Bool := s.tag = some (standardTag name)

/-- Whether a tag is not of the standard. -/
def hasOwnTag (tag : Option String) : Bool := tag.any (·.startsWith "!")

/-- The document of a text. -/
def json? (s : Scalar) : Option Json :=
  if hasOwnTag s.tag then none
  else if s.tag.isNone then if s.style = .plain then Plain.json? s.text else some (.string s.text)
  else if s.hasTag "bool" then (Plain.bool? s.text).map .bool
  else if s.hasTag "int" then do
    let n ← Plain.int? s.text.toList
    guard (Plain.isShort n)
    return .number (.int n)
  else if s.hasTag "float" then (Plain.float? s.text).map fun x => match x with
    | .finite s m e => .number (.float (.finite s m e))
    | _ => .null
  else if s.hasTag "null" then if Plain.isNull s.text then some .null else none
  else some (.string s.text)

/-- Whether a text may be read as a value of a standard sort that is no text. -/
def isOpen (s : Scalar) (sort : String) : Bool :=
  s.style = .plain || (s.style = .literal && s.hasTag sort)

/-- Whether nothing stands at the place of a text. -/
def isAbsent (s : Scalar) : Bool := s.style = .plain && s.text.isEmpty

/-- Whether an option is not given; nothing if its tag forbids to tell. -/
def isNone? (s : Scalar) : Option Bool :=
  if s.style ≠ .plain then some false
  else if s.hasTag "null" then if Plain.isNull s.text then some true else none
  else if s.tag.isSome then some false
  else some (s.text.isEmpty || Plain.isNull s.text)

end Scalar

/-! ## Documents of any shape -/

namespace Document

def maxDepth : Nat := 128

/-- How often references may be followed for every part of a document. -/
def maxFollow : Nat := 100

/-- The text of a key, which has to be a text. -/
def keyOf? (d : Document) (n : Node) : Option String :=
  match d.resolve n with
  | .scalar s => some s.text
  | _ => none

/-- Follows a reference; the state counts how often that may still be done. -/
def follow (d : Document) (n : Node) : StateT Nat Option Node := do
  match n with
  | .reference _ =>
    match ← get with
    | 0 => failure
    | k + 1 =>
      set k
      return d.resolve n
  | n => return n

/-- The document of a node in which collections may be nested `depth` deep. -/
def jsonOf (d : Document) : (depth : Nat) → Node → StateT Nat Option Json
  | 0, n => do
    match ← d.follow n with
    | .scalar s => s.json?
    | _ => failure
  | depth + 1, n => do
    match ← d.follow n with
    | .scalar s => s.json?
    | .sequence tag items =>
      guard !(Scalar.hasOwnTag tag)
      return .array (← items.mapM (jsonOf d depth))
    | .mapping tag entries =>
      guard !(Scalar.hasOwnTag tag)
      let members ← entries.mapM fun (k, v) => do
        match ← d.follow k with
        | .scalar s => return (s.text, ← jsonOf d depth v)
        | _ => failure
      return .object (Json.ofEntries members)
    | .reference _ => failure

def json? (d : Document) : Option Json := ((d.jsonOf maxDepth d.root).run (maxFollow * d.size)).map (·.1)

/-! ## Documents of a shape -/

/-- Reads a node of a shape. -/
abbrev ShapeReader := Node → Option Json

def flag? (d : Document) (n : Node) : Option Json :=
  match d.resolve n with
  | .scalar s => if s.isOpen "bool" then (Plain.bool? s.text).map .bool else none
  | _ => none

def count? (d : Document) (n : Node) : Option Json :=
  match d.resolve n with
  | .scalar s =>
    if s.isOpen "int" && !s.text.startsWith "-" then
      (Plain.int? s.text.toList).bind fun n =>
        if n ≤ Shape.maxCount then some (.number (.int n)) else none
    else none
  | _ => none

def optional? (d : Document) (inner : ShapeReader) (n : Node) : Option Json :=
  match d.resolve n with
  | .scalar s => s.isNone?.bind fun absent => if absent then some .null else inner n
  | _ => inner n

/-- The fields of a record in the order of its entries; one may be given only once. -/
def fields? (d : Document) (readers : List (String × ShapeReader)) :
    List (Node × Node) → List (String × Json) → Option (List (String × Json))
  | [], got => some got
  | (k, v) :: rest, got => do
    let key ← d.keyOf? k
    match readers.lookup key with
    | none => fields? d readers rest got
    | some reader =>
      guard (got.lookup key).isNone
      fields? d readers rest (got ++ [(key, ← reader v)])

def record? (d : Document) (readers : List (String × ShapeReader)) (n : Node) : Option Json :=
  match d.resolve n with
  | .mapping _ entries => (d.fields? readers entries []).map .object
  | .scalar s => if s.isAbsent then some (.object []) else none
  | _ => none

mutual

/-- Reads a value of a shape. -/
def shapeReader (d : Document) : Shape → ShapeReader
  | .text | .path => fun n => (d.keyOf? n).map .string
  | .flag => d.flag?
  | .count => d.count?
  | .optional inner => d.optional? (shapeReader d inner)
  | .record _ fields => d.record? (fieldReaders d fields)

def fieldReaders (d : Document) : List (String × Shape) → List (String × ShapeReader)
  | [] => []
  | (name, s) :: rest => (name, shapeReader d s) :: fieldReaders d rest

end

end Document

/-- The document of a text that may be of any shape. -/
def decode? (text : String) : Option Json := (Document.ofText? text).bind Document.json?

/-- The document of a shape that a text holds. -/
def decodeShape? (s : Shape) (text : String) : Option Json :=
  (Document.ofText? text).bind fun d => d.shapeReader s d.root

end Rulebook.Yaml
