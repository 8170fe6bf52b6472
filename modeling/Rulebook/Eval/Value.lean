import Rulebook.Json.Printer
import Rulebook.Rule.Basic

/-! # Values of the language -/

namespace Rulebook

/-- How a rule is named among the options of a union: a literal by its value, a pattern by its text. -/
def Rule.describe : Rule → String
  | literal expected => expected.text
  | pattern regex => "/" ++ regex.pattern ++ "/"
  | r => r.kind

namespace Builtin

def name : Builtin → String
  | str => "Str"
  | num => "Num"
  | bool => "Bool"
  | literal => "Literal"
  | pattern => "Pattern"
  | field => "Field"
  | object => "Object"
  | file => "File"
  | directory => "Directory"
  | jsonFile => "JsonFile"
  | package => "Package"
  | oneOf => "OneOf"
  | listOf => "ListOf"
  | contains => "Contains"
  | isNot => "Is.Not"
  | doesNotContain => "Does.Not.Contain"

/-- The factory that a word alone stands for. -/
def ofWord : String → Option Builtin
  | "Str" => some str
  | "Num" => some num
  | "Bool" => some bool
  | "Literal" => some literal
  | "Pattern" => some pattern
  | "Field" => some field
  | "Object" => some object
  | "File" => some file
  | "Directory" => some directory
  | "JsonFile" => some jsonFile
  | "Package" | "Bundle" => some package
  | "OneOf" => some oneOf
  | "ListOf" => some listOf
  | "Contains" => some contains
  | _ => none

/-- The words that stand for a factory. -/
def words : List String :=
  ["Str", "Num", "Bool", "Literal", "Pattern", "Field", "Object", "File", "Directory", "JsonFile",
    "Package", "Bundle", "OneOf", "ListOf", "Contains"]

end Builtin

def Factory.name : Factory → String
  | builtin b => b.name
  | custom kind => kind

namespace Value

def typeName : Value → String
  | null => "null"
  | bool _ => "boolean"
  | number _ => "number"
  | string _ => "string"
  | regex _ => "regex"
  | array _ => "array"
  | object _ => "object"
  | rule _ => "rule"
  | factory _ => "factory"
  | space _ => "namespace"
  | lambda _ => "lambda"

/-- What an entry list holds for a key: the last entry counts. -/
def entry? (key : String) (entries : List (String × Value)) : Option Value :=
  entries.reverse.lookup key

/-! ## Data -/

/-- Whole numbers below this magnitude are whole in documents too. -/
def wholeLimit : Nat := Nat.pow 2 53

/-- The number of a document; one that is not finite is none. -/
def numberToJson? (x : Binary64) : Option JsonNumber :=
  match x.toInt? with
  | some n => if n.natAbs < wholeLimit then some (.int n) else some (.float x)
  | none => if x.isFinite then some (.float x) else none

mutual

/-- A value as a document, if it is made of data alone. -/
def toJson? : Value → Option Json
  | null => some .null
  | bool b => some (.bool b)
  | number x => (numberToJson? x).map .number
  | string s => some (.string s)
  | array items => (itemsToJson? items).map .array
  | object entries => (entriesToJson? entries).map fun es => .object (Json.ofEntries es)
  | _ => none

def itemsToJson? : List Value → Option (List Json)
  | [] => some []
  | v :: vs => do return (← toJson? v) :: (← itemsToJson? vs)

def entriesToJson? : List (String × Value) → Option (List (String × Json))
  | [] => some []
  | (k, v) :: rest => do return (k, ← toJson? v) :: (← entriesToJson? rest)

end

mutual

def ofJson : Json → Value
  | .null => null
  | .bool b => bool b
  | .number n => number n.value
  | .string s => string s
  | .array items => array (ofItems items)
  | .object members => object (ofMembers members)

def ofItems : List Json → List Value
  | [] => []
  | v :: vs => ofJson v :: ofItems vs

def ofMembers : List (String × Json) → List (String × Value)
  | [] => []
  | (k, v) :: rest => (k, ofJson v) :: ofMembers rest

end

end Value

end Rulebook
