import Rulebook.Json.Printer
import Rulebook.Text.Quoted

/-!
# Shapes of data

A shape says what a part of a document has to be. What is read by a shape is again a document: a record
holds the fields that were given, unknown ones left out, and an absent option is null.
-/

namespace Rulebook

inductive Shape where
  | text
  /-- A text that names a file. -/
  | path
  | flag
  /-- A whole number below `2 ^ 64`. -/
  | count
  | optional (inner : Shape)
  /-- Fields by name, none of them required. -/
  | record (name : String) (fields : List (String × Shape))
  deriving Inhabited

namespace Shape

def maxCount : Nat := UInt64.size - 1

/-- How a shape is called where something else was found. -/
def expected : Shape → String
  | text => "a string"
  | path => "path string"
  | flag => "a boolean"
  | count => "usize"
  | optional inner => expected inner
  | record name _ => "struct " ++ name

end Shape

/-- Why data is not of a shape. -/
inductive DataFault where
  | wrongType (found expected : String)
  | wrongValue (found expected : String)
  | wrongLength (length : Nat) (expected : String)
  | duplicateField (name : String)
  | missingField (name : String)
  | unknownVariant (name : String) (variants : List String)
  deriving DecidableEq, Repr

namespace DataFault

/-- A name between backquotes. -/
def marked (name : String) : String := "`" ++ name ++ "`"

def message : DataFault → String
  | wrongType found expected => "invalid type: " ++ found ++ ", expected " ++ expected
  | wrongValue found expected => "invalid value: " ++ found ++ ", expected " ++ expected
  | wrongLength length expected => s!"invalid length {length}, expected " ++ expected
  | duplicateField name => "duplicate field " ++ marked name
  | missingField name => "missing field " ++ marked name
  | unknownVariant name variants =>
    "unknown variant " ++ marked name ++ ", expected " ++
      match variants with
      | [a, b] => marked a ++ " or " ++ marked b
      | variants => "one of " ++ String.intercalate ", " (variants.map marked)

/-- How a value is called that is not what was expected. -/
def found : Json → String
  | .null => "null"
  | .bool b => "boolean " ++ marked (if b then "true" else "false")
  | .number (.int n) => "integer " ++ marked (String.ofList (JsonNumber.intChars n))
  | .number (.float x) => "floating point " ++ marked (String.ofList (JsonNumber.floatChars x))
  | .string s => "string " ++ quoted s
  | .array _ => "sequence"
  | .object _ => "map"

end DataFault

end Rulebook
