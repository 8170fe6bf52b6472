import Rulebook.Number.Binary64

/-!
# Documents

A document keeps its objects sorted by key, each key once, as `Json.put` leaves them. Whole numbers and
numbers with a fraction are different values; `JsonNumber.value` forgets the difference.
-/

namespace Rulebook

/-- A number of a document: a whole one as it is written, any other rounded. -/
inductive JsonNumber where
  | int (n : Int)
  | float (x : Binary64)
  deriving DecidableEq, Repr, Inhabited

inductive Json where
  | null
  | bool (b : Bool)
  | number (n : JsonNumber)
  | string (s : String)
  | array (items : List Json)
  | object (members : List (String × Json))
  deriving Inhabited

namespace JsonNumber

def value : JsonNumber → Binary64
  | int n => .ofInt n
  | float x => x

/-- Equality inside a document: a whole number equals no other, and the zeros are equal. -/
def same : JsonNumber → JsonNumber → Bool
  | int m, int n => m = n
  | float x, float y => x.eqv y
  | _, _ => false

end JsonNumber

namespace Json

def typeName : Json → String
  | null => "null"
  | bool _ => "boolean"
  | number _ => "number"
  | string _ => "string"
  | array _ => "array"
  | object _ => "object"

/-! ## Members -/

/-- Sets a key, which stays in its place among the sorted keys. -/
def put (key : String) (value : Json) : List (String × Json) → List (String × Json)
  | [] => [(key, value)]
  | (k, v) :: rest =>
    if key < k then (key, value) :: (k, v) :: rest
    else if key = k then (key, value) :: rest
    else (k, v) :: put key value rest

/-- The members that entries leave, the last of equal keys standing. -/
def ofEntries (entries : List (String × Json)) : List (String × Json) :=
  entries.foldl (fun members (k, v) => put k v members) []

/-- A member of an object. -/
def member? (key : String) : Json → Option Json
  | object members => members.lookup key
  | _ => none

def asString? : Json → Option String
  | string s => some s
  | _ => none

/-! ## Equality -/

mutual

/-- Equality of documents, number by number as `JsonNumber.same`. -/
def same : Json → Json → Bool
  | null, null => true
  | bool a, bool b => a = b
  | number m, number n => m.same n
  | string s, string t => s = t
  | array xs, array ys => sameItems xs ys
  | object xs, object ys => sameMembers xs ys
  | _, _ => false

def sameItems : List Json → List Json → Bool
  | [], [] => true
  | x :: xs, y :: ys => same x y && sameItems xs ys
  | _, _ => false

def sameMembers : List (String × Json) → List (String × Json) → Bool
  | [], [] => true
  | (k, x) :: xs, (l, y) :: ys => k = l && same x y && sameMembers xs ys
  | _, _ => false

end

end Json

end Rulebook
