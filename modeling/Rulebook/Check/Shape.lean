import Rulebook.Check.Walk

/-!
# Checks made of checks

Unions, lists, negations and the members of objects. What a part is asked in private leaves nothing
behind; the part that counts is then walked for its issues.
-/

namespace Rulebook.Check

/-- Walks checks in turn. -/
def each (checks : List Check) (c : Context) : Walk Unit := .all (checks.map (·.validate c))

/-- Walks the checks for which what they look at is there. -/
def eachPresent : List Check → Context → Walk Unit
  | [], _ => .done ()
  | k :: ks, c =>
    (k.present c).bind fun there =>
      (Walk.when there (k.validate c)).bind fun _ => eachPresent ks c

/-- Required parts always count, optional ones if they are there. -/
def members (required optional : List Check) (c : Context) : Walk Unit :=
  (each required c).bind fun _ => eachPresent optional c

/-- Opens the object that a context looks at. -/
def openObject (c : Context) : Walk (Option Unit) :=
  match c.json? with
  | some (.object _) => .done (some ())
  | some v => .stop c Code.typeMismatch ("Expected object, got " ++ v.typeName)
  | none => .stop c Code.typeMismatch "Expected object, got content that is not valid JSON"

def object (required optional : List Check) (c : Context) : Walk Unit :=
  (openObject c).into fun _ => members required optional c

/-- The issue of a value that no option of a union accepts; `names` are those of the options. -/
def noMatch (names : List String) (c : Context) : Walk Unit :=
  .issue c Code.oneOfNoMatch ("Value does not match any of: " ++ String.intercalate ", " names)

/-- Walks the first option that accepts. -/
def oneOf (names : List String) : List Check → Context → Walk Unit
  | [], c => noMatch names c
  | k :: ks, c =>
    (k.accepts c).bind fun yes => if yes then k.validate c else oneOf names ks c

/-- Walks the items from an index on, each under a segment of its own. -/
def itemsFrom (item : Check) (c : Context) : Nat → List Json → Walk Unit
  | _, [] => .done ()
  | i, v :: vs =>
    (item.validate (c.child s!"[{i}]" (.value v))).bind fun _ => itemsFrom item c (i + 1) vs

/-- Opens the items of a list, with issues for a length out of bounds. -/
def openList (min max : Option Nat) (c : Context) : Walk (Option (List Json)) :=
  match c.value with
  | .array items =>
    (Walk.all [
      .when (min.any (items.length < ·)) <|
        .issue c Code.listTooShort
          s!"List length {items.length} is less than minimum {min.getD 0}",
      .when (max.any (· < items.length)) <|
        .issue c Code.listTooLong
          s!"List length {items.length} exceeds maximum {max.getD 0}"]).bind fun _ =>
    .done (some items)
  | v => .stop c Code.typeMismatch ("Expected array, got " ++ v.typeName)

def listOf (item : Check) (min max : Option Nat) (c : Context) : Walk Unit :=
  (openList min max c).into (itemsFrom item c 0)

/-- An issue with this message unless the inner check finds an error. -/
def negated (code message : String) (inner : Check) (c : Context) : Walk Unit :=
  (inner.validate c).probe.bind fun clean => .when clean (.issue c code message)

/-! ## Members of documents -/

/-- Whether a document is an object with a key. -/
def hasMember (key : String) (c : Context) : Bool :=
  (c.json?.bind (Json.member? key)).isSome

/-- Opens the member under a key; without it there is an issue unless it is optional. -/
def openField (key : String) (isOptional : Bool) (c : Context) : Walk (Option Json) :=
  match c.json? with
  | some (.object entries) =>
    match Json.member? key (.object entries) with
    | some v => .done (some v)
    | none =>
      (Walk.when (!isOptional) <|
        .issue c Code.fieldMissing ("Missing required field: " ++ key)).bind fun _ => .done none
  | _ =>
    (Walk.when (!isOptional) <|
      .issue c Code.fieldMissingParent
        ("Cannot check required field '" ++ key ++ "': parent is not a JSON object")).bind fun _ =>
    .done none

/-- Walks a value under a segment of its own, if there is a check for it. -/
def valueAt (segment : String) (value : Option Check) (c : Context) (v : Json) : Walk Unit :=
  match value with
  | some k => k.validate (c.child segment (.value v))
  | none => .done ()

def field (key : String) (isOptional : Bool) (value : Option Check) : Check where
  validate c := (openField key isOptional c).into (valueAt key value c)
  accepts c := .done (hasMember key c)
  present c := .done (hasMember key c)

end Rulebook.Check
