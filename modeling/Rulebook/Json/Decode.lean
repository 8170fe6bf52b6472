import Rulebook.Data.Shape
import Rulebook.Json.Reader

/-!
# Documents of a shape

A text is read against a shape from left to right, and the first thing that does not fit ends it, be it
no document at all or one of another shape. A record is written as an object or as an array of its
fields in their order.
-/

namespace Rulebook.Json

inductive DecodeError where
  | malformed (e : ReadError)
  | unfit (f : DataFault) (mark : Mark)
  deriving DecidableEq, Repr

def DecodeError.message : DecodeError → String
  | malformed e => e.message
  | unfit f mark => f.message ++ s!" at line {mark.line} column {mark.column}"

abbrev Decoding (α : Type) := Except DecodeError (α × List Char × Mark)

def ofReading {α : Type} (r : Reading α) : Decoding α := r.mapError .malformed

def malformedAt {α : Type} (f : Fault) (cs : List Char) (m : Mark) : Decoding α :=
  .error (.malformed ⟨f, m.peek cs⟩)

def unfitAt {α : Type} (f : DataFault) (m : Mark) : Decoding α := .error (.unfit f m)

/-- The error for a value, after blanks, of which another sort was expected. -/
def otherSort {α : Type} (expected : String) (cs : List Char) (m : Mark) : Decoding α :=
  match cs with
  | [] => malformedAt .eofValue [] m
  | '[' :: _ => unfitAt (.wrongType "sequence" expected) m
  | '\x7b' :: _ => unfitAt (.wrongType "map" expected) m
  | c :: cs =>
    match readValue none c cs m with
    | .error e => .error (.malformed e)
    | .ok (v, _, m) => unfitAt (.wrongType (DataFault.found v) expected) m

def decodeText (expected : String) (cs : List Char) (m : Mark) : Decoding Json :=
  match skipSpace cs m with
  | ('"' :: cs, m) => (ofReading (readString cs (m.next '"') [])).map fun (s, rest) => (.string s, rest)
  | (cs, m) => otherSort expected cs m

def decodeFlag (cs : List Char) (m : Mark) : Decoding Json :=
  match skipSpace cs m with
  | ('t' :: cs, m) => ofReading (readValue none 't' cs m)
  | ('f' :: cs, m) => ofReading (readValue none 'f' cs m)
  | (cs, m) => otherSort Shape.flag.expected cs m

/-- A number that has to be whole, not negative and not too large. -/
def countOf (n : JsonNumber) (cs : List Char) (m : Mark) : Decoding Json :=
  match n with
  | .int n =>
    if 0 ≤ n then .ok (.number (.int n), cs, m)
    else unfitAt (.wrongValue (DataFault.found (.number (.int n))) Shape.count.expected) m
  | n => unfitAt (.wrongType (DataFault.found (.number n)) Shape.count.expected) m

def decodeCount (cs : List Char) (m : Mark) : Decoding Json :=
  match skipSpace cs m with
  | (cs, m) =>
    let signed := cs.head? = some '-'
    if signed ∨ cs.head?.any Char.isDigit then
      match readNumber signed (if signed then cs.drop 1 else cs) (if signed then m.next '-' else m) with
      | .error e => .error (.malformed e)
      | .ok (n, rest, m) => countOf n rest m
    else otherSort Shape.count.expected cs m

def decodeOptional (inner : List Char → Mark → Decoding Json) (cs : List Char) (m : Mark) :
    Decoding Json :=
  match skipSpace cs m with
  | ('n' :: cs, m) => ofReading (readValue none 'n' cs m)
  | (cs, m) => inner cs m

/-! ## Records -/

abbrev FieldReader := List Char → Mark → Decoding Json

/-- Passes a value that no field takes. -/
def skipValue (cs : List Char) (m : Mark) : Decoding Json :=
  ofReading ((valueReader cs.length).run cs m)

/-- The mark of a fault at a key: an end of the record that follows is passed too. -/
def faultMark (cs : List Char) (m : Mark) : Mark :=
  match skipSpace cs m with
  | ('\x7d' :: _, m) => m.next '\x7d'
  | (_, m) => m

/-- One member after the quote of its key; those read before are `got`. -/
def decodeMember (fields : List (String × FieldReader)) (got : List (String × Json)) (cs : List Char)
    (m : Mark) : Decoding (List (String × Json)) :=
  match ofReading (readString cs m []) with
  | .error e => .error e
  | .ok (key, cs, m) =>
    if (got.lookup key).isSome then unfitAt (.duplicateField key) (faultMark cs m)
    else
      match skipSpace cs m with
      | (':' :: cs, m) =>
        match fields.lookup key with
        | some field => (field cs (m.next ':')).map fun (v, rest) => (got ++ [(key, v)], rest)
        | none => (skipValue cs (m.next ':')).map fun (_, rest) => (got, rest)
      | ([], m) => malformedAt .eofObject [] m
      | (cs, m) => malformedAt .expectedColon cs m

/-- The members from the first key on; at most `n`. -/
def decodeMembers (fields : List (String × FieldReader)) :
    (n : Nat) → List (String × Json) → List Char → Mark → Decoding (List (String × Json))
  | 0, _, cs, m => malformedAt .eofObject cs m
  | n + 1, got, cs, m =>
    match cs with
    | '"' :: cs =>
      match decodeMember fields got cs (m.next '"') with
      | .error e => .error e
      | .ok (got, cs, m) =>
        match skipSpace cs m with
        | ('\x7d' :: cs, m) => .ok (got, cs, m.next '\x7d')
        | (',' :: cs, m) =>
          match skipSpace cs (m.next ',') with
          | ([], m) => malformedAt .eofValue [] m
          | ('\x7d' :: cs, m) => malformedAt .trailingComma ('\x7d' :: cs) m
          | (cs, m) => decodeMembers fields n got cs m
        | ([], m) => malformedAt .eofObject [] m
        | (cs, m) => malformedAt .expectedObjectEnd cs m
    | cs => malformedAt .keyString cs m

/-- The end of an array all of whose fields were read. -/
def decodeArrayEnd (got : List (String × Json)) (cs : List Char) (m : Mark) :
    Decoding (List (String × Json)) :=
  match skipSpace cs m with
  | (']' :: cs, m) => .ok (got, cs, m.next ']')
  | (',' :: cs, m) =>
    match skipSpace cs (m.next ',') with
    | (']' :: cs, m) => malformedAt .trailingComma (']' :: cs) m
    | (cs, m) => malformedAt .trailingChars cs m
  | ([], m) => malformedAt .eofList [] m
  | (cs, m) => malformedAt .trailingChars cs m

/-- The fields of a record that is written as an array, in their order; the last may be missing. -/
def decodeFields : (first : Bool) → List (String × FieldReader) → List (String × Json) → List Char →
    Mark → Decoding (List (String × Json))
  | _, [], got, cs, m => decodeArrayEnd got cs m
  | first, (name, field) :: fields, got, cs, m =>
    match skipSpace cs m with
    | ([], m) => malformedAt .eofList [] m
    | (c :: cs, m) =>
      let next (cs : List Char) (m : Mark) : Decoding (List (String × Json)) :=
        match field cs m with
        | .error e => .error e
        | .ok (v, cs, m) => decodeFields false fields (got ++ [(name, v)]) cs m
      if c = ']' then .ok (got, cs, m.next ']')
      else if first then next (c :: cs) m
      else if c = ',' then
        match skipSpace cs (m.next ',') with
        | ([], m) => malformedAt .eofValue [] m
        | (']' :: cs, m) => malformedAt .trailingComma (']' :: cs) m
        | (cs, m) => next cs m
      else malformedAt .expectedListEnd (c :: cs) m

def decodeRecord (name : String) (fields : List (String × FieldReader)) (cs : List Char) (m : Mark) :
    Decoding Json :=
  let toJson : List (String × Json) × List Char × Mark → Json × List Char × Mark :=
    fun (got, rest) => (.object got, rest)
  match skipSpace cs m with
  | ('\x7b' :: cs, m) =>
    match skipSpace cs (m.next '\x7b') with
    | ([], m) => malformedAt .eofObject [] m
    | ('\x7d' :: cs, m) => .ok (.object [], cs, m.next '\x7d')
    | (cs, m) => (decodeMembers fields (cs.length + 1) [] cs m).map toJson
  | ('[' :: cs, m) => (decodeFields true fields [] cs (m.next '[')).map toJson
  | (cs, m) => otherSort ("struct " ++ name) cs m

mutual

/-- Reads a value of a shape. -/
def decodeShape : Shape → FieldReader
  | .text => decodeText Shape.text.expected
  | .path => decodeText Shape.path.expected
  | .flag => decodeFlag
  | .count => decodeCount
  | .optional inner => decodeOptional (decodeShape inner)
  | .record name fields => decodeRecord name (shapeReaders fields)

def shapeReaders : List (String × Shape) → List (String × FieldReader)
  | [] => []
  | (name, s) :: rest => (name, decodeShape s) :: shapeReaders rest

end

/-- The document of a shape that a text holds, with nothing but blanks around it. -/
def decode (s : Shape) (text : String) : Except DecodeError Json :=
  match decodeShape s text.toList .start with
  | .error e => .error e
  | .ok (v, rest, m) =>
    match skipSpace rest m with
    | ([], _) => .ok v
    | (cs, m) => .error (.malformed ⟨.trailingChars, m.peek cs⟩)

end Rulebook.Json
