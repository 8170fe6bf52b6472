import Rulebook.Json.Basic
import Rulebook.Number.Text

/-!
# What plain texts mean

A plain text may be a null, a boolean or a number. Digits after a leading zero are none, and neither is a
number too large to be finite.
-/

namespace Rulebook.Yaml

inductive Plain where
  | null
  | bool (b : Bool)
  /-- A whole number of up to 128 bits. -/
  | int (n : Int)
  | float (x : Binary64)
  | text
  deriving DecidableEq, Repr

namespace Plain

def nulls : List String := ["null", "Null", "NULL", "~"]

def isNull (s : String) : Bool := nulls.contains s

def bool? (s : String) : Option Bool :=
  if ["true", "True", "TRUE"].contains s then some true
  else if ["false", "False", "FALSE"].contains s then some false
  else none

/-! ## Numbers -/

def isSign (c : Char) : Bool := c = '+' || c = '-'

/-- A digit below `16`. -/
def digitValue? (c : Char) : Option Nat :=
  if c.isDigit then some (c.toNat - 48)
  else if 'a' ≤ c ∧ c ≤ 'f' then some (c.toNat - 87)
  else if 'A' ≤ c ∧ c ≤ 'F' then some (c.toNat - 55)
  else none

/-- The number that digits of a base write; there is at least one. -/
def natOf? (base : Nat) (cs : List Char) : Option Nat :=
  if cs.isEmpty then none
  else cs.foldlM (fun n c => (digitValue? c).bind fun d => if d < base then some (n * base + d) else none) 0

/-- Whether digits follow a leading zero, after a sign or none. -/
def isPadded (cs : List Char) : Bool :=
  let cs := if cs.head?.any isSign then cs.drop 1 else cs
  1 < cs.length && cs.head? = some '0' && cs.all Char.isDigit

/-- The size of a whole number without a sign, in one of four bases. -/
def sizeOf? (cs : List Char) : Option Nat :=
  match cs with
  | '0' :: 'x' :: cs => natOf? 16 cs
  | '0' :: 'o' :: cs => natOf? 8 cs
  | '0' :: 'b' :: cs => natOf? 2 cs
  | cs => if isPadded cs then none else natOf? 10 cs

/-- A whole number with a sign or without one. -/
def int? (cs : List Char) : Option Int :=
  let (negative, cs) := match cs with
    | '-' :: cs => (true, cs)
    | '+' :: cs => (false, cs)
    | cs => (false, cs)
  (sizeOf? cs).bind fun n =>
    if negative then (if n ≤ Nat.pow 2 127 then some (-(n : Int)) else none)
    else if n < Nat.pow 2 128 then some n else none

/-- A number with a fraction or an exponent, or the words for what is not finite. -/
def float? (s : String) : Option Binary64 :=
  let unsigned := if s.startsWith "+" then (s.drop 1).toString else s
  if s.startsWith "+" && unsigned.toList.head?.any isSign then none
  else if [".inf", ".Inf", ".INF"].contains unsigned then some (.infinite false)
  else if ["-.inf", "-.Inf", "-.INF"].contains s then some (.infinite true)
  else if [".nan", ".NaN", ".NAN"].contains s then some .nan
  else (Binary64.ofText? unsigned).filter fun x => match x with
    | .finite .. => true
    | _ => false

/-- Whether a whole number has no more than 64 bits. -/
def isShort (n : Int) : Bool := Int64.minValue.toInt ≤ n && n < UInt64.size

def ofText (s : String) : Plain :=
  if s.isEmpty || isNull s then null
  else
    match bool? s, int? s.toList with
    | some b, _ => bool b
    | _, some n => int n
    | none, none =>
      if isPadded s.toList then text else (float? s).elim text float

/-- Whether a plain text would be read as itself. -/
def isText (s : String) : Bool := ofText s = text && !isPadded s.toList

/-- The document of what a plain text means; whole numbers of more than 64 bits have none. -/
def json? (s : String) : Option Json :=
  match ofText s with
  | null => some .null
  | bool b => some (.bool b)
  | int n => if isShort n then some (.number (.int n)) else none
  | float (.finite s m e) => some (.number (.float (.finite s m e)))
  | float _ => some .null
  | text => some (.string s)

end Plain

end Rulebook.Yaml
