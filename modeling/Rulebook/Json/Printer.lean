import Rulebook.Json.Basic
import Rulebook.Number.Shortest

/-!
# Writing documents

A document is written in one line without blanks, or over several lines with an indent of two. In a
string only the quote, the backslash and the controls are escaped.
-/

namespace Rulebook

namespace JsonNumber

/-- A finite number has a fraction or an exponent: it is positional while its first digit stands
for `10 ^ -5` to `10 ^ 15`, and has an exponent with a sign elsewhere. -/
def floatChars : Binary64 → List Char
  | .nan | .infinite _ => "null".toList
  | .finite s m e =>
    let sign := if s then ['-'] else []
    if m = 0 then sign ++ ['0', '.', '0']
    else
      let d := Decimal.shortest .even m e
      let digits := d.chars
      if -5 ≤ d.magnitude ∧ d.magnitude ≤ 15 then
        let (whole, frac) := Decimal.positional digits (d.magnitude + 1)
        sign ++ whole ++ '.' :: (if frac.isEmpty then ['0'] else frac)
      else
        let frac := digits.drop 1
        let expSign := if d.magnitude < 0 then '-' else '+'
        sign ++ digits.take 1 ++ (if frac.isEmpty then [] else '.' :: frac) ++
          'e' :: expSign :: Nat.toDigits 10 d.magnitude.natAbs

def intChars (n : Int) : List Char :=
  if n < 0 then '-' :: Nat.toDigits 10 n.natAbs else Nat.toDigits 10 n.natAbs

def chars : JsonNumber → List Char
  | int n => intChars n
  | float x => floatChars x

end JsonNumber

namespace Json

/-- A digit in hexadecimal, letters in lower case. -/
def hexChar (n : Nat) : Char := if n < 10 then Char.ofNat (48 + n) else Char.ofNat (87 + n)

def escapedChar (c : Char) : List Char :=
  if c = '"' then ['\\', '"']
  else if c = '\\' then ['\\', '\\']
  else if c = '\n' then ['\\', 'n']
  else if c = '\t' then ['\\', 't']
  else if c = '\r' then ['\\', 'r']
  else if c = '\x08' then ['\\', 'b']
  else if c = '\x0c' then ['\\', 'f']
  else if c.toNat < 32 then ['\\', 'u', '0', '0', hexChar (c.toNat / 16), hexChar (c.toNat % 16)]
  else [c]

def stringChars (s : String) : List Char := '"' :: s.toList.flatMap escapedChar ++ ['"']

/-! ## In one line -/

mutual

def chars : Json → List Char
  | null => ['n', 'u', 'l', 'l']
  | bool true => ['t', 'r', 'u', 'e']
  | bool false => ['f', 'a', 'l', 's', 'e']
  | number n => n.chars
  | string s => stringChars s
  | array [] => ['[', ']']
  | array (x :: xs) => '[' :: chars x ++ itemChars xs ++ [']']
  | object [] => ['\x7b', '\x7d']
  | object ((k, x) :: xs) => '\x7b' :: stringChars k ++ ':' :: chars x ++ memberChars xs ++ ['\x7d']

/-- Items that follow another. -/
def itemChars : List Json → List Char
  | [] => []
  | x :: xs => ',' :: chars x ++ itemChars xs

/-- Members that follow another. -/
def memberChars : List (String × Json) → List Char
  | [] => []
  | (k, x) :: xs => ',' :: stringChars k ++ ':' :: chars x ++ memberChars xs

end

/-- The text of a document in one line. -/
def text (v : Json) : String := String.ofList v.chars

/-! ## Over several lines -/

def indentChars (depth : Nat) : List Char := '\n' :: List.replicate (2 * depth) ' '

mutual

def prettyChars (depth : Nat) : Json → List Char
  | array [] => ['[', ']']
  | array (x :: xs) =>
    '[' :: indentChars (depth + 1) ++ prettyChars (depth + 1) x ++ prettyItems (depth + 1) xs ++
      indentChars depth ++ [']']
  | object [] => ['\x7b', '\x7d']
  | object ((k, x) :: xs) =>
    '\x7b' :: indentChars (depth + 1) ++ stringChars k ++ ':' :: ' ' :: prettyChars (depth + 1) x ++
      prettyMembers (depth + 1) xs ++ indentChars depth ++ ['\x7d']
  | v => chars v

def prettyItems (depth : Nat) : List Json → List Char
  | [] => []
  | x :: xs => ',' :: indentChars depth ++ prettyChars depth x ++ prettyItems depth xs

def prettyMembers (depth : Nat) : List (String × Json) → List Char
  | [] => []
  | (k, x) :: xs =>
    ',' :: indentChars depth ++ stringChars k ++ ':' :: ' ' :: prettyChars depth x ++
      prettyMembers depth xs

end

/-- The text of a document over several lines. -/
def pretty (v : Json) : String := String.ofList (v.prettyChars 0)

end Json

end Rulebook
