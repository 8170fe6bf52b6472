import Rulebook.Json.Printer

/-!
# Writing TOML

A document of sections is written section by section, each under its header. A text is written without
escapes where a backslash in it would need one and nothing stands against it.
-/

namespace Rulebook.Toml

/-! ## Texts -/

def upperHex (width n : Nat) : List Char :=
  let digits := (Nat.toDigits 16 n).map Char.toUpper
  List.replicate (width - digits.length) '0' ++ digits

def isControl (c : Char) : Bool := c.toNat < 0x20 || c.toNat = 0x7F

def escapedChar (multiline : Bool) (c : Char) : List Char :=
  if c = '\n' then if multiline then ['\n'] else ['\\', 'n']
  else if c = '"' then ['\\', '"']
  else if c = '\\' then ['\\', '\\']
  else if c = '\t' then ['\\', 't']
  else if c = '\r' then ['\\', 'r']
  else if c = '\x08' then ['\\', 'b']
  else if c = '\x0c' then ['\\', 'f']
  else if isControl c then '\\' :: 'u' :: upperHex 4 c.toNat
  else [c]

/-- The most quotes in a row. -/
def quoteRun : (run : Nat) → List Char → Nat
  | run, [] => run
  | run, c :: cs => if c = '\'' then quoteRun (run + 1) cs else max run (quoteRun 0 cs)

/-- Whether a text is written without escapes: there is a backslash in it, no control but ends of lines
and tabs, and no quotes that would end it early. -/
def isLiteral (cs : List Char) : Bool :=
  cs.contains '\\' && cs.all (fun c => c = '\n' || c = '\t' || !isControl c) && quoteRun 0 cs < 3 &&
    cs.getLast? ≠ some '\''

def textChars (s : String) : List Char :=
  let cs := s.toList
  let multiline := cs.contains '\n'
  if isLiteral cs then
    if multiline then "\'\'\'\n".toList ++ cs ++ "\'\'\'".toList
    else if cs.contains '\'' then "\'\'\'".toList ++ cs ++ "\'\'\'".toList
    else '\'' :: cs ++ ['\'']
  else
    let body := cs.flatMap (escapedChar multiline)
    if multiline then "\"\"\"\n".toList ++ body ++ "\"\"\"".toList else '"' :: body ++ ['"']

/-! ## Sections -/

def maxInt : Int := Int64.maxValue.toInt

/-- What is said of a number that is too large. -/
def outOfRange : String := "out-of-range value for u64 type"

/-- A text, a flag or a whole number that is not too large. -/
def valueChars? : Json → Option (List Char)
  | .string s => some (textChars s)
  | .bool b => some (if b then "true" else "false").toList
  | .number (.int n) => if n ≤ maxInt then some (JsonNumber.intChars n) else none
  | _ => none

def entryLine? (entry : String × Json) : Option (List Char) :=
  (valueChars? entry.2).map fun v => entry.1.toList ++ " = ".toList ++ v ++ ['\n']

def section? (entry : String × Json) : Option (List Char) :=
  match entry.2 with
  | .object entries =>
    (entries.mapM entryLine?).map fun lines => '[' :: entry.1.toList ++ "]\n".toList ++ lines.flatten
  | _ => none

/-- The text of a document of sections whose names need no quotes. -/
def render? : Json → Option String
  | .object sections =>
    (sections.mapM section?).map fun texts => String.ofList (List.intercalate ['\n'] texts)
  | _ => none

end Rulebook.Toml
