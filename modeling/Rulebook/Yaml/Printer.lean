import Rulebook.Json.Printer
import Rulebook.Yaml.Cursor
import Rulebook.Yaml.Plain

/-!
# Writing documents as YAML

Collections are written in blocks, members and items at the column of what holds them. A text is written
plain if it would be read as itself there, between single quotes if nothing in it needs an escape, and
between double quotes else; one of several lines is written as a literal block.
-/

namespace Rulebook.Yaml

/-- A finite number is written as in other documents, but a large exponent has no sign. -/
def floatChars : Binary64 → List Char
  | .nan => ".nan".toList
  | .infinite s => if s then "-.inf".toList else ".inf".toList
  | x => (JsonNumber.floatChars x).filter (· ≠ '+')

/-! ## Which texts can be written how -/

/-- Whether a character stands for itself in every text. -/
def isPrintable (c : Char) : Bool :=
  let n := c.toNat
  n = 10 || (0x20 ≤ n && n ≤ 0x7E) || (0xA0 ≤ n && n ≤ 0xFFFD && n ≠ 0xFEFF)

/-- Whether the characters of a text, the first of which follows `before`, have a mark among them. -/
def hasMark (before : Option Char) : List Char → Bool
  | [] => false
  | c :: cs =>
    (c = ':' && endsWord cs.head?) || (c = '#' && before.any fun b => isSpace b || isBreak b) ||
      hasMark (some c) cs

/-- Whether a text starts like something that is no text. -/
def startsMarked (cs : List Char) : Bool :=
  cs.take 3 = ['-', '-', '-'] || cs.take 3 = ['.', '.', '.'] ||
    cs.head?.any (fun c => "#,[]\x7b\x7d&*!|>\'\"%@".contains c || c = '\x60') ||
    (cs.head?.any (fun c => c = '?' || c = '-') && endsWord cs[1]?)

/-- Whether neighbours in a text are as given. -/
def hasPair (p q : Char → Bool) : List Char → Bool
  | a :: b :: cs => (p a && q b) || hasPair p q (b :: cs)
  | _ => false

/-- Whether a text needs escapes. -/
def needsEscapes (cs : List Char) : Bool :=
  cs.any (fun c => !isPrintable c) || hasPair (· = ' ') isBreak cs

def edgesAre (p : Char → Bool) (cs : List Char) : Bool := cs.head?.any p || cs.getLast?.any p

/-- Whether a text of one line can stand without quotes. -/
def canBePlain (s : String) : Bool :=
  let cs := s.toList
  Plain.isText s && !edgesAre (· = ' ') cs && !cs.any isBreak && !startsMarked cs && !hasMark none cs &&
    !needsEscapes cs

/-- Whether a text can stand between single quotes. -/
def canBeSingle (cs : List Char) : Bool := !needsEscapes cs && !hasPair isBreak (· = ' ') cs

/-- Whether a text can be a literal block. -/
def canBeLiteral (cs : List Char) : Bool := !needsEscapes cs && cs.getLast? ≠ some ' '

/-! ## Texts -/

def hexDigits (width n : Nat) : List Char :=
  let digits := (Nat.toDigits 16 n).map Char.toUpper
  List.replicate (width - digits.length) '0' ++ digits

def namedEscapes : List (Char × Char) :=
  [('\x00', '0'), ('\x07', 'a'), ('\x08', 'b'), ('\t', 't'), ('\n', 'n'), ('\x0b', 'v'), ('\x0c', 'f'),
    ('\r', 'r'), ('\x1b', 'e'), ('"', '"'), ('\\', '\\'), ('\x85', 'N'), ('\u2028', 'L'), ('\u2029', 'P')]

def doubleChar (c : Char) : List Char :=
  match namedEscapes.lookup c with
  | some x => ['\\', x]
  | none =>
    if isPrintable c then [c]
    else if c.toNat ≤ 0xFF then '\\' :: 'x' :: hexDigits 2 c.toNat
    else if c.toNat ≤ 0xFFFF then '\\' :: 'u' :: hexDigits 4 c.toNat
    else '\\' :: 'U' :: hexDigits 8 c.toNat

def doubleQuoted (cs : List Char) : List Char := '"' :: cs.flatMap doubleChar ++ ['"']

/-- The characters of a single-quoted text, the lines after the first indented. -/
def singleChars (indent : Nat) : (afterBreak : Bool) → List Char → List Char
  | afterBreak, [] => if afterBreak then List.replicate indent ' ' else []
  | afterBreak, c :: cs =>
    if isBreak c then c :: singleChars indent true cs
    else
      (if afterBreak then List.replicate indent ' ' else []) ++
        (if c = '\'' then ['\'', '\''] else [c]) ++ singleChars indent false cs

def singleQuoted (indent : Nat) (cs : List Char) : List Char :=
  '\'' :: singleChars indent false cs ++ ['\'']

/-- The mark that tells how a block ends. -/
def chompMark (cs : List Char) : List Char :=
  match cs.reverse with
  | [] => ['-']
  | [c] => if isBreak c then ['+'] else ['-']
  | c :: d :: _ => if !isBreak c then ['-'] else if isBreak d then ['+'] else []

def literalLines (indent : Nat) : (afterBreak : Bool) → List Char → List Char
  | _, [] => []
  | afterBreak, c :: cs =>
    if isBreak c then c :: literalLines indent true cs
    else
      (if afterBreak then List.replicate indent ' ' else []) ++ c :: literalLines indent false cs

/-- A literal block whose lines are indented, after the line that its sign is on. -/
def literal (indent : Nat) (cs : List Char) : List Char :=
  let hint := if cs.head?.any fun c => c = ' ' || isBreak c then ['2'] else []
  let lines := literalLines indent true cs
  '|' :: hint ++ chompMark cs ++ '\n' :: lines ++
    (if cs.getLast?.any isBreak then [] else ['\n'])

/-- A text and the end of its line; its further lines have an indent. -/
def textLine (indent : Nat) (s : String) : List Char :=
  let cs := s.toList
  if cs.contains '\n' && canBeLiteral cs then literal indent cs
  else if !cs.contains '\n' && canBePlain s then cs ++ ['\n']
  else if !cs.contains '\n' && canBeSingle cs then singleQuoted indent cs ++ ['\n']
  else doubleQuoted cs ++ ['\n']

/-! ## Keys -/

/-- The most bytes of a key that is written before its colon. -/
def maxKeyBytes : Nat := 128

/-- Whether a key is written before its colon, without a sign. -/
def isSimpleKey (s : String) : Bool := s.utf8ByteSize ≤ maxKeyBytes && !s.toList.any isBreak

def keyChars (s : String) : List Char :=
  let cs := s.toList
  if canBePlain s then cs else if canBeSingle cs then singleQuoted 0 cs else doubleQuoted cs

/-! ## Nodes -/

def indentBy (n : Nat) : List Char := List.replicate n ' '

/-- What fits on a line, if a document does. -/
def lineChars : Json → List Char
  | .null => "null".toList
  | .bool b => (if b then "true" else "false").toList
  | .number (.int n) => JsonNumber.intChars n
  | .number (.float x) => floatChars x
  | .string s => s.toList
  | .array _ => ['[', ']']
  | .object _ => ['\x7b', '\x7d']

/-- A key up to its colon, at a column. -/
def keyHead (column : Nat) (k : String) : List Char :=
  if isSimpleKey k then keyChars k ++ [':']
  else '?' :: ' ' :: textLine (column + 2) k ++ indentBy column ++ [':']

/-- What stands before a collection that starts at a column: a new line after a key, a blank after
the sign of an item. -/
def lead (afterKey : Bool) (column : Nat) : List Char :=
  if afterKey then '\n' :: indentBy column else [' ']

mutual

/-- A document after a key or the sign of an item, which stands at a column, with the end of its last
line. -/
def body (afterKey : Bool) (column : Nat) : Json → List Char
  | .string s => ' ' :: textLine (column + 2) s
  | .array (x :: xs) =>
    let column := if afterKey then column else column + 2
    lead afterKey column ++ '-' :: body false column x ++ items column xs
  | .object ((k, x) :: xs) =>
    let column := column + 2
    lead afterKey column ++ keyHead column k ++ body (isSimpleKey k) column x ++ entries column xs
  | v => ' ' :: lineChars v ++ ['\n']

def items (column : Nat) : List Json → List Char
  | [] => []
  | x :: xs => indentBy column ++ '-' :: body false column x ++ items column xs

def entries (column : Nat) : List (String × Json) → List Char
  | [] => []
  | (k, x) :: xs =>
    indentBy column ++ keyHead column k ++ body (isSimpleKey k) column x ++ entries column xs

end

/-- A document that nothing holds. -/
def rootChars : Json → List Char
  | .string s => textLine 2 s
  | .array xs@(_ :: _) => items 0 xs
  | .object xs@(_ :: _) => entries 0 xs
  | v => lineChars v ++ ['\n']

/-- The text of a document. -/
def render (v : Json) : String := String.ofList (rootChars v)

end Rulebook.Yaml
