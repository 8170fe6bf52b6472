/-!
# Reading YAML by lines

A cursor is the text that is left and how far it is from the start of its line. Any of five characters
ends a line; a carriage return and the line feed after it end only one.
-/

namespace Rulebook.Yaml

def isBreak (c : Char) : Bool :=
  c = '\n' || c = '\r' || c = '\x85' || c = '\u2028' || c = '\u2029'

def isSpace (c : Char) : Bool := c = ' ' || c = '\t'

/-- Letters, digits and two more, of which names consist. -/
def isWordChar (c : Char) : Bool := c.isAlphanum || c = '-' || c = '_'

/-- Whether a character, if there is one, belongs to no word. -/
def endsWord (c : Option Char) : Bool := c.all fun c => isSpace c || isBreak c

/-- Whether a text may hold a character. -/
def isAllowed (c : Char) : Bool :=
  let n := c.toNat
  n = 9 || n = 10 || n = 13 || (0x20 ≤ n && n ≤ 0x7E) || n = 0x85 || (0xA0 ≤ n && n ≤ 0xD7FF) ||
    (0xE000 ≤ n && n ≤ 0xFFFD) || 0x10000 ≤ n

structure Cursor where
  rest : List Char
  /-- How many characters were passed. -/
  index : Nat
  line : Nat
  column : Nat
  deriving Inhabited

namespace Cursor

def ofText (text : String) : Cursor :=
  match text.toList with
  | '\ufeff' :: cs => ⟨cs, 0, 0, 0⟩
  | cs => ⟨cs, 0, 0, 0⟩

def peek (c : Cursor) : Option Char := c.rest.head?

/-- The character `n` places further. -/
def ahead (c : Cursor) (n : Nat) : Option Char := c.rest[n]?

/-- Whether a character comes next. -/
def sees (c : Cursor) (x : Char) : Bool := c.peek = some x

def seesSpace (c : Cursor) : Bool := c.peek.any isSpace

def seesBreak (c : Cursor) : Bool := c.peek.any isBreak

/-- Passes characters of a line. -/
def skip (c : Cursor) (n : Nat) : Cursor :=
  { c with rest := c.rest.drop n, index := c.index + n, column := c.column + n }

/-- Passes the end of a line. -/
def nextLine (c : Cursor) : Cursor :=
  match c.rest with
  | '\r' :: '\n' :: cs => ⟨cs, c.index + 2, c.line + 1, 0⟩
  | _ :: cs => ⟨cs, c.index + 1, c.line + 1, 0⟩
  | [] => c

/-- What the end of a line leaves in a text: a line feed, unless it is a separator of Unicode. -/
def breakText (c : Cursor) : List Char :=
  match c.peek with
  | some '\u2028' => ['\u2028']
  | some '\u2029' => ['\u2029']
  | _ => ['\n']

/-- Characters of a class and what comes after them. -/
def span (c : Cursor) (p : Char → Bool) : List Char × Cursor :=
  let cs := c.rest.takeWhile p
  (cs, c.skip cs.length)

def skipWhile (c : Cursor) (p : Char → Bool) : Cursor := (c.span p).2

/-- Passes a comment, if one comes next. -/
def skipComment (c : Cursor) : Cursor :=
  if c.sees '#' then c.skipWhile fun x => !isBreak x else c

/-- Passes the blanks and the comment at the end of a line; nothing else may stand there. -/
def finishLine (c : Cursor) : Option Cursor :=
  let c := (c.skipWhile isSpace).skipComment
  if c.seesBreak then some c.nextLine else if c.rest.isEmpty then some c else none

/-- Whether a line starts here with three of a character, alone. -/
def seesMarker (c : Cursor) (x : Char) : Bool :=
  c.column = 0 && c.rest.take 3 = [x, x, x] && endsWord (c.ahead 3)

/-- Whether a document ends or starts here. -/
def seesDocumentMarker (c : Cursor) : Bool := c.seesMarker '-' || c.seesMarker '.'

end Cursor

end Rulebook.Yaml
