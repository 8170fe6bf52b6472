import Rulebook.Yaml.Token

/-!
# Texts in YAML

A text that runs over lines is folded: a single line end becomes a blank, of several all but the first
stay. In a literal block every line end stays.
-/

namespace Rulebook.Yaml

/-- What stands between two words: blanks, or line ends, around which blanks do not count. -/
structure Gap where
  blanks : List Char
  first : List Char
  more : List Char
  broken : Bool

namespace Gap

def none : Gap := ⟨[], [], [], false⟩

/-- What a gap leaves in a text. -/
def text (g : Gap) : List Char :=
  if !g.broken then g.blanks
  else if g.first = ['\n'] then (if g.more.isEmpty then [' '] else g.more)
  else g.first ++ g.more

def addBreak (g : Gap) (cs : List Char) : Gap :=
  if g.broken then { g with more := g.more ++ cs } else ⟨[], cs, [], true⟩

def addBlank (g : Gap) (x : Char) : Gap :=
  if g.broken then g else { g with blanks := g.blanks ++ [x] }

/-- Reads a gap. After a line end no tab may stand before the column `margin`. -/
def read (margin : Nat) : (n : Nat) → Gap → Cursor → Option (Gap × Cursor)
  | 0, g, c => some (g, c)
  | n + 1, g, c =>
    match c.peek with
    | some x =>
      if isSpace x then
        if g.broken && x = '\t' && c.column < margin then Option.none
        else read margin n (g.addBlank x) (c.skip 1)
      else if isBreak x then read margin n (g.addBreak c.breakText) c.nextLine
      else some (g, c)
    | Option.none => some (g, c)

end Gap

/-! ## Plain texts -/

def isFlowMark (c : Char) : Bool := [',', '[', ']', '\x7b', '\x7d'].contains c

/-- The word of a plain text that comes next: up to a blank, a colon before one or, in a flow
collection, a mark. There a colon may not stand before a mark. -/
def plainWord (flow : Bool) : List Char → Option (List Char)
  | [] => some []
  | x :: cs =>
    if isSpace x || isBreak x then some []
    else if flow && x = ':' && cs.head?.any (fun y => isFlowMark y || y = '?') then none
    else if x = ':' && endsWord cs.head? then some []
    else if flow && isFlowMark x then some []
    else (plainWord flow cs).map (x :: ·)

/-- Reads a plain text whose lines are indented by `margin` at least, after a text and a gap; says
also whether it ends after a line end. -/
def plainText (flow : Bool) (margin : Nat) : (n : Nat) → List Char → Gap → Cursor →
    Option (List Char × Bool × Cursor)
  | 0, text, g, c => some (text, g.broken, c)
  | n + 1, text, g, c =>
    if c.seesDocumentMarker || c.sees '#' then some (text, g.broken, c)
    else do
      let word ← plainWord flow c.rest
      let c := c.skip word.length
      let (text, g) := if word.isEmpty then (text, g) else (text ++ g.text ++ word, Gap.none)
      if !(c.seesSpace || c.seesBreak) then return (text, g.broken, c)
      let (g, c) ← g.read margin c.rest.length c
      if !flow && c.column < margin then return (text, g.broken, c)
      plainText flow margin n text g c

/-! ## Quoted texts -/

/-- The number that hexadecimal digits write. -/
def hexValue (cs : List Char) : Option Nat :=
  cs.foldlM (fun n x =>
    if x.isDigit then some (16 * n + (x.toNat - 48))
    else if 'a' ≤ x ∧ x ≤ 'f' then some (16 * n + (x.toNat - 87))
    else if 'A' ≤ x ∧ x ≤ 'F' then some (16 * n + (x.toNat - 55))
    else none) 0

/-- The escapes of one character. -/
def simpleEscapes : List (Char × Char) :=
  [('0', '\x00'), ('a', '\x07'), ('b', '\x08'), ('t', '\t'), ('\t', '\t'), ('n', '\n'), ('v', '\x0b'),
    ('f', '\x0c'), ('r', '\r'), ('e', '\x1b'), (' ', ' '), ('"', '"'), ('\'', '\''), ('\\', '\\'),
    ('/', '/'), ('N', '\x85'), ('_', '\xa0'), ('L', '\u2028'), ('P', '\u2029')]

/-- The character that an escape stands for, and how many characters write it after the backslash. -/
def escape (cs : List Char) : Option (Char × Nat) :=
  match cs with
  | [] => none
  | x :: cs =>
    let coded (digits : Nat) : Option (Char × Nat) := do
      guard (digits ≤ cs.length)
      let n ← hexValue (cs.take digits)
      guard n.isValidChar
      return (Char.ofNat n, digits + 1)
    match x with
    | 'x' => coded 2
    | 'u' => coded 4
    | 'U' => coded 8
    | x => (simpleEscapes.lookup x).map fun y => (y, 1)

/-- Reads a quoted text up to the next blank, line end or quote; says also whether it ended with an
escaped line end. -/
def quotedWord (quote : Char) : (n : Nat) → Cursor → Option (List Char × Bool × Cursor)
  | 0, c => some ([], false, c)
  | n + 1, c =>
    let more (x : Char) (k : Nat) : Option (List Char × Bool × Cursor) :=
      (quotedWord quote n (c.skip k)).map fun (cs, r) => (x :: cs, r)
    match c.peek with
    | none => some ([], false, c)
    | some x =>
      if isSpace x || isBreak x then some ([], false, c)
      else if quote = '\'' && x = '\'' && c.ahead 1 = some '\'' then more '\'' 2
      else if x = quote then some ([], false, c)
      else if quote = '"' && x = '\\' then
        if (c.ahead 1).any isBreak then some ([], true, (c.skip 1).nextLine)
        else (escape (c.rest.drop 1)).bind fun (y, k) => more y (k + 1)
      else more x 1

/-- Reads a quoted text after its first quote. -/
def quotedText (quote : Char) : (n : Nat) → List Char → Cursor → Option (List Char × Cursor)
  | 0, _, _ => none
  | n + 1, text, c =>
    if c.seesDocumentMarker || c.rest.isEmpty then none
    else do
      let (word, joined, c) ← quotedWord quote (c.rest.length + 1) c
      let text := text ++ word
      if c.sees quote then return (text, c.skip 1)
      let (g, c) ← Gap.read 0 c.rest.length { Gap.none with broken := joined } c
      quotedText quote n (text ++ g.text) c

/-! ## Blocks -/

/-- How a block ends: without a line end, with one, or with all. -/
inductive Chomp where
  | strip
  | clip
  | keep
  deriving DecidableEq

/-- The marks after the sign of a block, in either order: how it ends and how far it is indented. -/
def blockHeader (c : Cursor) : Option (Chomp × Option Nat × Cursor) :=
  let chomp? (c : Cursor) : Option (Chomp × Cursor) :=
    if c.sees '+' then some (.keep, c.skip 1) else if c.sees '-' then some (.strip, c.skip 1) else none
  let indent? (c : Cursor) : Option (Option Nat × Cursor) :=
    match c.peek with
    | some x =>
      if x = '0' then none else if x.isDigit then some (some (x.toNat - 48), c.skip 1) else some (none, c)
    | none => some (none, c)
  match chomp? c with
  | some (chomp, c) => (indent? c).map fun (indent, c) => (chomp, indent, c)
  | none =>
    (indent? c).map fun (indent, c) =>
      match if indent.isSome then chomp? c else none with
      | some (chomp, c) => (chomp, indent, c)
      | none => (.clip, indent, c)

/-- Reads empty lines and the indent after them, up to column `indent` if it is known; gives the line
ends and the widest column. A tab may not stand in the indent. -/
def blockGap (indent : Option Nat) : (n : Nat) → List Char → Nat → Cursor →
    Option (List Char × Nat × Cursor)
  | 0, breaks, widest, c => some (breaks, widest, c)
  | n + 1, breaks, widest, c =>
    let spaces := (c.rest.takeWhile (· = ' ')).length
    let c := c.skip (indent.elim spaces fun i => min spaces (i - c.column))
    let widest := max widest c.column
    if indent.all (c.column < ·) && c.sees '\t' then none
    else if c.seesBreak then blockGap indent n (breaks ++ c.breakText) widest c.nextLine
    else some (breaks, widest, c)

/-- Reads the lines of a block from a column on, after a text, the end of its last line, the ends of
empty lines, and whether its last line started with a blank. -/
def blockLines (folded : Bool) (indent : Nat) : (n : Nat) → (text last more : List Char) →
    (blank : Bool) → Cursor → Option (List Char × List Char × List Char × Cursor)
  | 0, text, last, more, _, c => some (text, last, more, c)
  | n + 1, text, last, more, blank, c =>
    if c.column ≠ indent || c.rest.isEmpty then some (text, last, more, c)
    else do
      let starts := c.seesSpace
      let joint :=
        if folded && last = ['\n'] && !blank && !starts then (if more.isEmpty then [' '] else [])
        else last
      let (line, c) := c.span fun x => !isBreak x
      let (last, c) := if c.seesBreak then (c.breakText, c.nextLine) else ([], c)
      let (breaks, _, c) ← blockGap (some indent) (c.rest.length + 1) [] 0 c
      blockLines folded indent n (text ++ joint ++ more ++ line) last breaks starts c

/-- Reads a block after its sign; the block around it is indented by `parent`, if there is one. -/
def blockText (folded : Bool) (parent : Option Nat) (c : Cursor) : Option (List Char × Cursor) := do
  let (chomp, increment, c) ← blockHeader c
  let c ← c.finishLine
  let known := increment.map fun i => parent.getD 0 + i
  let (breaks, widest, c) ← blockGap known (c.rest.length + 1) [] 0 c
  let least := parent.elim 1 fun p => p + 1
  let indent := known.getD (max widest least)
  let (text, last, more, c) ← blockLines folded indent (c.rest.length + 1) [] [] breaks false c
  return (text ++ (if chomp = .strip then [] else last) ++ (if chomp = .keep then more else []), c)

end Rulebook.Yaml
