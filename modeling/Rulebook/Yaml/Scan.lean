import Rulebook.Yaml.Text

/-!
# From characters to tokens

A block starts where a token is indented further than the block around it, and ends before one that is
indented less. Whether a word is a key shows only at the colon after it: the tokens of a key are then put
before the word, so a scan remembers where a key may have started.
-/

namespace Rulebook.Yaml

/-- Where a key may have started, and how many tokens came before. -/
structure Candidate where
  line : Nat
  index : Nat
  column : Nat
  count : Nat
  /-- Nothing but a key can stand at its place. -/
  required : Bool

structure Scan where
  cursor : Cursor
  /-- The tokens so far, the last one first. -/
  tokens : List Token
  count : Nat
  /-- How many flow collections are open. -/
  flow : Nat
  /-- The columns of the open blocks, innermost first. -/
  indents : List Nat
  keyAllowed : Bool
  /-- The candidate of each open flow collection, innermost first, and that of the block around them. -/
  candidates : List (Option Candidate)

namespace Scan

/-- How long a key may be that has no mark before it. -/
def maxKey : Nat := 1024

def start (text : String) : Scan := ⟨.ofText text, [], 0, 0, [], true, [none]⟩

def indent? (s : Scan) : Option Nat := s.indents.head?

def emit (s : Scan) (t : Token) : Scan := { s with tokens := t :: s.tokens, count := s.count + 1 }

/-- Puts a token after the first `count` of them. -/
def insert (s : Scan) (count : Nat) (t : Token) : Scan :=
  let later := s.count - count
  { s with tokens := s.tokens.take later ++ t :: s.tokens.drop later, count := s.count + 1 }

/-- Emits a token and passes the characters that write it. -/
def mark (s : Scan) (length : Nat) (t : Token) : Scan :=
  { s.emit t with cursor := s.cursor.skip length }

/-- Opens a block at a column if that is further than the block around it. -/
def openBlock (s : Scan) (column count : Nat) (t : Token) : Scan :=
  if s.flow = 0 && s.indent?.all (· < column) then
    { s.insert count t with indents := column :: s.indents }
  else s

/-- Closes the blocks that are indented further than a column. -/
def closeBlocks (s : Scan) (column : Nat) : Scan :=
  if s.flow ≠ 0 then s
  else
    let closed := s.indents.takeWhile (column < ·)
    closed.foldl (fun s _ => s.emit .blockEnd) { s with indents := s.indents.drop closed.length }

/-- Closes all blocks. -/
def closeAll (s : Scan) : Scan :=
  if s.flow ≠ 0 then s
  else s.indents.foldl (fun s _ => s.emit .blockEnd) { s with indents := [] }

/-! ## Keys -/

def Candidate.isStale (k : Candidate) (c : Cursor) : Bool :=
  k.line < c.line || k.index + maxKey < c.index

/-- Forgets the keys that can no longer be; one that is required must not be among them. -/
def dropStale (s : Scan) : Option Scan :=
  if s.candidates.any fun k => k.any fun k => k.required && Candidate.isStale k s.cursor then none
  else some { s with candidates := s.candidates.map (·.filter fun k => !Candidate.isStale k s.cursor) }

/-- The token that comes next does not belong to a key. -/
def dropKey (s : Scan) : Option Scan :=
  match s.candidates with
  | some k :: rest => if k.required then none else some { s with candidates := none :: rest }
  | _ => some s

/-- The token that comes next may start a key. -/
def saveKey (s : Scan) : Option Scan :=
  if s.keyAllowed then
    s.dropKey.map fun s =>
      let c := s.cursor
      let k : Candidate :=
        ⟨c.line, c.index, c.column, s.count, s.flow = 0 && s.indent? = some c.column⟩
      { s with candidates := some k :: s.candidates.drop 1 }
  else some s

/-! ## Between tokens -/

/-- Passes blanks, comments and line ends; `n` bounds the lines. -/
def skipBlank : (n : Nat) → Scan → Scan
  | 0, s => s
  | n + 1, s =>
    let c := if s.cursor.index = 0 && s.cursor.sees '\ufeff' then s.cursor.skip 1 else s.cursor
    let tabs := s.flow ≠ 0 || !s.keyAllowed
    let c := (c.skipWhile fun x => x = ' ' || (tabs && x = '\t')).skipComment
    if c.seesBreak then
      skipBlank n { s with cursor := c.nextLine, keyAllowed := s.keyAllowed || s.flow = 0 }
    else { s with cursor := c }

/-! ## Directives and tags -/

/-- A number of a version, of nine digits at most. -/
def versionNumber (c : Cursor) : Option (Nat × Cursor) :=
  let (digits, c) := c.span Char.isDigit
  if digits.isEmpty || 9 < digits.length then none
  else some (digits.foldl (fun n x => 10 * n + (x.toNat - 48)) 0, c)

/-- The handle of a tag; in a directive it ends in its sign. -/
def tagHandle (directive : Bool) (c : Cursor) : Option (String × Cursor) :=
  if !c.sees '!' then none
  else
    let (word, c) := (c.skip 1).span isWordChar
    if c.sees '!' then some (String.ofList ('!' :: word ++ ['!']), c.skip 1)
    else if directive && !word.isEmpty then none
    else some (String.ofList ('!' :: word), c)

/-- The bytes that percent signs write. -/
def percentBytes : (n : Nat) → Cursor → Option (List UInt8 × Cursor)
  | 0, c => some ([], c)
  | n + 1, c =>
    if c.sees '%' then do
      let digits := (c.rest.drop 1).take 2
      guard (digits.length = 2)
      let b ← hexValue digits
      let (bytes, c) ← percentBytes n (c.skip 3)
      return (UInt8.ofNat b :: bytes, c)
    else some ([], c)

/-- The rest of a tag. Commas and brackets belong only to one in angles. -/
def tagRest (angled : Bool) : (n : Nat) → Cursor → Option (List Char × Cursor)
  | 0, c => some ([], c)
  | n + 1, c =>
    match c.peek with
    | none => some ([], c)
    | some x =>
      if x = '%' then do
        let (bytes, c) ← percentBytes (c.rest.length) c
        let text ← String.fromUTF8? bytes.toByteArray
        let (cs, c) ← tagRest angled n c
        return (text.toList ++ cs, c)
      else if isWordChar x || ";/?:@&=+$.!~*\'()".contains x || (angled && ",[]".contains x) then
        (tagRest angled n (c.skip 1)).map fun (cs, c) => (x :: cs, c)
      else some ([], c)

/-- A tag, split into its handle and what comes after it. -/
def tag (s : Scan) : Option Scan := do
  let c := s.cursor
  let (t, c) ←
    if c.ahead 1 = some '<' then do
      let (cs, c) ← tagRest true c.rest.length (c.skip 2)
      guard (!cs.isEmpty && c.sees '>')
      pure (Token.tag "" (String.ofList cs), c.skip 1)
    else do
      let (handle, after) ← tagHandle false c
      if 2 ≤ handle.length && handle.endsWith "!" then do
        let (cs, c) ← tagRest false c.rest.length after
        guard (!cs.isEmpty)
        pure (Token.tag handle (String.ofList cs), c)
      else do
        let (cs, c) ← tagRest false c.rest.length after
        let suffix := String.ofList (handle.toList.drop 1 ++ cs)
        pure (if suffix.isEmpty then (Token.tag "" "!", c) else (Token.tag "!" suffix, c))
  guard (endsWord c.peek || (s.flow ≠ 0 && c.sees ','))
  return { s.emit t with cursor := c }

/-- A directive of either kind. -/
def directive (s : Scan) : Option Scan := do
  let (word, c) := (s.cursor.skip 1).span isWordChar
  guard (!word.isEmpty && endsWord c.peek)
  let c := c.skipWhile isSpace
  if word = "YAML".toList then
    let (major, c) ← versionNumber c
    guard (c.sees '.')
    let (minor, c) ← versionNumber (c.skip 1)
    let c ← c.finishLine
    return { s.emit (.version major minor) with cursor := c }
  else if word = "TAG".toList then
    let (handle, c) ← tagHandle true c
    guard c.seesSpace
    let (expansion, c) ← tagRest true c.rest.length (c.skipWhile isSpace)
    guard (!expansion.isEmpty && endsWord c.peek)
    let c ← c.finishLine
    return { s.emit (.handle handle (String.ofList expansion)) with cursor := c }
  else none

/-- The name after the sign of an anchor or of a reference. -/
def name (s : Scan) (toToken : String → Token) : Option Scan :=
  let (word, c) := (s.cursor.skip 1).span isWordChar
  let ends := endsWord c.peek || c.peek.any fun x => "?:,]\x7d%@".contains x || x = '\x60'
  if word.isEmpty || !ends then none
  else some { s.emit (toToken (String.ofList word)) with cursor := c }

/-! ## Steps -/

/-- Before a mark that opens a flow collection. -/
def openFlow (s : Scan) (t : Token) : Option Scan :=
  s.saveKey.map fun s =>
    { s.mark 1 t with flow := s.flow + 1, candidates := none :: s.candidates, keyAllowed := true }

def closeFlow (s : Scan) (t : Token) : Option Scan :=
  s.dropKey.map fun s =>
    { s.mark 1 t with
      flow := s.flow - 1
      candidates := if s.flow = 0 then s.candidates else s.candidates.drop 1
      keyAllowed := false }

def item (s : Scan) : Option Scan :=
  if s.flow = 0 && !s.keyAllowed then none
  else
    (s.openBlock s.cursor.column s.count .blockSequence).dropKey.map fun s =>
      { s.mark 1 .item with keyAllowed := true }

def explicitKey (s : Scan) : Option Scan :=
  if s.flow = 0 && !s.keyAllowed then none
  else
    (s.openBlock s.cursor.column s.count .blockMapping).dropKey.map fun s =>
      { s.mark 1 .key with keyAllowed := s.flow = 0 }

def value (s : Scan) : Option Scan :=
  match s.candidates with
  | some k :: rest =>
    let s := (s.insert k.count .key).openBlock k.column k.count .blockMapping
    some { s.mark 1 .value with candidates := none :: rest, keyAllowed := false }
  | _ =>
    if s.flow = 0 && !s.keyAllowed then none
    else
      let s := s.openBlock s.cursor.column s.count .blockMapping
      some { s.mark 1 .value with keyAllowed := s.flow = 0 }

/-- A text that may be a key. -/
def flowText (s : Scan) (read : Cursor → Option (List Char × Bool × Cursor)) (style : Style) :
    Option Scan := do
  let s ← s.saveKey
  let (text, broken, c) ← read s.cursor
  return { s.emit (.scalar style (String.ofList text)) with cursor := c, keyAllowed := broken }

def blockScalar (s : Scan) (style : Style) : Option Scan := do
  let s ← s.dropKey
  let (text, c) ← blockText (style = .folded) s.indent? (s.cursor.skip 1)
  return { s.emit (.scalar style (String.ofList text)) with cursor := c, keyAllowed := true }

/-- Ends what is open before a directive or the mark of a document. -/
def endContent (s : Scan) : Option Scan := s.closeAll.dropKey.map fun s => { s with keyAllowed := false }

/-- Whether a plain text starts here. -/
def startsPlain (s : Scan) (x : Char) : Bool :=
  let next := s.cursor.ahead 1
  let isMark := "-?:,[]\x7b\x7d#&*!|>\'\"%@".contains x || x = '\x60'
  !(isSpace x || isMark) || (x = '-' && !next.any isSpace) ||
    (s.flow = 0 && (x = '?' || x = ':') && !endsWord next)

/-- Reads the token that starts with a character. -/
def tokenAt (s : Scan) (x : Char) : Option Scan :=
  let c := s.cursor
  let alone := endsWord (c.ahead 1)
  let quoted (c : Cursor) : Option (List Char × Bool × Cursor) :=
    (quotedText x (c.rest.length + 1) [] (c.skip 1)).map fun (text, c) => (text, false, c)
  let plain (c : Cursor) : Option (List Char × Bool × Cursor) :=
    plainText (s.flow ≠ 0) (s.indent?.elim 0 (· + 1)) (c.rest.length + 1) [] .none c
  if c.column = 0 && x = '%' then s.endContent.bind directive
  else if c.seesMarker '-' then s.endContent.map fun s => s.mark 3 .documentStart
  else if c.seesMarker '.' then s.endContent.map fun s => s.mark 3 .documentEnd
  else if x = '[' then s.openFlow .sequenceStart
  else if x = '\x7b' then s.openFlow .mappingStart
  else if x = ']' then s.closeFlow .sequenceEnd
  else if x = '\x7d' then s.closeFlow .mappingEnd
  else if x = ',' then s.dropKey.map fun s => { s.mark 1 .comma with keyAllowed := true }
  else if x = '-' && alone then s.item
  else if x = '?' && (s.flow ≠ 0 || alone) then s.explicitKey
  else if x = ':' && (s.flow ≠ 0 || alone) then s.value
  else if x = '*' || x = '&' then
    s.saveKey.bind fun s =>
      name { s with keyAllowed := false } (if x = '*' then .reference else .anchor)
  else if x = '!' then s.saveKey.bind fun s => tag { s with keyAllowed := false }
  else if x = '|' && s.flow = 0 then s.blockScalar .literal
  else if x = '>' && s.flow = 0 then s.blockScalar .folded
  else if x = '\'' || x = '"' then s.flowText quoted .quoted
  else if s.startsPlain x then s.flowText plain .plain
  else none

/-- Reads tokens up to the end; `n` bounds their number. -/
def run : (n : Nat) → Scan → Option (List Token)
  | 0, _ => none
  | n + 1, s => do
    let s := s.skipBlank (s.cursor.rest.length + 1)
    let s ← s.dropStale
    let s := s.closeBlocks s.cursor.column
    match s.cursor.peek with
    | some x => run n (← s.tokenAt x)
    | none =>
      let s ← s.closeAll.dropKey
      return s.tokens.reverse

end Scan

/-- The tokens of a text, or nothing if it is not well formed. -/
def Tokens.ofText? (text : String) : Option (List Token) :=
  if text.toList.all isAllowed then (Scan.start text).run (text.length + 1) else none

end Rulebook.Yaml
