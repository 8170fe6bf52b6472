import Rulebook.Regex.Syntax
import Rulebook.Text.Ranges
import Rulebook.Unicode.Category
import Rulebook.Unicode.Property

/-!
# Reading regex patterns

A reader takes characters off the pattern or finds it malformed; why it is malformed is not told. The
two loops, over a pattern and over a class, keep what encloses the current place on a stack. Each round
takes a character, so the length of the pattern bounds their rounds.
-/

namespace Rulebook.Regex

structure Input where
  rest : List Char
  /-- Whether blanks and comments are skipped. -/
  ignoreSpace : Bool
  /-- The names of the groups so far. -/
  names : List String

abbrev Read := StateT Input Option

def malformed {α : Type} : Read α := fun _ => none

/-! ## Characters -/

/-- Skips blanks and comments, which start with `#` and end with the line. -/
def skipBlanks : (inComment : Bool) → List Char → List Char
  | true, c :: cs => if c = '\n' then skipBlanks false cs else skipBlanks true cs
  | false, c :: cs =>
    if isBlank c then skipBlanks false cs
    else if c = '#' then skipBlanks true cs
    else c :: cs
  | _, [] => []

def peek : Read (Option Char) := do return (← get).rest.head?

/-- The character here, which has to be there. -/
def here : Read Char := do
  match ← peek with
  | some c => return c
  | none => malformed

def bump : Read Unit := modify fun i => { i with rest := i.rest.tail }

def skipSpace : Read Unit :=
  modify fun i => if i.ignoreSpace then { i with rest := skipBlanks false i.rest } else i

/-- Passes a character and blanks; the character there, if any. -/
def advance : Read (Option Char) := do
  bump
  skipSpace
  peek

/-- Passes a character and blanks; there has to be another. -/
def advanceHere : Read Char := do
  match ← advance with
  | some c => return c
  | none => malformed

/-- The character after the one here, blanks between them skipped. -/
def peekAfter : Read (Option Char) := do
  let i ← get
  let rest := i.rest.tail
  return (if i.ignoreSpace then skipBlanks false rest else rest).head?

/-- Passes `text` if it stands here. -/
def bumpIf (text : String) : Read Bool := do
  let i ← get
  if text.toList.isPrefixOf i.rest then
    set { i with rest := i.rest.drop text.length }
    return true
  else return false

/-- Takes characters that satisfy `p`, skipping blanks after each. -/
def takeWhile (p : Char → Bool) : Read (List Char) := do
  let rec go : Nat → List Char → Read (List Char)
    | 0, taken => return taken.reverse
    | n + 1, taken => do
      match ← peek with
      | some c => if p c then do let _ ← advance; go n (c :: taken) else return taken.reverse
      | none => return taken.reverse
  go (← get).rest.length []

/-! ## Escapes -/

inductive Primitive where
  | literal (l : Literal)
  | dot
  | assertion (a : Assertion)
  | perl (negated : Bool) (kind : Perl)
  | property (negated : Bool) (query : PropertyQuery)

def isMeta (c : Char) : Bool := "\\.+*?()|[]\x7b\x7d^$#&-~".toList.contains c

/-- Whether a backslash before `c` gives `c` itself. -/
def isEscapable (c : Char) : Bool :=
  isMeta c || (c.toNat < 128 && !c.isAlphanum && c != '<' && c != '>')

def hexValue (c : Char) : Option Nat :=
  if c.isDigit then some (c.toNat - 48)
  else if 'a' ≤ c ∧ c ≤ 'f' then some (c.toNat - 87)
  else if 'A' ≤ c ∧ c ≤ 'F' then some (c.toNat - 55)
  else none

def isHex (c : Char) : Bool := (hexValue c).isSome

def hexNumber (ds : List Char) : Nat := ds.foldl (fun n c => n * 16 + (hexValue c).getD 0) 0

/-- The character of a code point, if it is one of 32 bits at most. -/
def charOf (n : Nat) : Read Char := if n.isValidChar then return Char.ofNat n else malformed

/-- `n` more hexadecimal digits, the first one here. -/
def readHexDigits : Nat → Read (List Char)
  | 0 => return []
  | n + 1 => do
    let c ← here
    if isHex c then
      let _ ← advance
      return c :: (← readHexDigits n)
    else malformed

/-- A code point in hexadecimal, with the letter that says how many digits it has here. -/
def readHex (letter : Char) : Read Literal := do
  let digits := if letter = 'x' then 2 else if letter = 'u' then 4 else 8
  let c ← advanceHere
  if c = '\x7b' then
    let _ ← advance
    let ds ← takeWhile isHex
    let close ← here
    if close ≠ '\x7d' ∨ ds.isEmpty then malformed
    else
      let _ ← advance
      return ⟨← charOf (hexNumber ds), false⟩
  else
    let ds ← readHexDigits digits
    return ⟨← charOf (hexNumber ds), letter = 'x'⟩

/-- The text before the first `mark`, and the text after it. -/
def cut (mark : List Char) : List Char → Option (List Char × List Char)
  | [] => none
  | c :: cs =>
    if mark.isPrefixOf (c :: cs) then some ([], (c :: cs).drop mark.length)
    else (cut mark cs).map fun (before, after) => (c :: before, after)

def propertyQuery (text : List Char) : PropertyQuery :=
  match cut ['!', '='] text with
  | some (n, v) => .valued (String.ofList n) (String.ofList v) false
  | none =>
    match cut [':'] text with
    | some (n, v) => .valued (String.ofList n) (String.ofList v) true
    | none =>
      match cut ['='] text with
      | some (n, v) => .valued (String.ofList n) (String.ofList v) true
      | none => .named (String.ofList text)

/-- A property after `p` or `P`, which stands here. -/
def readProperty (negated : Bool) : Read Primitive := do
  let c ← advanceHere
  if c = '\x7b' then
    let _ ← advance
    let name ← takeWhile (· != '\x7d')
    let _ ← here
    bump
    return .property negated (propertyQuery name)
  else if c = '\\' then malformed
  else
    let _ ← advance
    return .property negated (.letter c)

/-- A name of a word boundary in braces; text in braces that starts otherwise is left alone. -/
def readBoundaryName : Read (Option Assertion) := do
  let isNameChar := fun c : Char => c.isAlpha || c = '-'
  let start ← get
  let c ← advanceHere
  if isNameChar c then
    let name ← takeWhile isNameChar
    let close ← here
    if close ≠ '\x7d' then malformed
    else
      bump
      match String.ofList name with
      | "start" => return some .wordStart
      | "end" => return some .wordEnd
      | "start-half" => return some .wordStartHalf
      | "end-half" => return some .wordEndHalf
      | _ => malformed
  else
    set start
    return none

/-- An escape whose backslash stands here. -/
def readEscape : Read Primitive := do
  bump
  let c ← here
  match c with
  | 'x' | 'u' | 'U' => return .literal (← readHex c)
  | 'p' => readProperty false
  | 'P' => readProperty true
  | 'd' => bump; return .perl false .digit
  | 'D' => bump; return .perl true .digit
  | 's' => bump; return .perl false .space
  | 'S' => bump; return .perl true .space
  | 'w' => bump; return .perl false .word
  | 'W' => bump; return .perl true .word
  | _ =>
    bump
    if isEscapable c then return .literal ⟨c, false⟩
    else
      match c with
      | 'a' => return .literal ⟨'\x07', false⟩
      | 'f' => return .literal ⟨'\x0c', false⟩
      | 't' => return .literal ⟨'\t', false⟩
      | 'n' => return .literal ⟨'\n', false⟩
      | 'r' => return .literal ⟨'\r', false⟩
      | 'v' => return .literal ⟨'\x0b', false⟩
      | 'A' => return .assertion .startText
      | 'z' => return .assertion .endText
      | 'b' =>
        if (← peek) = some '\x7b' then
          match ← readBoundaryName with
          | some a => return .assertion a
          | none => return .assertion .wordBoundary
        else return .assertion .wordBoundary
      | 'B' => return .assertion .notWordBoundary
      | '<' => return .assertion .wordStart
      | '>' => return .assertion .wordEnd
      | _ => malformed

def readPrimitive : Read Primitive := do
  match ← here with
  | '\\' => readEscape
  | '.' => bump; return .dot
  | '^' => bump; return .assertion .startLine
  | '$' => bump; return .assertion .endLine
  | c => bump; return .literal ⟨c, false⟩

def Primitive.toSyntax : Primitive → Syntax
  | literal l => .literal l
  | dot => .dot
  | assertion a => .assertion a
  | perl n k => .perl n k
  | property n q => .property n q

/-! ## Classes -/

/-- What encloses the current place in a class: an open bracket with the items before it, or an
operation with its left side. -/
inductive ClassFrame where
  | bracket (negated : Bool) (before : List ClassSet)
  | op (kind : SetOp) (lhs : ClassSet)

/-- The union of items, last first. -/
def unionOf : List ClassSet → ClassSet
  | [] => .empty
  | [item] => item
  | items => .union items.reverse

/-- Applies the operation on top of the stack, if there is one. -/
def closeOp (rhs : ClassSet) : List ClassFrame → ClassSet × List ClassFrame
  | .op kind lhs :: frames => (.op kind lhs rhs, frames)
  | frames => (rhs, frames)

def asciiNames : List String :=
  ["alnum", "alpha", "ascii", "blank", "cntrl", "digit", "graph", "lower", "print", "punct", "space",
    "upper", "word", "xdigit"]

/-- A class such as `[:alpha:]`, if one stands here. -/
def readAscii : Read (Option ClassSet) := do
  let start ← get
  match start.rest with
  | '[' :: ':' :: rest =>
    let (negated, rest) := match rest with
      | '^' :: rest => (true, rest)
      | rest => (false, rest)
    let name := String.ofList (rest.takeWhile (· != ':'))
    match rest.dropWhile (· != ':') with
    | ':' :: ']' :: rest =>
      if asciiNames.contains name then
        set { start with rest := rest }
        return some (.ascii negated name)
      else return none
    | _ => return none
  | _ => return none

def readSetItem : Read Primitive := do
  let c ← here
  if c = '\\' then readEscape
  else
    bump
    return .literal ⟨c, false⟩

def Primitive.classSet : Primitive → Read ClassSet
  | literal l => return .literal l
  | perl n k => return .perl n k
  | property n q => return .property n q
  | dot | assertion _ => malformed

def Primitive.bound : Primitive → Read Literal
  | literal l => return l
  | _ => malformed

/-- An item of a class, or a range: a dash before `]` or another dash is no range. -/
def readRange : Read ClassSet := do
  let first ← readSetItem
  skipSpace
  let c ← here
  let after ← peekAfter
  if c ≠ '-' ∨ after = some ']' ∨ after = some '-' then first.classSet
  else
    let _ ← advanceHere
    let last ← readSetItem
    let a ← first.bound
    let b ← last.bound
    if b.char < a.char then malformed else return .range a b

/-- Dashes at the start of a class, which stand for themselves. -/
def readDashes : Nat → List ClassSet → Read (List ClassSet)
  | 0, items => return items
  | n + 1, items => do
    if (← here) = '-' then
      let _ ← advanceHere
      readDashes n (.literal ⟨'-', false⟩ :: items)
    else return items

/-- The opening bracket of a class, its negation, and the characters that stand for themselves only
there. -/
def openClass : Read (Bool × List ClassSet) := do
  let c ← advanceHere
  let negated := c = '^'
  if negated then let _ ← advanceHere
  let items ← readDashes (← get).rest.length []
  if items.isEmpty ∧ (← here) = ']' then
    let _ ← advanceHere
    return (negated, [.literal ⟨']', false⟩])
  else return (negated, items)

/-- The rest of a class: `frames` enclose the place, the innermost first, and `items` stand before it,
last first. -/
def readClassFrom : Nat → List ClassFrame → List ClassSet → Read (Bool × ClassSet)
  | 0, _, _ => malformed
  | n + 1, frames, items => do
    skipSpace
    let c ← here
    let second := (← get).rest[1]?
    let opKind : Option SetOp :=
      if c = '&' ∧ second = some '&' then some .inter
      else if c = '-' ∧ second = some '-' then some .diff
      else if c = '~' ∧ second = some '~' then some .symmDiff
      else none
    match c, opKind with
    | '[', _ =>
      let ascii ← if frames.isEmpty then pure none else readAscii
      match ascii with
      | some item => readClassFrom n frames (item :: items)
      | none =>
        let (negated, inner) ← openClass
        readClassFrom n (.bracket negated items :: frames) inner
    | ']', _ =>
      bump
      let (set, frames) := closeOp (unionOf items) frames
      match frames with
      | .bracket negated before :: [] => if before.isEmpty then return (negated, set) else malformed
      | .bracket negated before :: frames =>
        readClassFrom n frames (.bracketed negated set :: before)
      | _ => malformed
    | _, some kind =>
      bump
      bump
      let (lhs, frames) := closeOp (unionOf items) frames
      readClassFrom n (.op kind lhs :: frames) []
    | _, none =>
      let item ← readRange
      readClassFrom n frames (item :: items)

/-- A class whose bracket stands here. -/
def readClass : Read Syntax := do
  let n := (← get).rest.length + 1
  let (negated, inner) ← openClass
  let (negated, set) ← readClassFrom n [.bracket negated []] inner
  return .cls negated set

/-! ## Repetition -/

/-- The expression that a repetition repeats. -/
def repeatable (parts : List Syntax) : Read (Syntax × List Syntax) :=
  match parts with
  | [] | .empty :: _ | .flags _ :: _ => malformed
  | part :: parts => return (part, parts)

def readRepetition (min : Nat) (max : Option Nat) (parts : List Syntax) : Read (List Syntax) := do
  let (body, parts) ← repeatable parts
  bump
  if (← peek) = some '?' then bump
  return .repeated body min max :: parts

/-- A number of repetitions, of 32 bits at most, if digits stand here. -/
def readCount : Read (Option Nat) := do
  modify fun i => { i with rest := i.rest.dropWhile isBlank }
  let ds ← takeWhile Char.isDigit
  let _ ← takeWhile isBlank
  if ds.isEmpty then return none
  else
    let n := ds.foldl (fun n c => n * 10 + (c.toNat - 48)) 0
    if n < UInt32.size then return some n else malformed

def readCounted (parts : List Syntax) : Read (List Syntax) := do
  let (body, parts) ← repeatable parts
  let _ ← advanceHere
  let first ← readCount
  let c ← here
  let (min, max) ←
    if c = ',' then
      let c ← advanceHere
      if c = '\x7d' then
        match first with
        | some m => pure (m, none)
        | none => malformed
      else
        match ← readCount with
        | some k => pure (first.getD 0, some k)
        | none => malformed
    else
      match first with
      | some m => pure (m, some m)
      | none => malformed
  if (← here) ≠ '\x7d' then malformed
  else if (← advance) = some '?' then bump
  if max.any (· < min) then malformed else return .repeated body min max :: parts

/-! ## Groups -/

def flagOf : Char → Option Flag
  | 'i' => some .caseInsensitive
  | 'm' => some .multiLine
  | 's' => some .dotAll
  | 'U' => some .swapGreed
  | 'u' => some .unicode
  | 'R' => some .crlf
  | 'x' => some .ignoreSpace
  | _ => none

/-- The flags of a group up to `:` or `)`, none twice; items so far are last first. -/
def readFlags : Nat → List FlagItem → Read (List FlagItem)
  | 0, _ => malformed
  | n + 1, items => do
    let c ← here
    if c = ':' ∨ c = ')' then
      if items.head? = some .negation then malformed else return items.reverse
    else
      let item ← if c = '-' then pure FlagItem.negation else
        match flagOf c with
        | some f => pure (.flag f)
        | none => malformed
      if items.contains item then malformed
      else
        bump
        let _ ← here
        readFlags n (item :: items)

/-- What flags say about one: set, cleared or nothing. -/
def flagState (f : Flag) : (set : Bool) → List FlagItem → Option Bool
  | _, [] => none
  | _, .negation :: items => flagState f false items
  | set, .flag g :: items => if f = g then some set else flagState f set items

def alphabetic : Ranges :=
  (charProperties.find? fun p => p.names.contains "alphabetic").elim ⟨#[]⟩ CharProperty.chars

def numeric : Ranges := Category.charsOf [.decimalNumber, .letterNumber, .otherNumber]

def isNameStart (c : Char) : Bool := c = '_' || alphabetic.has c

def isNameChar (c : Char) : Bool :=
  c = '_' || c = '.' || c = '[' || c = ']' || alphabetic.has c || numeric.has c

/-- The name of a group up to `>`; no two groups have the same. -/
def readName : Read Unit := do
  let i ← get
  let name := i.rest.takeWhile (· != '>')
  let rest := i.rest.dropWhile (· != '>')
  let good := match name with
    | c :: cs => isNameStart c && cs.all isNameChar
    | [] => false
  if rest.isEmpty ∨ good = false ∨ i.names.contains (String.ofList name) then malformed
  else set { i with rest := rest.tail, names := String.ofList name :: i.names }

def isLookaround (rest : List Char) : Bool :=
  ["?=", "?!", "?<=", "?<!"].any fun t => t.toList.isPrefixOf rest

/-- What a parenthesis opens: a setting of flags, or a group with flags of its own. -/
def openGroup : Read (List FlagItem ⊕ List FlagItem) := do
  bump
  skipSpace
  if isLookaround (← get).rest then malformed
  if ← bumpIf "?P<" then
    readName
    return .inr []
  else if ← bumpIf "?<" then
    readName
    return .inr []
  else if ← bumpIf "?" then
    let _ ← here
    let items ← readFlags ((← get).rest.length + 1) []
    let close ← here
    bump
    if close = ')' then
      if items.isEmpty then malformed else return .inl items
    else return .inr items
  else return .inr []

/-! ## Patterns -/

/-- What encloses the current place: a group with the parts before it, or options before the current
one, last first. -/
inductive Frame where
  | group (flags : List FlagItem) (before : List Syntax) (ignoreSpace : Bool)
  | alternation (options : List Syntax)

/-- Parts in a row, last first. -/
def concatOf : List Syntax → Syntax
  | [] => .empty
  | [part] => part
  | parts => .concat parts.reverse

/-- The options of the innermost alternation, with the parts after its last bar. -/
def closeAlternation (parts : List Syntax) : List Frame → Syntax × List Frame
  | .alternation options :: frames => (.alternation (concatOf parts :: options).reverse, frames)
  | frames => (concatOf parts, frames)

def setIgnoreSpace (b : Bool) : Read Unit := modify fun i => { i with ignoreSpace := b }

/-- The rest of a pattern: `frames` enclose the place, the innermost first, and `parts` stand before
it, last first. -/
def readFrom : Nat → List Frame → List Syntax → Read Syntax
  | 0, _, _ => malformed
  | n + 1, frames, parts => do
    skipSpace
    match ← peek with
    | none =>
      match closeAlternation parts frames with
      | (s, []) => return s
      | _ => malformed
    | some '(' =>
      let old := (← get).ignoreSpace
      match ← openGroup with
      | .inl items =>
        setIgnoreSpace ((flagState .ignoreSpace true items).getD old)
        readFrom n frames (.flags items :: parts)
      | .inr items =>
        setIgnoreSpace ((flagState .ignoreSpace true items).getD old)
        readFrom n (.group items parts old :: frames) []
    | some ')' =>
      match closeAlternation parts frames with
      | (body, .group items before old :: frames) =>
        setIgnoreSpace old
        bump
        readFrom n frames (.group items body :: before)
      | _ => malformed
    | some '|' =>
      bump
      match frames with
      | .alternation options :: frames =>
        readFrom n (.alternation (concatOf parts :: options) :: frames) []
      | frames => readFrom n (.alternation [concatOf parts] :: frames) []
    | some '[' => readFrom n frames ((← readClass) :: parts)
    | some '?' => readFrom n frames (← readRepetition 0 (some 1) parts)
    | some '*' => readFrom n frames (← readRepetition 0 none parts)
    | some '+' => readFrom n frames (← readRepetition 1 none parts)
    | some '\x7b' => readFrom n frames (← readCounted parts)
    | some _ => readFrom n frames ((← readPrimitive).toSyntax :: parts)

/-! ## Nesting -/

mutual

def ClassSet.depth : ClassSet → Nat
  | .bracketed _ s => s.depth + 1
  | .union items => ClassSet.depths items + 1
  | .op _ l r => max l.depth r.depth + 1
  | _ => 0

def ClassSet.depths : List ClassSet → Nat
  | [] => 0
  | s :: ss => max s.depth (ClassSet.depths ss)

end

mutual

def Syntax.depth : Syntax → Nat
  | .cls _ s => s.depth + 1
  | .repeated b _ _ => b.depth + 1
  | .group _ b => b.depth + 1
  | .alternation os => Syntax.depths os + 1
  | .concat ps => Syntax.depths ps + 1
  | _ => 0

def Syntax.depths : List Syntax → Nat
  | [] => 0
  | s :: ss => max s.depth (Syntax.depths ss)

end

/-- How deep patterns may nest. -/
def maxNesting : Nat := 250

/-- The tree of a pattern; none if it is malformed or nested too deeply. -/
def Syntax.ofText (pattern : String) (ignoreSpace : Bool) : Option Syntax :=
  let cs := pattern.toList
  match readFrom (cs.length + 2) [] [] ⟨cs, ignoreSpace, []⟩ with
  | some (s, _) => if s.depth ≤ maxNesting then some s else none
  | none => none

end Rulebook.Regex
