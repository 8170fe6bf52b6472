import Rulebook.Regex.CharSet
import Rulebook.Regex.Reader
import Rulebook.Unicode.Script

/-!
# What a regex matches

A pattern under its flags is a tree over sets of characters and conditions on places. The tree sends
the places where a match may start to the places where it may end; a text matches if there are any for
the start at every place.
-/

namespace Rulebook.Regex

/-! ## Trees -/

/-- A condition on a place between two characters of a text. -/
inductive Look where
  | textStart | textEnd | lineStart | lineEnd | crlfStart | crlfEnd
  | boundary (word : Ranges) | notBoundary (word : Ranges)
  | wordStart (word : Ranges) | wordEnd (word : Ranges)
  | wordStartHalf (word : Ranges) | wordEndHalf (word : Ranges)

inductive Tree where
  | empty
  | chars (set : Ranges)
  | look (l : Look)
  | cat (first second : Tree)
  | alt (first second : Tree)
  | none
  | repeated (body : Tree) (min : Nat) (max : Option Nat)
  deriving Inhabited

/-! ## Named sets -/

def digitChars : Ranges := Category.charsOf [.decimalNumber]

def propertyChars (name : String) : Option Ranges :=
  (charProperties.find? fun p => p.names.contains name).map CharProperty.chars

def spaceChars : Ranges := (propertyChars "whitespace").getD ⟨#[]⟩

/-- Letters, marks, decimal digits, connectors and joiners. -/
def wordChars : Ranges :=
  let sets := [alphabetic, Category.charsOf [.nonspacingMark, .spacingMark, .enclosingMark,
    .decimalNumber, .connectorPunctuation], (propertyChars "joincontrol").getD ⟨#[]⟩]
  (CharSet.ofSpans (sets.flatMap fun r => r.spans.toList)).toRanges

def asciiWord : CharSet := .ofSpans [(48, 57), (65, 90), (95, 95), (97, 122)]

def asciiWordChars : Ranges := asciiWord.toRanges

def asciiSpace : CharSet := .ofSpans [(9, 13), (32, 32)]

/-- The sets that `[:name:]` stands for. -/
def asciiSet : String → CharSet
  | "alnum" => .ofSpans [(48, 57), (65, 90), (97, 122)]
  | "alpha" => .ofSpans [(65, 90), (97, 122)]
  | "ascii" => .range 0 127
  | "blank" => .ofSpans [(9, 9), (32, 32)]
  | "cntrl" => .ofSpans [(0, 31), (127, 127)]
  | "digit" => .range 48 57
  | "graph" => .range 33 126
  | "lower" => .range 97 122
  | "print" => .range 32 126
  | "punct" => .ofSpans [(33, 47), (58, 64), (91, 96), (123, 126)]
  | "space" => asciiSpace
  | "upper" => .range 65 90
  | "word" => asciiWord
  | "xdigit" => .ofSpans [(48, 57), (65, 70), (97, 102)]
  | _ => .empty

/-- A name of a property in lower case and without separators or a leading `is`. -/
def looseName (name : String) : String :=
  let cs := name.toList.filter fun c => c != ' ' && c != '_' && c != '-' && c.toNat < 128
  let lower := cs.map Char.toLower
  match lower with
  | 'i' :: 's' :: rest => if rest.isEmpty ∨ rest = ['c'] then String.ofList lower else String.ofList rest
  | _ => String.ofList lower

def categorySet (name : String) : Option CharSet :=
  match name with
  | "any" => some (.range 0 CharSet.top)
  | "ascii" => some (.range 0 127)
  | "assigned" => some (CharSet.ofRanges (Category.charsOf [.unassigned])).negate
  | name => (Category.named name).map fun cs => .ofRanges (Category.charsOf cs)

def scriptSet (name : String) : Option CharSet :=
  (scripts.find? fun s => s.names.contains name).map fun s => .ofRanges s.chars

/-- The set that a property stands for, if there is one of that name. Three short names are those of
categories and not of properties. -/
def PropertyQuery.set : PropertyQuery → Option CharSet
  | .letter c => categorySet (looseName c.toString)
  | .named name =>
    let name := looseName name
    let property :=
      if name = "cf" ∨ name = "sc" ∨ name = "lc" then Option.none else propertyChars name
    match property with
    | some r => some (.ofRanges r)
    | .none => (categorySet name).or (scriptSet name)
  | .valued name value equal =>
    let name := looseName name
    let value := looseName value
    let set :=
      if name = "gc" ∨ name = "generalcategory" then categorySet value
      else if name = "sc" ∨ name = "script" ∨ name = "scx" ∨ name = "scriptextensions" then
        scriptSet value
      else Option.none
    if equal then set else set.map CharSet.negate

/-! ## Flags -/

structure Flags where
  caseInsensitive : Bool
  multiLine : Bool
  dotAll : Bool
  unicode : Bool
  crlf : Bool

/-- Applies a group of flags. -/
def Flags.apply (f : Flags) (items : List FlagItem) : Flags where
  caseInsensitive := (flagState .caseInsensitive true items).getD f.caseInsensitive
  multiLine := (flagState .multiLine true items).getD f.multiLine
  dotAll := (flagState .dotAll true items).getD f.dotAll
  unicode := (flagState .unicode true items).getD f.unicode
  crlf := (flagState .crlf true items).getD f.crlf

namespace Flags
variable (f : Flags)

/-- Without Unicode a set has to stay within ASCII, for a match is text. -/
def check (s : CharSet) : Option CharSet := if !f.unicode && s.beyondAscii then none else some s

def fold (s : CharSet) : CharSet :=
  if f.caseInsensitive then (if f.unicode then s.foldCase else s.foldAscii) else s

def negateIf (negated : Bool) (s : CharSet) : CharSet := if negated then s.negate else s

def perl (negated : Bool) (kind : Perl) : Option CharSet :=
  let set := match kind, f.unicode with
    | .digit, true => CharSet.ofRanges digitChars
    | .space, true => CharSet.ofRanges spaceChars
    | .word, true => CharSet.ofRanges wordChars
    | .digit, false => CharSet.range 48 57
    | .space, false => asciiSpace
    | .word, false => asciiWord
  f.check (negateIf negated set)

def property (negated : Bool) (query : PropertyQuery) : Option CharSet :=
  if f.unicode then query.set.map fun s => negateIf negated (f.fold s) else none

/-- A character of a class. Without Unicode it has to be ASCII. -/
def classChar (l : Literal) : Option Nat :=
  if !f.unicode && 128 ≤ l.char.toNat then none else some l.char.toNat

mutual

/-- The characters of a class between its brackets. Case is folded where sets are combined, and
before a negation. -/
def classSet : ClassSet → Option CharSet
  | .empty => some .empty
  | .literal l => (f.classChar l).map fun n => .range n n
  | .range a b => do return .range (← f.classChar a) (← f.classChar b)
  | .ascii negated name => f.check (negateIf negated (f.fold (asciiSet name)))
  | .perl negated kind => f.perl negated kind
  | .property negated query => f.property negated query
  | .bracketed negated s => do f.check (negateIf negated (f.fold (← classSet s)))
  | .union items => do return .ofSpans (← classSets items)
  | .op kind l r => do
    let l := f.fold (← classSet l)
    let r := f.fold (← classSet r)
    return match kind with
      | .inter => l.inter r
      | .diff => l.diff r
      | .symmDiff => l.symmDiff r

def classSets : List ClassSet → Option (List (Nat × Nat))
  | [] => some []
  | s :: ss => do return (← classSet s).spans ++ (← classSets ss)

end

def literal (l : Literal) : Option CharSet :=
  if f.unicode then some (f.fold (.single l.char))
  else if l.isByte && 128 ≤ l.char.toNat then none
  else some (f.fold (.single l.char))

def dot : Option CharSet :=
  if f.unicode then
    some <| if f.dotAll then .range 0 CharSet.top
      else if f.crlf then (CharSet.ofSpans [(10, 10), (13, 13)]).negate
      else (CharSet.range 10 10).negate
  else none

def look (a : Assertion) : Look :=
  let word := if f.unicode then wordChars else asciiWordChars
  match a with
  | .startLine => if f.multiLine then (if f.crlf then .crlfStart else .lineStart) else .textStart
  | .endLine => if f.multiLine then (if f.crlf then .crlfEnd else .lineEnd) else .textEnd
  | .startText => .textStart
  | .endText => .textEnd
  | .wordBoundary => .boundary word
  | .notWordBoundary => .notBoundary word
  | .wordStart => .wordStart word
  | .wordEnd => .wordEnd word
  | .wordStartHalf => .wordStartHalf word
  | .wordEndHalf => .wordEndHalf word

end Flags

mutual

/-- The tree of a pattern under flags, and the flags after it. -/
def Tree.ofSyntax (f : Flags) : Syntax → Option (Tree × Flags)
  | .empty => some (.empty, f)
  | .flags items => some (.empty, f.apply items)
  | .literal l => (f.literal l).map fun s => (.chars s.toRanges, f)
  | .dot => f.dot.map fun s => (.chars s.toRanges, f)
  | .assertion a => some (.look (f.look a), f)
  | .perl negated kind => (f.perl negated kind).map fun s => (.chars s.toRanges, f)
  | .property negated query => (f.property negated query).map fun s => (.chars s.toRanges, f)
  | .cls negated set => do
    let s ← f.check (Flags.negateIf negated (f.fold (← f.classSet set)))
    return (.chars s.toRanges, f)
  | .repeated body min max => do
    let (t, f) ← Tree.ofSyntax f body
    return (.repeated t min max, f)
  | .group items body => do
    let (t, _) ← Tree.ofSyntax (f.apply items) body
    return (t, f)
  | .alternation options => Tree.ofOptions f options
  | .concat parts => Tree.ofParts f parts

def Tree.ofOptions (f : Flags) : List Syntax → Option (Tree × Flags)
  | [] => some (.none, f)
  | s :: ss => do
    let (t, f) ← Tree.ofSyntax f s
    let (u, f) ← Tree.ofOptions f ss
    return (.alt t u, f)

def Tree.ofParts (f : Flags) : List Syntax → Option (Tree × Flags)
  | [] => some (.empty, f)
  | s :: ss => do
    let (t, f) ← Tree.ofSyntax f s
    let (u, f) ← Tree.ofParts f ss
    return (.cat t u, f)

end

/-! ## Size -/

/-- About how many bytes a matcher for the tree takes: repetitions are written out. -/
def Tree.size : Tree → Nat
  | .empty | .none => 32
  | .look _ => 32
  | .chars r =>
    if r.spans.all fun (_, b) => b < 128 then 32 + (if r.spans.size ≤ 1 then 0 else 8 * r.spans.size)
    else 80 * r.spans.size + 200
  | .cat a b => a.size + b.size
  | .alt a b => a.size + b.size + 40
  | .repeated b min max => b.size * (max.getD (min + 1)) + 64

/-- How many bytes a matcher may take. -/
def maxSize : Nat := 10485760

/-! ## Matching -/

/-- The union of two increasing lists. -/
def merge : List Nat → List Nat → List Nat
  | [], ys => ys
  | xs, [] => xs
  | x :: xs, y :: ys =>
    if x < y then x :: merge xs (y :: ys)
    else if y < x then y :: merge (x :: xs) ys
    else x :: merge xs ys
termination_by xs ys => xs.length + ys.length

/-- What of the first increasing list is not in the second. -/
def minus : List Nat → List Nat → List Nat
  | [], _ => []
  | xs, [] => xs
  | x :: xs, y :: ys =>
    if x < y then x :: minus xs (y :: ys)
    else if y < x then minus (x :: xs) ys
    else minus xs ys
termination_by xs ys => xs.length + ys.length

/-- Whether a condition holds between the characters before and after a place. -/
def Look.holds (l : Look) (before after : Option Char) : Bool :=
  match l with
  | textStart => before.isNone
  | textEnd => after.isNone
  | lineStart => before.all (· = '\n')
  | lineEnd => after.all (· = '\n')
  | crlfStart => before.all fun c => c = '\n' || (c = '\r' && after != some '\n')
  | crlfEnd => after.all fun c => c = '\r' || (c = '\n' && before != some '\r')
  | boundary w => before.any w.has != after.any w.has
  | notBoundary w => before.any w.has == after.any w.has
  | wordStart w => !before.any w.has && after.any w.has
  | wordEnd w => before.any w.has && !after.any w.has
  | wordStartHalf w => !before.any w.has
  | wordEndHalf w => !after.any w.has

/-- Applies `f` to a set of places `n` times, as long as there are any. -/
def times (f : List Nat → List Nat) : Nat → List Nat → List Nat
  | 0, places => places
  | n + 1, places => if places.isEmpty then [] else times f n (f places)

/-- The places that `f` reaches from `fresh` in at most `n` rounds, with those in `reached`. -/
def reach (f : List Nat → List Nat) : Nat → List Nat → List Nat → List Nat
  | 0, reached, _ => reached
  | n + 1, reached, fresh =>
    if fresh.isEmpty then reached
    else
      let new := minus (f fresh) reached
      reach f n (merge reached new) new

/-- The places where a match of the tree may end, in order, from those where it may start. A text has
one place more than characters, so as many rounds reach all of them. -/
def Tree.ends (text : Array Char) : Tree → List Nat → List Nat
  | .empty, places => places
  | .none, _ => []
  | .chars set, places =>
    places.filterMap fun i => if text[i]?.any set.has then some (i + 1) else Option.none
  | .look l, places =>
    places.filter fun i => l.holds (if i = 0 then Option.none else text[i - 1]?) text[i]?
  | .cat a b, places => b.ends text (a.ends text places)
  | .alt a b, places => merge (a.ends text places) (b.ends text places)
  | .repeated body min max, places =>
    let start := times (body.ends text) min places
    let rounds := match max with
      | some m => m - min
      | Option.none => text.size + 1
    reach (body.ends text) rounds start start

end Rulebook.Regex
