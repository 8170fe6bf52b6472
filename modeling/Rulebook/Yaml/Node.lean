import Rulebook.Yaml.Scan

/-!
# Trees of YAML

A document is a tree in which a reference stands for the node that was last given its name. An anchored
node is kept by number, so that a reference inside of it can be told apart from one after it.
-/

namespace Rulebook.Yaml

structure Scalar where
  style : Style
  text : String
  /-- What it is tagged with; a lone sign is no tag of a text. -/
  tag : Option String
  deriving DecidableEq, Repr, Inhabited

inductive Node where
  | scalar (s : Scalar)
  | sequence (tag : Option String) (items : List Node)
  | mapping (tag : Option String) (entries : List (Node × Node))
  | reference (anchor : Nat)
  deriving Inhabited

/-- A plain text of no characters, which stands where a node is left out. -/
def Scalar.absent : Scalar := ⟨.plain, "", none⟩

structure Document where
  root : Node
  /-- Anchored nodes by number. -/
  anchored : List (Nat × Node)
  /-- How many texts, references, and starts and ends of collections there are. -/
  size : Nat
  deriving Inhabited

/-- The node that a reference stands for, which is no reference. -/
def Document.resolve (d : Document) : Node → Node
  | .reference a => (d.anchored.lookup a).getD (.reference a)
  | n => n

/-! ## Reading tokens -/

structure Builder where
  tokens : List Token
  /-- The numbers of names, the last first. -/
  names : List (String × Nat)
  anchored : List (Nat × Node)
  size : Nat
  handles : List (String × String)

abbrev Build (α : Type) := StateT Builder Option α

namespace Build

def peek : Build (Option Token) := do return (← get).tokens.head?

def skip : Build Unit := modify fun b => { b with tokens := b.tokens.drop 1 }

def count (n : Nat) : Build Unit := modify fun b => { b with size := b.size + n }

/-- Passes a token if it comes next. -/
def accept (t : Token) : Build Bool := do
  if (← peek) = some t then
    skip
    return true
  return false

def sees (ts : List Token) : Build Bool := do return (← peek).any ts.contains

/-- A node that is left out. -/
def absent : Build Node := do
  count 1
  return .scalar .absent

/-- Gives a name a number. -/
def bindName (name : String) : Build Nat :=
  modifyGet fun b => (b.names.length, { b with names := (name, b.names.length) :: b.names })

/-- The tag that a handle and a suffix stand for. -/
def expand (handle suffix : String) : Build String := do
  if handle.isEmpty then return suffix
  match (← get).handles.lookup handle with
  | some expansion => return expansion ++ suffix
  | none => failure

/-- The anchor and the tag before a node, in either order. -/
def properties : Build (Option String × Option String) := do
  let anchor : Build (Option String) := do
    match ← peek with
    | some (.anchor name) =>
      skip
      return some name
    | _ => return none
  let tag : Build (Option String) := do
    match ← peek with
    | some (.tag handle suffix) =>
      skip
      return some (← expand handle suffix)
    | _ => return none
  match ← anchor with
  | some name => return (some name, ← tag)
  | none =>
    let t ← tag
    return (← anchor, t)

mutual

/-- A node. In a block it may be a block itself; `indentless` allows items that are not indented. -/
def node : (n : Nat) → (block indentless : Bool) → Build Node
  | 0, _, _ => failure
  | n + 1, block, indentless => do
    match ← peek with
    | some (.reference name) =>
      skip
      count 1
      match (← get).names.lookup name with
      | some id => return .reference id
      | none => failure
    | _ =>
      let (anchor, tag) ← properties
      let id ← anchor.mapM bindName
      let made ← content n block indentless (anchor.isSome || tag.isSome) tag
      if let some id := id then
        modify fun b => { b with anchored := (id, made) :: b.anchored }
      return made

/-- A node after its properties. -/
def content : (n : Nat) → (block indentless marked : Bool) → Option String → Build Node
  | 0, _, _, _, _ => failure
  | n + 1, block, indentless, marked, tag => do
    match ← peek with
    | some .item =>
      if indentless then
        count 2
        return .sequence tag (← looseItems n)
      leftOut marked tag
    | some (.scalar style text) =>
      skip
      count 1
      return .scalar ⟨style, text, tag.filter (· ≠ "!")⟩
    | some .sequenceStart =>
      skip
      count 2
      return .sequence tag (← flowItems n true)
    | some .mappingStart =>
      skip
      count 2
      return .mapping tag (← flowEntries n true)
    | some .blockSequence =>
      if block then
        skip
        count 2
        return .sequence tag (← blockItems n)
      leftOut marked tag
    | some .blockMapping =>
      if block then
        skip
        count 2
        return .mapping tag (← blockEntries n)
      leftOut marked tag
    | _ => leftOut marked tag

/-- A node of which there are only properties. -/
def leftOut (marked : Bool) (tag : Option String) : Build Node := do
  guard marked
  count 1
  return .scalar ⟨.plain, "", tag⟩

/-- A node unless one of some tokens comes next. -/
def nodeUnless : (n : Nat) → (ends : List Token) → (block indentless : Bool) → Build Node
  | 0, _, _, _ => failure
  | n + 1, ends, block, indentless => do
    if ← sees ends then absent else node n block indentless

def blockItems : (n : Nat) → Build (List Node)
  | 0 => failure
  | n + 1 => do
    if ← accept .item then
      let x ← nodeUnless n [.item, .blockEnd] true false
      return x :: (← blockItems n)
    guard (← accept .blockEnd)
    return []

/-- Items of a sequence that is not indented, which ends before any other token. -/
def looseItems : (n : Nat) → Build (List Node)
  | 0 => failure
  | n + 1 => do
    if ← accept .item then
      let x ← nodeUnless n [.item, .key, .value, .blockEnd] true false
      return x :: (← looseItems n)
    return []

def blockEntries : (n : Nat) → Build (List (Node × Node))
  | 0 => failure
  | n + 1 => do
    if ← accept .key then
      let k ← nodeUnless n [.key, .value, .blockEnd] true true
      let v ← if ← accept .value then nodeUnless n [.key, .value, .blockEnd] true true else absent
      return (k, v) :: (← blockEntries n)
    guard (← accept .blockEnd)
    return []

def flowItems : (n : Nat) → (first : Bool) → Build (List Node)
  | 0, _ => failure
  | n + 1, first => do
    if ← accept .sequenceEnd then return []
    if !first then guard (← accept .comma)
    if ← accept .sequenceEnd then return []
    let x ← if ← accept .key then flowPair n else node n false false
    return x :: (← flowItems n false)

/-- An item that is a mapping of one entry. -/
def flowPair : (n : Nat) → Build Node
  | 0 => failure
  | n + 1 => do
    count 2
    let ends := [Token.comma, .sequenceEnd]
    if ← sees (.value :: ends) then
      -- the token that ends an absent key is passed with it
      skip
      let k ← absent
      let v ← if ← accept .value then nodeUnless n ends false false else absent
      return .mapping none [(k, v)]
    let k ← node n false false
    let v ← if ← accept .value then nodeUnless n ends false false else absent
    return .mapping none [(k, v)]

def flowEntries : (n : Nat) → (first : Bool) → Build (List (Node × Node))
  | 0, _ => failure
  | n + 1, first => do
    if ← accept .mappingEnd then return []
    if !first then guard (← accept .comma)
    if ← accept .mappingEnd then return []
    if ← accept .key then
      let k ← nodeUnless n [.value, .comma, .mappingEnd] false false
      let v ← if ← accept .value then nodeUnless n [.comma, .mappingEnd] false false else absent
      return (k, v) :: (← flowEntries n false)
    let k ← node n false false
    let v ← absent
    return (k, v) :: (← flowEntries n false)

end

/-! ## Documents -/

/-- The directives before a document; says whether there are any. -/
def directives : (n : Nat) → (versioned : Bool) → Build Bool
  | 0, _ => failure
  | n + 1, versioned => do
    match ← peek with
    | some (.version major minor) =>
      guard (!versioned && major = 1 && (minor = 1 || minor = 2))
      skip
      let _ ← directives n true
      return true
    | some (.handle name expansion) =>
      let b ← get
      -- the two handles that are always there may be set once more
      guard ((b.handles.take (b.handles.length - 2)).lookup name).isNone
      set { b with tokens := b.tokens.drop 1, handles := (name, expansion) :: b.handles }
      let _ ← directives n versioned
      return true
    | _ => return false

/-- Passes the marks that end documents. -/
def documentEnds : (n : Nat) → Build Unit
  | 0 => return
  | n + 1 => do
    if ← accept .documentEnd then documentEnds n

/-- A single document and nothing after it. -/
def document (n : Nat) : Build Node := do
  let directed ← directives n false
  let started ← accept .documentStart
  guard (started || !directed)
  let ended ← do
    match ← peek with
    | none => pure true
    | some (.version ..) | some (.handle ..) | some .documentStart | some .documentEnd => pure started
    | some _ => pure false
  let root ← if ended then absent else node n true false
  documentEnds n
  guard (← peek).isNone
  return root

end Build

/-- The document that a text holds, which may be empty. -/
def Document.ofText? (text : String) : Option Document := do
  let tokens ← Tokens.ofText? text
  let handles := [("!", "!"), ("!!", "tag:yaml.org,2002:")]
  let (root, b) ← (Build.document (4 * tokens.length + 4)).run ⟨tokens, [], [], 0, handles⟩
  return ⟨root, b.anchored, b.size⟩

end Rulebook.Yaml
