import Rulebook.Command.Run
import Rulebook.Command.Usage
import Rulebook.Disk.Changes

/-!
# The program

Runs a command line on the files of this machine. A rule looks only at entries whose names stand in its
text or in a document that it reads, so those are what is looked up before the command runs.
-/

namespace Rulebook.Main

/-! ## Looking up files -/

/-- What a path leads to, if it leads to anything. -/
def probe (path : String) : IO (Option Node) := do
  try
    let bytes ← IO.FS.readBinFile path
    return some (.file (String.fromUTF8? bytes))
  catch _ =>
    try
      let _ ← IO.FS.realPath (path ++ "/.")
      return some (.directory [])
    catch _ => return none

def realPath? (path : String) : IO (Option String) := do
  try
    return some (toString (← IO.FS.realPath path))
  catch _ => return none

/-- Puts a node at a location and directories on the way to it; what is there stays. -/
def put (n : Node) : Location → Node → Node
  | [], old => old
  | name :: rest, .directory entries =>
    match entries.lookup name with
    | some c => .directory (Node.putEntry name (put n rest c) entries)
    | none =>
      let new := if rest.isEmpty then n else put n rest (.directory [])
      .directory (Node.putEntry name new entries)
  | _ :: _, old => old

def locationOf (path : String) : Location := (Path.parts path).filter (· ≠ "")

/-- Looks up the parts of a path from a directory on; gives where it leads. -/
partial def reach (disk : Disk) (dir : String) : List String → IO (Disk × Option String)
  | [] => return (disk, some dir)
  | part :: rest => do
    if part = "" || part = "." then return ← reach disk dir rest
    if part = ".." then return ← reach disk (Disk.pathOf (locationOf dir).dropLast) rest
    let path := Path.join dir part
    match ← probe path, ← realPath? path with
    | some n, some real =>
      let root := put n (locationOf real) disk.root
      let root := if real = path then root else put (.link real) (locationOf path) root
      reach { disk with root } real rest
    | _, _ => return (disk, none)

/-- Looks up a path. -/
def lookUp (disk : Disk) (path : String) : IO (Disk × Option String) :=
  let dir := if path.startsWith "/" then "/" else Disk.pathOf disk.cwd
  reach disk dir (Path.parts path)

def lookUpAll (disk : Disk) (paths : List String) : IO Disk :=
  paths.foldlM (fun disk path => return (← lookUp disk path).1) disk

/-! ## Names -/

mutual

/-- The texts in a document. -/
def stringsOf : Json → List String
  | .string s => [s]
  | .array items => stringsOfItems items
  | .object members => stringsOfMembers members
  | _ => []

def stringsOfItems : List Json → List String
  | [] => []
  | v :: rest => stringsOf v ++ stringsOfItems rest

def stringsOfMembers : List (String × Json) → List String
  | [] => []
  | (_, v) :: rest => stringsOf v ++ stringsOfMembers rest

end

/-- The names that a text may lead to: its texts if it is a text of rules, or a document. -/
def namesIn (text : String) : List String :=
  match Tokens.ofText text with
  | .ok tokens =>
    tokens.list.filterMap fun t => match t.kind with
      | .string s => some s
      | _ => none
  | .error _ =>
    match Json.ofText text with
    | .ok v => stringsOf v
    | .error _ => []

/-- Looks up names in directories, and in those that are found so, until nothing new is found. -/
partial def explore (disk : Disk) (names dirs seen : List String) : IO Disk := do
  match dirs with
  | [] => return disk
  | dir :: dirs =>
    if seen.contains dir then return ← explore disk names dirs seen
    let mut disk := disk
    let mut found : List String := []
    for name in names do
      let (d, real) ← reach disk dir (Path.parts name)
      disk := d
      found := found ++ real.toList
    let more := found.flatMap fun path => ((disk.text? path).map namesIn).getD []
    let names := (names ++ more).eraseDups
    explore disk names (dirs ++ found) (dir :: seen)

/-- The disk as far as a command looks at it. -/
def diskFor (i : Invocation) (env : Environment) : IO Disk := do
  let cwd := locationOf (toString (← IO.currentDir))
  let disk : Disk := ⟨put (.directory []) cwd (.directory []), cwd⟩
  let disk ← lookUpAll disk (i.config.toList ++ Config.places env)
  match i.command with
  | .check spec target _ _ =>
    let disk ← lookUpAll disk [spec]
    let (disk, real) ← lookUp disk target
    let names := ((disk.text? spec).map namesIn).getD []
    explore disk names real.toList []
  | .lint spec => lookUpAll disk [spec]
  | .configInit path _ => lookUpAll disk [path, Path.parent path]
  | _ => return disk

/-! ## Running -/

def variableNames : List String :=
  ["HOME", "XDG_CONFIG_HOME", Usage.configVariable, Logging.levelVariable, Logging.formatVariable,
    Logging.fileVariable]

def environment : IO Environment := do
  let values ← variableNames.mapM fun name => do
    return (← IO.getEnv name).map fun value => (name, value)
  return values.filterMap id

def usageLines : List String :=
  ["Usage: specspec [OPTIONS] <COMMAND>", "",
    "Commands:",
    "  check SPEC TARGET [--data] [--strict]",
    "  lint SPEC",
    "  kinds",
    "  config init [PATH] [--force]",
    "  config show [--format FORMAT]",
    "  completions SHELL", "",
    "Options: -v, -q, -c FILE, -o FORMAT, --no-color, -h, -V"]

def usageText : String := String.join (usageLines.map Writer.line)

/-- Writes the files that a command changed. -/
def writeChanges (new old : Disk) : IO Unit :=
  (new.changesFrom old).forM fun (location, text) => do
    IO.FS.createDirAll (Disk.pathOf location.dropLast)
    IO.FS.writeFile (Disk.pathOf location) text

def run (words : List String) : IO UInt32 := do
  let env ← environment
  match Invocation.ofWords words env with
  | .error u =>
    if u.exitCode = 0 then IO.print usageText else IO.eprint usageText
    return UInt32.ofNat u.exitCode
  | .ok i =>
    let disk ← diskFor i env
    let e := i.exec disk env
    writeChanges e.disk disk
    IO.print e.output
    IO.eprint e.errors
    return UInt32.ofNat e.code

end Rulebook.Main

def main (words : List String) : IO UInt32 := Rulebook.Main.run words
