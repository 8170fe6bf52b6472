import Rulebook.Disk.Path

/-!
# Files and directories

A disk is a tree of directories with a working directory. Names lead through it as on POSIX systems: a
link stands for its target, two dots for the parent, and every part but the last has to be a directory.
A place found is named by the parts that lead to it from the root without links or dots.
-/

namespace Rulebook

inductive Node where
  /-- The text of a file, if its content is text. -/
  | file (text : Option String)
  | directory (entries : List (String × Node))
  /-- A directory whose entries may be reached by their names, but not listed. -/
  | unlisted (entries : List (String × Node))
  | link (target : String)
  deriving Inhabited

/-- The names from the root to a place, outermost first. -/
abbrev Location := List String

namespace Node

def child? (name : String) : Node → Option Node
  | directory entries | unlisted entries => entries.lookup name
  | _ => none

/-- What is at a location under a node. -/
def at? : Node → Location → Option Node
  | n, [] => some n
  | n, name :: rest => (n.child? name).bind fun c => c.at? rest

/-- Sets an entry, the last one if it is new. -/
def putEntry (name : String) (n : Node) : List (String × Node) → List (String × Node)
  | [] => [(name, n)]
  | (k, m) :: rest => if k = name then (k, n) :: rest else (k, m) :: putEntry name n rest

/-- Puts a node at a location whose parent is a directory. -/
def put (value : Node) : Location → Node → Node
  | [], _ => value
  | name :: rest, directory entries =>
    match entries.lookup name with
    | some c => directory (putEntry name (put value rest c) entries)
    | none => directory (putEntry name value entries)
  | name :: rest, unlisted entries =>
    match entries.lookup name with
    | some c => unlisted (putEntry name (put value rest c) entries)
    | none => unlisted (putEntry name value entries)
  | _ :: _, n => n

end Node

structure Disk where
  root : Node
  /-- The working directory. -/
  cwd : Location
  deriving Inhabited

namespace Disk

/-- How many links a path may lead through. -/
def maxLinks : Nat := 40

/-- The most bytes of a name. -/
def maxName : Nat := 255

/-- The most bytes of a path. -/
def maxPath : Nat := 4095

/-- Why an entry cannot be reached or used. -/
inductive Fault where
  | notFound | denied | occupied | notDirectory | isDirectory | nameTooLong | tooManyLinks | notText | nul
  deriving DecidableEq, Repr, Inhabited

def Fault.message : Fault → String
  | notFound => "No such file or directory (os error 2)"
  | denied => "Permission denied (os error 13)"
  | occupied => "File exists (os error 17)"
  | notDirectory => "Not a directory (os error 20)"
  | isDirectory => "Is a directory (os error 21)"
  | nameTooLong => "File name too long (os error 36)"
  | tooManyLinks => "Too many levels of symbolic links (os error 40)"
  | notText => "stream did not contain valid UTF-8"
  | nul => "file name contained an unexpected NUL byte"

/-- Follows parts of a path from a directory, whose names are given innermost first. `links` more links
may be followed; the last part is followed only if `follow` says so. -/
def walk (d : Disk) (follow : Bool) (links : Nat) (dir : List String) (parts : List String) :
    Except Fault (Location × Node) :=
  match parts with
  | [] =>
    match d.root.at? dir.reverse with
    | some n => .ok (dir.reverse, n)
    | none => .error .notFound
  | "" :: rest | "." :: rest => walk d follow links dir rest
  | ".." :: rest => walk d follow links dir.tail rest
  | name :: rest =>
    if maxName < name.utf8ByteSize then .error .nameTooLong
    else
      match d.root.at? (name :: dir).reverse with
      | none => .error .notFound
      | some (.directory _) | some (.unlisted _) => walk d follow links (name :: dir) rest
      | some (.file text) =>
        if rest.isEmpty then .ok ((name :: dir).reverse, .file text) else .error .notDirectory
      | some (.link target) =>
        if rest.isEmpty && !follow then .ok ((name :: dir).reverse, .link target)
        else
          match links with
          | 0 => .error .tooManyLinks
          | links + 1 =>
            walk d follow links (if target.startsWith "/" then [] else dir) (Path.parts target ++ rest)
termination_by (links, parts.length)

/-- The names, innermost first, of the directory that a path starts from. -/
def startOf (d : Disk) (path : String) : List String :=
  if path.startsWith "/" then [] else d.cwd.reverse

/-- Why a text is no path, if it is none. -/
def pathFault? (path : String) : Option Fault :=
  if path.contains '\x00' then some .nul
  else if path.isEmpty then some .notFound
  else if maxPath < path.utf8ByteSize then some .nameTooLong
  else none

/-- What a path leads to. -/
def find (d : Disk) (follow : Bool) (path : String) : Except Fault (Location × Node) :=
  match pathFault? path with
  | some f => .error f
  | none => walk d follow maxLinks (d.startOf path) (Path.parts path)

/-- Whether anything is there, a link that leads nowhere included. -/
def exists? (d : Disk) (path : String) : Bool := (d.find false path).isOk

/-- Whether the path leads to an entry. -/
def leads (d : Disk) (path : String) : Bool := (d.find true path).isOk

def isFile (d : Disk) (path : String) : Bool :=
  match d.find true path with
  | .ok (_, .file _) => true
  | _ => false

def isDir (d : Disk) (path : String) : Bool :=
  match d.find true path with
  | .ok (_, .directory _) | .ok (_, .unlisted _) => true
  | _ => false

/-- Why the entries of a directory cannot be listed, if they cannot. -/
def listFault? (d : Disk) (path : String) : Option Fault :=
  match d.find true path with
  | .error f => some f
  | .ok (_, .directory _) => none
  | .ok (_, .unlisted _) => some .denied
  | .ok (_, _) => some .notDirectory

/-- The text of a file. -/
def read (d : Disk) (path : String) : Except Fault String :=
  match d.find true path with
  | .error f => .error f
  | .ok (_, .file (some text)) => .ok text
  | .ok (_, .file none) => .error .notText
  | .ok (_, _) => .error .isDirectory

def text? (d : Disk) (path : String) : Option String := (d.read path).toOption

/-- Where a path leads, as a path from the root. -/
def canonical? (d : Disk) (path : String) : Option String :=
  match d.find true path with
  | .ok (location, _) => some ("/" ++ String.intercalate "/" location)
  | .error _ => none

/-! ## Changes -/

/-- Puts a node at a location. -/
def putAt (d : Disk) (location : Location) (n : Node) : Disk :=
  { d with root := Node.put n location d.root }

/-- The place of an entry that a path names and that need not be there: the directory that it is in,
and its name, if the path ends in one. -/
def placeOf (d : Disk) (path : String) : Except Fault (Location × Option String) :=
  match pathFault? path with
  | some f => .error f
  | none =>
    let parts := (Path.parts path).filter (· != "")
    let last := parts.getLast?.filter fun name => name != "." && name != ".."
    match walk d true maxLinks (d.startOf path) (if last.isSome then parts.dropLast else parts) with
    | .error f => .error f
    | .ok (location, .directory _) | .ok (location, .unlisted _) =>
      if last.any fun name => maxName < name.utf8ByteSize then .error .nameTooLong
      else .ok (location, last)
    | .ok _ => .error .notDirectory

/-- Makes a directory where nothing is. -/
def makeDir (d : Disk) (path : String) : Except Fault Disk :=
  match d.placeOf path with
  | .error f => .error f
  | .ok (location, some name) =>
    if (d.root.at? (location ++ [name])).isSome then .error .occupied
    else .ok (d.putAt (location ++ [name]) (.directory []))
  | .ok (_, none) => .error .occupied

/-- Makes a directory, and before it those that lead to it and are missing; `n` bounds their number. -/
def makeDirsFrom : Nat → Disk → String → Except Fault Disk
  | 0, _, _ => .error .notFound
  | n + 1, d, path =>
    if path.isEmpty then .ok d
    else
      match d.makeDir path with
      | .ok d => .ok d
      | .error .notFound =>
        match makeDirsFrom n d (Path.parent path) with
        | .error f => .error f
        | .ok d =>
          match d.makeDir path with
          | .ok d => .ok d
          | .error f => if d.isDir path then .ok d else .error f
      | .error f => if d.isDir path then .ok d else .error f

def makeDirs (d : Disk) (path : String) : Except Fault Disk :=
  makeDirsFrom ((Path.parts path).length + 1) d path

/-- Opens a file for writing, which makes it if it is not there; `links` more links may be followed. -/
def openFrom (d : Disk) : (links : Nat) → String → Except Fault (Disk × Location)
  | links, path =>
    match d.find true path with
    | .ok (location, .file _) => .ok (d, location)
    | .ok _ => .error .isDirectory
    | .error .notFound =>
      match d.placeOf path with
      | .error f => .error f
      | .ok (location, some name) =>
        match d.root.at? (location ++ [name]), links with
        | some (.link target), links + 1 =>
          openFrom d links (Path.join ("/" ++ String.intercalate "/" location) target)
        | some _, _ => .error .tooManyLinks
        | none, _ =>
          if path.endsWith "/" then .error .isDirectory
          else .ok (d.putAt (location ++ [name]) (.file (some "")), location ++ [name])
      | .ok (_, none) => .error .isDirectory
    | .error f => .error f

/-- Opens a file to write after its end, which makes it if it is not there. -/
def touch (d : Disk) (path : String) : Except Fault Disk :=
  (d.openFrom maxLinks path).map (·.1)

/-- Writes a file, through links if the path is one. -/
def write (d : Disk) (path : String) (text : Option String) : Except Fault Disk :=
  (d.openFrom maxLinks path).map fun (d, location) => d.putAt location (.file text)

/-- Makes a link where nothing is. -/
def link (d : Disk) (path target : String) : Except Fault Disk :=
  match d.placeOf path with
  | .error f => .error f
  | .ok (location, some name) =>
    if (d.root.at? (location ++ [name])).isSome then .error .occupied
    else .ok (d.putAt (location ++ [name]) (.link target))
  | .ok (_, none) => .error .occupied

end Disk

end Rulebook
