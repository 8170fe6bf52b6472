import Rulebook.Check.Shape
import Rulebook.Regex.Basic

/-!
# Checks of files and directories

A path is taken from the directory that a context looks at. Issues are found under the segment of the
path, and the first thing wrong with an entry ends its check. Silent matching only asks for an entry of
the right sort, and an optional entry is there if anything is, even one of the wrong sort; without a
directory to start from it counts as there, so that the walk says so.
-/

namespace Rulebook.Check

/-- The context of the entry at a path, if there is a directory to start from. -/
def entryAt (path : String) (c : Context) : Option Context :=
  c.entry?.map fun base => c.child path (.path (Path.join base path))

/-- Whether what a context looks at is an entry of some sort. -/
def isEntry (sort : Disk → String → Bool) (c : Context) : Bool := c.entry?.any (sort c.disk)

/-- Whether anything is at a path. -/
def isThere (c : Option Context) : Bool := c.all (isEntry Disk.exists?)

def isFileAt (path : String) (c : Context) : Bool := (entryAt path c).any (isEntry Disk.isFile)

/-- Letters of ASCII are compared without case. -/
def sameExtension (a b : String) : Bool := a.map Char.toLower = b.map Char.toLower

/-- Opens the file at a path, if it is one with the right extension. -/
def openFile (path : String) (ext : Option String) (c : Context) : Walk (Option Context) :=
  match entryAt path c with
  | none =>
    .stop c Code.fileNoBase
      ("Cannot resolve file '" ++ path ++ "': subject is not a filesystem path")
  | some child =>
    let actual := (Path.extension path).getD ""
    if !isEntry Disk.exists? child then .stop child Code.fileNotFound ("File not found: " ++ path)
    else if !isEntry Disk.isFile child then
      .stop child Code.fileNotFile ("Path is not a file: " ++ path)
    else if ext.any fun e => !sameExtension actual e then
      .stop child Code.fileWrongExt ("Expected extension ." ++ ext.getD "" ++ ", got ." ++ actual)
    else .done (some child)

/-- What a file is silently asked for. -/
def ofFile (path : String) (validate : Context → Walk Unit) : Check where
  validate := validate
  accepts c := .done (isFileAt path c)
  present c := .done (isThere (entryAt path c))

def file (path : String) (ext : Option String) (content : List Check) : Check :=
  ofFile path fun c => (openFile path ext c).into (each content)

/-- The document in the text of a file, or what is wrong with it. -/
def documentOf (path : String) (c : Context) : Except String Json :=
  match c.value with
  | .string text =>
    (Json.ofText text).mapError fun e => "Invalid JSON in " ++ path ++ ": " ++ e.message
  | _ => .error ("Could not read " ++ path)

/-- Opens the document in the file at a path. -/
def openDocument (path : String) (c : Context) : Walk (Option Context) :=
  (openFile path none c).bind fun
    | none => .done none
    | some child =>
      match documentOf path child with
      | .error message => .stop child Code.jsonParseError message
      | .ok v => .done (some (child.withSubject (.value v)))

def jsonFile (path : String) (required optional : List Check) : Check :=
  ofFile path fun c => (openDocument path c).into (object required optional)

/-- The context of a directory: of the entry at a path, or itself without one. -/
def directoryAt (path : Option String) (c : Context) : Option Context :=
  match path with
  | some p => entryAt p c
  | none => c.entry?.map fun _ => c

def isDirectoryAt (path : Option String) (c : Context) : Bool :=
  (directoryAt path c).any (isEntry Disk.isDir)

/-- Opens a directory. -/
def openDirectory (path : Option String) (c : Context) : Walk (Option Context) :=
  let label := path.getD "."
  match directoryAt path c with
  | none =>
    .stop c Code.dirNoBase
      ("Cannot resolve directory '" ++ label ++ "': subject is not a filesystem path")
  | some child =>
    if !isEntry Disk.exists? child then
      .stop child Code.dirNotFound ("Directory not found: " ++ label)
    else if !isEntry Disk.isDir child then
      .stop child Code.dirNotDir ("Path is not a directory: " ++ label)
    else .done (some child)

def directory (path : Option String) (required optional : List Check) : Check where
  validate c := (openDirectory path c).into (members required optional)
  accepts c := .done (isDirectoryAt path c)
  present c := .done (isThere (directoryAt path c))

/-! ## Packages -/

/-- The name of an entry without extension, links and dots resolved. -/
def stemOf (disk : Disk) (path : String) : String :=
  (Path.stem ((disk.canonical? path).getD path)).getD ""

/-- Why a path is no package, as code and message. -/
def packageFault? (disk : Disk) (path : String) : Option (String × String) :=
  if !disk.exists? path then some (Code.bundleNotFound, "Bundle not found: " ++ path)
  else if disk.isFile path then
    some (Code.bundleTypeMismatch, "Expected a directory bundle, got a file: " ++ path)
  else if !disk.isDir path then some (Code.bundleInvalid, "Not a valid bundle: " ++ path)
  else
    (disk.listFault? path).map fun f =>
      (Code.bundleOpenError, "Cannot open bundle " ++ path ++ ": " ++ f.message)

/-- Opens a package. A path has to lead to a directory that can be listed, with a name that matches the
pattern if there is one; a document is taken as it is. -/
def openPackage (name : Option Regex) (c : Context) : Walk (Option Unit) :=
  match c.entry? with
  | none => .done (some ())
  | some path =>
    match packageFault? c.disk path with
    | some (code, message) => .stop c code message
    | none =>
      let stem := stemOf c.disk path
      (Walk.when (name.any fun r => !r.isMatch stem) <|
        .issue c Code.bundleNameMismatch ("Bundle name '" ++ stem ++ "' does not match pattern " ++
          (name.elim "" Regex.pattern))).bind fun _ => .done (some ())

/-- Walks the rules of a package in the same context. -/
def package (name : Option Regex) (group : Context → Walk Unit) (c : Context) : Walk Unit :=
  (openPackage name c).into fun _ => group c

end Rulebook.Check
