import Rulebook.Command.Error
import Rulebook.Config.Basic
import Rulebook.Toml.Data
import Rulebook.Yaml.Data
import Rulebook.Yaml.Printer

/-!
# Configuration files

The extension of a file decides its format. Without a file by name, the first one counts that is found in
the working directory, among the user's configurations or at the user's home.
-/

namespace Rulebook

/-- The variables of a process by name. -/
abbrev Environment := List (String × String)

inductive DataFormat where
  | json
  | yaml
  | toml
  deriving DecidableEq, Repr, Inhabited

/-- The format that an extension names; most name none and stand for JSON. -/
def DataFormat.ofPath (path : String) : DataFormat :=
  match Path.extension path with
  | some "yaml" | some "yml" => yaml
  | some "toml" => toml
  | _ => json

namespace Config

/-! ## Texts -/

/-- A value that has to be there. -/
def orError {α : Type} (e : CommandError) : Option α → Except CommandError α
  | some a => .ok a
  | none => .error e

/-- The configuration that a text holds. -/
def ofText (format : DataFormat) (text : String) : Except CommandError Config :=
  let record := match format with
    | .json => (Json.decode shape text).mapError CommandError.json
    | .yaml => orError .yaml (Yaml.decodeShape? shape text)
    | .toml => orError .tomlRead (Toml.decodeShape? shape text)
  record.map ofRecord

/-- The text of a configuration. -/
def text (c : Config) : DataFormat → Except CommandError String
  | .json => .ok c.record.pretty
  | .yaml => .ok (Yaml.render c.record)
  | .toml => orError .tomlWrite (Toml.render? c.record)

/-! ## Files -/

/-- Reads a file that has to be there. -/
def readFile (disk : Disk) (path : String) : Except CommandError String :=
  if disk.leads path then (disk.read path).mapError .disk else .error (.fileNotFound path)

def ofFile (disk : Disk) (path : String) : Except CommandError Config :=
  (readFile disk path).bind (ofText (.ofPath path))

def extensions : List String := ["yaml", "json", "toml"]

/-- The directory of the user's configurations. -/
def userDirectory? (env : Environment) : Option String :=
  match env.lookup "XDG_CONFIG_HOME" with
  | some dir =>
    if dir.startsWith "/" then some dir else (env.lookup "HOME").map fun home => Path.join home ".config"
  | none => (env.lookup "HOME").map fun home => Path.join home ".config"

/-- Where a configuration is looked for, the first place first. -/
def places (env : Environment) : List String :=
  let under (dir : Option String) (name : String) : List String :=
    dir.toList.flatMap fun dir => extensions.map fun ext => Path.join dir (name ++ ext)
  extensions.map (".specspec." ++ ·) ++ extensions.map ("specspec." ++ ·) ++
    under (userDirectory? env) "specspec/config." ++ under (env.lookup "HOME") ".specspec."

/-- The configuration of a file, or of the first place that has one. -/
def load (disk : Disk) (env : Environment) : Option String → Except CommandError Config
  | some path => ofFile disk path
  | none =>
    match (places env).find? disk.leads with
    | some path => ofFile disk path
    | none => .ok {}

/-- Writes a configuration to a file; the directories that lead to it are made. -/
def save (c : Config) (disk : Disk) (path : String) : Except CommandError Disk := do
  let text ← c.text (.ofPath path)
  let disk ← (disk.makeDirs (Path.parent path)).mapError .disk
  (disk.write path (some text)).mapError .disk

end Config

end Rulebook
