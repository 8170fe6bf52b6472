import Rulebook.Disk.Basic
import Rulebook.Json.Decode
import Rulebook.Toml.Printer

/-!
# Why a command has no result

A check that does not pass is a result; these keep a command from having one. Each has a code of its own
to exit with.
-/

namespace Rulebook

inductive CommandError where
  | disk (fault : Disk.Fault)
  | fileNotFound (path : String)
  /-- A document that is not what was expected. -/
  | invalidDocument (path expected reason : String)
  | config (message : String)
  | json (e : Json.DecodeError)
  | yaml
  | tomlRead
  | tomlWrite
  deriving DecidableEq, Repr

namespace CommandError

def message : CommandError → String
  | disk fault => "IO error: " ++ fault.message
  | fileNotFound path => "File not found: " ++ path
  | invalidDocument path expected reason =>
    "Invalid file format for " ++ path ++ ": expected " ++ expected ++ " (" ++ reason ++ ")"
  | config message => "Configuration error: " ++ message
  | json e => "JSON error: " ++ e.message
  | yaml => "YAML error: not a configuration"
  | tomlRead => "TOML error: not a configuration"
  | tomlWrite => "TOML error: " ++ Toml.outOfRange

def exitCode : CommandError → Nat
  | disk _ => 2
  | fileNotFound _ => 4
  | invalidDocument .. => 5
  | config _ => 6
  | json _ => 7
  | yaml => 8
  | tomlRead | tomlWrite => 9

/-- Whether the error is followed by a hint to the help. -/
def showsHelp : CommandError → Bool
  | invalidDocument .. => true
  | _ => false

end CommandError

end Rulebook
