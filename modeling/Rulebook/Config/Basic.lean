import Rulebook.Data.Shape

/-!
# Configurations

A configuration is a record of three records. What a file leaves out has a default, and what it holds
besides does not count.
-/

namespace Rulebook

structure OutputConfig where
  format : String := "human"
  color : Bool := true
  deriving DecidableEq, Repr, Inhabited

structure LoggingConfig where
  level : Option String := none
  format : String := "compact"
  file : Option String := none
  deriving DecidableEq, Repr, Inhabited

structure ValidationConfig where
  /-- Whether warnings fail a check. -/
  strict : Bool := false
  /-- The most issues that are shown, or `0` for all. -/
  maxIssues : Nat := 0
  deriving DecidableEq, Repr, Inhabited

structure Config where
  output : OutputConfig := {}
  logging : LoggingConfig := {}
  validation : ValidationConfig := {}
  deriving DecidableEq, Repr, Inhabited

namespace Config

def shape : Shape :=
  .record "Config" [
    ("output", .record "OutputConfig" [("format", .text), ("color", .flag)]),
    ("logging", .record "LoggingConfig"
      [("level", .optional .text), ("format", .text), ("file", .optional .path)]),
    ("validation", .record "ValidationConfig" [("strict", .flag), ("max_issues", .count)])]

/-! ## Reading records -/

def textOr (default : String) (r : Json) (key : String) : String :=
  ((r.member? key).bind Json.asString?).getD default

def text? (r : Json) (key : String) : Option String := (r.member? key).bind Json.asString?

def flagOr (default : Bool) (r : Json) (key : String) : Bool :=
  match r.member? key with
  | some (.bool b) => b
  | _ => default

def countOr (default : Nat) (r : Json) (key : String) : Nat :=
  match r.member? key with
  | some (.number (.int n)) => n.toNat
  | _ => default

/-- The configuration of a record of the shape. -/
def ofRecord (r : Json) : Config :=
  let part (key : String) : Json := (r.member? key).getD .null
  let output := part "output"
  let logging := part "logging"
  let validation := part "validation"
  let d : Config := {}
  { output := ⟨textOr d.output.format output "format", flagOr d.output.color output "color"⟩
    logging := ⟨text? logging "level", textOr d.logging.format logging "format", text? logging "file"⟩
    validation := ⟨flagOr d.validation.strict validation "strict",
      countOr d.validation.maxIssues validation "max_issues"⟩ }

/-! ## Writing records -/

/-- A member for an option, unless it is not given. -/
def optional (key : String) (value : Option String) : List (String × Json) :=
  (value.map fun s => (key, Json.string s)).toList

/-- The record of a configuration, its members in the order of the shape. -/
def record (c : Config) : Json :=
  .object [
    ("output", .object [("format", .string c.output.format), ("color", .bool c.output.color)]),
    ("logging", .object (optional "level" c.logging.level ++ [("format", .string c.logging.format)] ++
      optional "file" c.logging.file)),
    ("validation", .object [("strict", .bool c.validation.strict),
      ("max_issues", .number (.int c.validation.maxIssues))])]

end Config

end Rulebook
