import Rulebook.Config.File
import Rulebook.Output.Format

/-!
# Commands

What can be asked for on a command line. An invocation is a command with the settings that hold for every
command.
-/

namespace Rulebook

inductive Shell where
  | bash
  | zsh
  | fish
  | powerShell
  | elvish
  deriving DecidableEq, Repr, Inhabited

namespace Shell

def all : List Shell := [bash, zsh, fish, powerShell, elvish]

/-- The word for a shell on a command line. -/
def word : Shell → String
  | bash => "bash"
  | zsh => "zsh"
  | fish => "fish"
  | powerShell => "power-shell"
  | elvish => "elvish"

def ofWord? (word : String) : Option Shell := all.find? fun s => s.word = word

end Shell

namespace DataFormat

def all : List DataFormat := [toml, json, yaml]

def word : DataFormat → String
  | toml => "toml"
  | json => "json"
  | yaml => "yaml"

def ofWord? (word : String) : Option DataFormat := all.find? fun f => f.word = word

end DataFormat

inductive Command where
  /-- Checks a target, or with `data` the document in it, against the rule of a text. -/
  | check (spec target : String) (data strict : Bool)
  | lint (spec : String)
  | kinds
  | configInit (path : String) (force : Bool)
  | configShow (format : DataFormat)
  | completions (shell : Shell)
  deriving DecidableEq, Repr, Inhabited

structure Invocation where
  /-- How often more messages were asked for. -/
  verbose : Nat
  quiet : Bool
  config : Option String
  output : Option OutputFormat
  noColor : Bool
  command : Command
  deriving DecidableEq, Repr, Inhabited

namespace Invocation

/-- How much is logged: a quiet command does not log more. -/
def verbosity (i : Invocation) : Nat := if i.quiet then 0 else i.verbose

/-- The format that was asked for, or else the one of the configuration. -/
def format (i : Invocation) (c : Config) : OutputFormat :=
  (i.output.or (OutputFormat.ofConfig? c.output.format)).getD .human

end Invocation

end Rulebook
