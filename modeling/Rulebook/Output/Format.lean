import Rulebook.Output.Record
import Rulebook.Output.Style
import Rulebook.Yaml.Printer

/-!
# How reports are shown

People are shown a line for each issue and a summary; programs are shown the report as a document. Issues
after the most that are shown are left out, but what the report says of itself stays.
-/

namespace Rulebook

inductive OutputFormat where
  | human
  | json
  | yaml
  | jsonPretty
  deriving DecidableEq, Repr, Inhabited

namespace OutputFormat

def all : List OutputFormat := [human, json, yaml, jsonPretty]

def name : OutputFormat → String
  | human => "human"
  | json => "json"
  | yaml => "yaml"
  | jsonPretty => "json-pretty"

def ofName? (name : String) : Option OutputFormat := all.find? fun f => f.name = name

/-- A format by its name in letters of either case. -/
def ofConfig? (name : String) : Option OutputFormat := all.find? fun f => f.name = name.toLower

/-- The text of a document. -/
def render : OutputFormat → Json → String
  | json, v => v.text
  | yaml, v => Yaml.render v
  | human, v | jsonPretty, v => v.pretty

end OutputFormat

/-! ## Reports -/

def Level.style : Level → Style
  | .error => ⟨.red, true⟩
  | .warning => ⟨.yellow, true⟩

/-- An issue in a line: level, code, place and message. -/
def Issue.line (color : Bool) (i : Issue) : String :=
  i.level.style.paintIf color i.level.text ++ " [" ++ i.code ++ "] " ++
    Style.paintIf ⟨.cyan, false⟩ color i.place ++ ": " ++ i.message

namespace Report

/-- The issues that are shown when there may be `most`, or all of them for `0`. -/
def shown (r : Report) (most : Nat) : List Issue := if most = 0 then r.issues else r.issues.take most

/-- How many issues are not shown. -/
def hidden (r : Report) (most : Nat) : Nat := r.issues.length - (r.shown most).length

/-- The verdict and how many errors and warnings there are. -/
def summary (r : Report) : String :=
  let warnings := r.warnings.length
  if r.ok then if warnings = 0 then "✓ Passed" else s!"✓ Passed with {warnings} warning(s)"
  else s!"✗ Failed: {r.errors.length} error(s), {warnings} warning(s)"

def summaryStyle (r : Report) : Style := if r.ok then ⟨.green, false⟩ else ⟨.red, true⟩

/-- The lines that people are shown. -/
def lines (r : Report) (most : Nat) (color : Bool) : List String :=
  (r.shown most).map (Issue.line color) ++
    (if r.hidden most = 0 then [] else [s!"  ... {r.hidden most} more issue(s) not shown"]) ++
    (if r.issues.isEmpty then [] else [""]) ++
    [r.summaryStyle.paintIf color r.summary]

/-- The text of a report in a format. -/
def text (r : Report) (format : OutputFormat) (most : Nat) (color : Bool) : String :=
  match format with
  | .human => String.join ((r.lines most color).map (· ++ "\n"))
  | format => format.render { r with issues := r.shown most }.record

/-- Whether a report counts as passed; a strict one has no warnings either. -/
def passes (r : Report) (strict : Bool) : Bool := r.ok && !(strict && !r.warnings.isEmpty)

end Report

end Rulebook
