import Rulebook.Command.Logging
import Rulebook.Engine.Basic
import Rulebook.Output.Writer

/-!
# Running commands

A command that ran ends with a verdict, with what it wrote and with the disk as it left it.
-/

namespace Rulebook

structure Outcome where
  passed : Bool
  output : String
  disk : Disk
  /-- What happened that can be logged. -/
  events : List LogEvent
  deriving Inhabited

def Outcome.exitCode (o : Outcome) : Nat := if o.passed then 0 else 1

namespace Command

abbrev Result (α : Type) := Except CommandError α

/-! ## Events -/

def engineEvent : LogEvent := ⟨"specspec_core::engine", .debug⟩

def outputEvent (level : LogLevel) : LogEvent := ⟨"specspec::output", level⟩

def checkEvent (level : LogLevel) : LogEvent := ⟨"specspec::handlers::check", level⟩

def lintEvent : LogEvent := ⟨"specspec::handlers::lint", .debug⟩

/-- What can be logged of every command that runs. -/
def commonEvents : List LogEvent :=
  [⟨"specspec::logging", .debug⟩, ⟨"specspec", .info⟩, ⟨"specspec::logging::timing", .debug⟩]

/-- What can be logged of a check. -/
def checkEvents (r : Report) (passed : Bool) : List LogEvent :=
  [checkEvent .debug, outputEvent .debug, engineEvent, checkEvent (if passed then .info else .warn)] ++
    if r.codes.contains Code.engineError then [⟨"specspec_core::engine", .warn⟩] else []

/-! ## Documents to check -/

/-- The document of a file; the extension decides its format. -/
def readDocument (disk : Disk) (path : String) : Result Json := do
  let text ← Config.readFile disk path
  match DataFormat.ofPath path with
  | .yaml =>
    Config.orError (.invalidDocument path "YAML document" "it cannot be read") (Yaml.decode? text)
  | _ =>
    (Json.ofText text).mapError fun e => .invalidDocument path "JSON document" e.message

/-- What a check looks at. -/
def subjectOf (disk : Disk) (target : String) (data : Bool) : Result Subject :=
  if data then (readDocument disk target).map .value else .ok (.path target)

/-! ## Commands -/

def runCheck (w : Writer) (c : Config) (disk : Disk) (spec target : String) (data strict : Bool) :
    Result Outcome := do
  let source ← Config.readFile disk spec
  let subject ← subjectOf disk target data
  let report := Registry.standard.run source disk subject
  let passed := report.passes (strict || c.validation.strict)
  let output := w.info ("Checking " ++ target ++ " against " ++ spec) ++
    w.report report c.validation.maxIssues ++
    (if report.ok && !passed then w.warning "✗ Warnings are treated as failures (strict mode)" else "")
  return ⟨passed, output, disk, checkEvents report passed⟩

def runLint (w : Writer) (disk : Disk) (spec : String) : Result Outcome := do
  let source ← Config.readFile disk spec
  let events := [engineEvent, lintEvent]
  match Registry.standard.load source with
  | .ok root =>
    let output :=
      if w.speaks then w.success ("✓ " ++ spec ++ " loads; root rule is " ++ root.kind)
      else w.data (.object [("ok", .bool true), ("root", .string root.kind)])
    return ⟨true, output, disk, events⟩
  | .error e => return ⟨false, w.report e.report 0, disk, events⟩

def listKinds (w : Writer) (disk : Disk) : Outcome :=
  ⟨true, w.list Registry.standard.factoryNames, disk, [engineEvent]⟩

def writeConfig (w : Writer) (disk : Disk) (path : String) (force : Bool) : Result Outcome := do
  if disk.leads path && !force then
    throw (.config (path ++ " already exists (use --force to overwrite)"))
  let disk ← Config.save {} disk path
  let output := w.success ("✓ Created config at " ++ path) ++
    w.info "Edit it to customize settings for your environment."
  return ⟨true, output, disk, [outputEvent .debug]⟩

def showConfig (c : Config) (disk : Disk) (format : DataFormat) : Result Outcome := do
  let text ← (c.text format).mapError fun e =>
    match e with
    | .tomlWrite => .config ("Failed to serialize as TOML: " ++ Toml.outOfRange)
    | e => e
  return ⟨true, Writer.line (Writer.trimEnd text), disk, []⟩

/-- Runs a command. Scripts for shells are not part of what is written here. -/
def run (command : Command) (w : Writer) (c : Config) (disk : Disk) : Result Outcome :=
  match command with
  | .check spec target data strict => runCheck w c disk spec target data strict
  | .lint spec => runLint w disk spec
  | .kinds => .ok (listKinds w disk)
  | .configInit path force => writeConfig w disk path force
  | .configShow format => showConfig c disk format
  | .completions _ => .ok ⟨true, "", disk, []⟩

end Command

/-! ## Programs -/

/-- What is left of a process that ended. -/
structure Exit where
  code : Nat
  output : String
  errors : String
  disk : Disk
  /-- The events that were logged between the errors. -/
  logged : List LogEvent
  deriving Inhabited

namespace CommandError

/-- The text of an error for people. -/
def text (e : CommandError) (color : Bool) : String :=
  Style.paintIf ⟨.red, true⟩ color "Error:" ++ " " ++ e.message

/-- What a process that ends with an error writes of it. -/
def farewell (e : CommandError) : String :=
  Writer.line (e.text false) ++
    if e.showsHelp then "\nFor more information, try '--help'\n" else ""

end CommandError

namespace Invocation

/-- Starts to log: the disk with the file for it, and the filter, or why there is none. -/
def startLog (l : Logging) (disk : Disk) : Except CommandError (Disk × LogFilter) := do
  let filter ← (LogFilter.ofText l.level).mapError fun f =>
    CommandError.config ("Invalid log filter '" ++ l.level ++ "': " ++ f.message)
  match l.file with
  | some path => return (← (disk.touch path).mapError CommandError.disk, filter)
  | none => return (disk, filter)

/-- Runs an invocation in a process without a terminal. -/
def exec (i : Invocation) (disk : Disk) (env : Environment) : Exit :=
  match Config.load disk env i.config with
  | .error e => ⟨e.exitCode, "", e.farewell, disk, []⟩
  | .ok c =>
    let l := Logging.ofInvocation i c.logging env
    let notice := ((Logging.notice? env).map Writer.line).getD ""
    let (disk, filter, failure) := match startLog l disk with
      | .ok (disk, filter) => (disk, if l.file.isNone then filter else [⟨"", 0⟩], "")
      | .error e => (disk, [⟨"", 0⟩], Writer.line ("Failed to initialize logging: " ++ e.message))
    let logged (events : List LogEvent) : List LogEvent :=
      (Command.commonEvents ++ events).filter filter.logs
    match i.command.run ⟨i.format c, false, i.quiet⟩ c disk with
    | .ok o => ⟨o.exitCode, o.output, notice ++ failure, o.disk, logged o.events⟩
    | .error e => ⟨e.exitCode, "", notice ++ failure ++ e.farewell, disk, logged []⟩

end Invocation

end Rulebook
