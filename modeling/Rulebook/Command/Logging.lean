import Rulebook.Command.Basic

/-!
# Logging

How much is logged, how and where. The command line decides first, then the configuration where it is
silent, and the environment over both. A filter says of each part of the program which events it logs.
-/

namespace Rulebook

inductive LogFormat where
  | compact
  | full
  | json
  deriving DecidableEq, Repr, Inhabited

/-- A format by its name in letters of either case. -/
def LogFormat.ofName? (name : String) : Option LogFormat :=
  [("compact", compact), ("full", full), ("json", json)].lookup name.toLower

structure Logging where
  level : String := "warn"
  format : LogFormat := .compact
  console : Bool := true
  file : Option String := none
  threadIds : Bool := false
  sourceLocation : Bool := false
  deriving DecidableEq, Repr, Inhabited

namespace Logging

def ofVerbosity : Nat → Logging
  | 0 => {}
  | 1 => { level := "info" }
  | 2 => { level := "debug", sourceLocation := true }
  | _ => { level := "trace", format := .full, sourceLocation := true, threadIds := true }

def levelVariable : String := "RUST_LOG"

def formatVariable : String := "SPECSPEC_LOG_FORMAT"

def fileVariable : String := "SPECSPEC_LOG_FILE"

/-- Applies the variables of the environment; a format of no name does not count. -/
def withEnvironment (l : Logging) (env : Environment) : Logging :=
  { l with
    level := (env.lookup levelVariable).getD l.level
    format := ((env.lookup formatVariable).bind LogFormat.ofName?).getD l.format
    file := (env.lookup fileVariable).or l.file }

/-- What is said about a format of no name. -/
def notice? (env : Environment) : Option String :=
  match env.lookup formatVariable with
  | some name =>
    if (LogFormat.ofName? name).isSome then none
    else some ("Invalid SPECSPEC_LOG_FORMAT '" ++ name ++ "', using default")
  | none => none

/-- How an invocation logs. -/
def ofInvocation (i : Invocation) (c : LoggingConfig) (env : Environment) : Logging :=
  let l := ofVerbosity i.verbosity
  let l := { l with
    level := if i.verbosity = 0 then c.level.getD l.level else l.level
    format := if i.verbosity < 3 then (LogFormat.ofName? c.format).getD l.format else l.format
    file := c.file }
  let l := l.withEnvironment env
  if i.quiet then { l with level := "error", console := false } else l

end Logging

/-! ## Filters -/

inductive LogLevel where
  | error
  | warn
  | info
  | debug
  | trace
  deriving DecidableEq, Repr, Inhabited

namespace LogLevel

def all : List LogLevel := [error, warn, info, debug, trace]

/-- A level logs those of its rank and below. -/
def rank : LogLevel → Nat
  | error => 1
  | warn => 2
  | info => 3
  | debug => 4
  | trace => 5

def name : LogLevel → String
  | error => "error"
  | warn => "warn"
  | info => "info"
  | debug => "debug"
  | trace => "trace"

end LogLevel

/-- An event that can be logged, and the part of the program that it comes from. -/
structure LogEvent where
  target : String
  level : LogLevel
  deriving DecidableEq, Repr, Inhabited

/-- A part of the program and the rank up to which it is logged. -/
structure LogRule where
  target : String
  rank : Nat
  deriving DecidableEq, Repr, Inhabited

inductive LogFault where
  | malformed
  | noLevel
  deriving DecidableEq, Repr, Inhabited

def LogFault.message : LogFault → String
  | malformed => "invalid filter directive"
  | noLevel => "error parsing level filter: expected one of \"off\", \"error\", \"warn\", \"info\", " ++
      "\"debug\", \"trace\", or a number 0-5"

abbrev LogFilter := List LogRule

namespace LogFilter

/-- The rank that a word stands for: the name of a level, a digit, or the word for none. -/
def rank? (word : String) : Option Nat :=
  if word.toLower = "off" then some 0
  else
    match LogLevel.all.find? fun l => l.name = word.toLower with
    | some l => some l.rank
    | none => (word.toNat?).filter fun n => n ≤ 5 && word.toList.all Char.isDigit

/-- A rule: a level for all, a part for all levels, or a part with its level. Rules about what a part is
busy with are not for events. -/
def rule? (word : String) : Except LogFault (Option LogRule) :=
  let cs := word.toList
  let head := cs.takeWhile fun c => c ≠ '=' && c ≠ '['
  let first := cs.dropWhile fun c => c = ' ' || c = '\t'
  if first.head?.any fun c => !(c.isAlphanum || "-:_[".contains c) then .error .malformed
  else
    match cs.drop head.length with
    | [] =>
      match rank? word with
      | some rank => .ok (some ⟨"", rank⟩)
      | none => .ok (some ⟨word, LogLevel.trace.rank⟩)
    | '=' :: level =>
      if level.isEmpty then .ok (some ⟨String.ofList head, LogLevel.trace.rank⟩)
      else
        match rank? (String.ofList level) with
        | some rank => .ok (some ⟨String.ofList head, rank⟩)
        | none => .error .noLevel
    | '[' :: rest =>
      match (rest.dropWhile (· ≠ ']')).drop 1 with
      | [] => if rest.contains ']' then .ok none else .error .malformed
      | '=' :: level =>
        if level.isEmpty || (rank? (String.ofList level)).isSome then .ok none else .error .noLevel
      | _ => .error .malformed
    | _ => .error .malformed

/-- The rules of a text, between which there are commas; without any, errors are logged. -/
def ofText (text : String) : Except LogFault LogFilter := do
  let words := (text.splitOn ",").filter (· ≠ "")
  let rules ← words.mapM rule?
  let rules := rules.filterMap id
  return if rules.isEmpty then [⟨"", LogLevel.error.rank⟩] else rules

/-- Whether an event is logged: the rule for the longest name that its target starts with decides, and
of those for the same name the last. -/
def logs (f : LogFilter) (e : LogEvent) : Bool :=
  let best : Option LogRule := f.foldl (fun best r =>
    if !e.target.startsWith r.target then best
    else if best.all fun b => b.target.length ≤ r.target.length then some r
    else best) none
  best.any fun r => e.level.rank ≤ r.rank

end LogFilter

end Rulebook
