import Rulebook.Command.Basic

/-!
# Command lines

A command line is read word by word. A word may name a command of its menu, whose menu the words after it
belong to; the settings for every command may be given in each menu, and the innermost one counts. A
setting waits for its value until the next word that is no value, and every menu is checked when all words
after it were read.
-/

namespace Rulebook

/-- Why a command line names nothing to run. -/
inductive Usage where
  | help
  | version
  | nothingGiven
  | missingCommand
  | missingArgument
  | conflict
  | invalidValue
  | tooManyValues
  | unknownArgument
  | unknownCommand
  deriving DecidableEq, Repr, Inhabited

def Usage.exitCode : Usage → Nat
  | help | version => 0
  | _ => 2

namespace Usage

/-! ## Menus -/

inductive Menu where
  | top
  | check
  | lint
  | kinds
  | config
  | configInit
  | configShow
  | completions
  deriving DecidableEq, Repr, Inhabited

inductive Flag where
  | verbose
  | quiet
  | noColor
  | data
  | strict
  | force
  | help
  | version
  deriving DecidableEq, Repr, Inhabited

/-- What a value is for. -/
inductive Slot where
  | config
  | output
  | format
  | spec
  | target
  | path
  | shell
  deriving DecidableEq, Repr, Inhabited

/-- A word that starts with one dash or two. -/
structure Switch (α : Type) where
  what : α
  letter : Option Char
  word : String

namespace Menu

def children : Menu → List (String × Menu)
  | top => [("check", check), ("lint", lint), ("kinds", kinds), ("config", config),
      ("completions", completions)]
  | config => [("init", configInit), ("show", configShow)]
  | _ => []

/-- Whether one of the commands of a menu has to be named. -/
def needsCommand (m : Menu) : Bool := !m.children.isEmpty

def flags (m : Menu) : List (Switch Flag) :=
  let own := match m with
    | check => [⟨.data, none, "data"⟩, ⟨.strict, none, "strict"⟩]
    | configInit => [⟨.force, none, "force"⟩]
    | _ => []
  own ++ [⟨.verbose, some 'v', "verbose"⟩, ⟨.quiet, some 'q', "quiet"⟩, ⟨.noColor, none, "no-color"⟩,
    ⟨.help, some 'h', "help"⟩, ⟨.version, some 'V', "version"⟩]

def settings (m : Menu) : List (Switch Slot) :=
  let own := match m with
    | configShow => [⟨.format, some 'f', "format"⟩]
    | _ => []
  own ++ [⟨.config, some 'c', "config"⟩, ⟨.output, some 'o', "output"⟩]

/-- What the words without a dash are for, in their order. -/
def positions : Menu → List Slot
  | check => [.spec, .target]
  | lint => [.spec]
  | configInit => [.path]
  | completions => [.shell]
  | _ => []

/-- What has to be given. -/
def required : Menu → List Slot
  | configInit => []
  | m => m.positions

end Menu

/-- Whether a value will do. A file needs a name. -/
def Slot.accepts (s : Slot) (value : String) : Bool :=
  match s with
  | output => (OutputFormat.ofName? value).isSome
  | format => (DataFormat.ofWord? value).isSome
  | shell => (Shell.ofWord? value).isSome
  | _ => !value.isEmpty

/-! ## What a menu was given -/

structure Given where
  verbose : Nat
  flags : List Flag
  values : List (Slot × String)
  /-- What waits to be settled, and the value for it once it is there. -/
  pending : Option (Slot × Option String)
  /-- What the next words without a dash are for. -/
  positions : List Slot
  deriving Inhabited

namespace Given

def start (m : Menu) : Given := ⟨0, [], [], none, m.positions⟩

/-- How often the flag for more messages counts at most. -/
def maxVerbose : Nat := 255

/-- Sets a value, which may be given only once. -/
def set (g : Given) (s : Slot) (value : String) : Except Usage Given :=
  if (g.values.lookup s).isSome then .error .conflict
  else if s.accepts value then .ok { g with values := g.values ++ [(s, value)] }
  else .error .invalidValue

/-- Settles what is pending. -/
def settle (g : Given) : Except Usage Given :=
  match g.pending with
  | none => .ok g
  | some (s, some value) => { g with pending := none }.set s value
  | some (_, none) => .error .invalidValue

/-- Whether the next word is a value. -/
def waits (g : Given) : Bool := g.pending.any fun (_, value) => value.isNone

/-- Takes a flag, which only that for more messages may be more than once. -/
def addFlag (g : Given) (f : Flag) : Except Usage Given := do
  let g ← g.settle
  match f with
  | .help => throw .help
  | .version => throw .version
  | .verbose => return { g with verbose := min maxVerbose (g.verbose + 1) }
  | f => if g.flags.contains f then throw .conflict else return { g with flags := g.flags ++ [f] }

/-- Takes a setting and the value in the same word, if there is one. -/
def addSetting (g : Given) (s : Slot) (value : Option String) : Except Usage Given := do
  let g ← g.settle
  match value with
  | some value => g.set s value
  | none => return { g with pending := some (s, none) }

/-- Takes a word with two dashes. -/
def addWord (g : Given) (m : Menu) (word : String) : Except Usage Given :=
  let cs := word.toList.drop 2
  let name := String.ofList (cs.takeWhile (· ≠ '='))
  let value := match cs.dropWhile (· ≠ '=') with
    | [] => none
    | _ :: rest => some (String.ofList rest)
  match m.settings.find? (·.word = name), m.flags.find? (·.word = name) with
  | some s, _ => g.addSetting s.what value
  | none, some f => if value.isSome then .error .tooManyValues else g.addFlag f.what
  | none, none => .error .unknownArgument

/-- Takes letters after one dash. What follows the letter of a setting is its value, of which an equals
sign at the start is no part. -/
def addLetters (m : Menu) : Given → List Char → Except Usage Given
  | g, [] => .ok g
  | g, c :: cs =>
    match m.settings.find? (·.letter = some c), m.flags.find? (·.letter = some c) with
    | some s, _ =>
      let value := match cs with
        | [] => none
        | '=' :: rest => some (String.ofList rest)
        | cs => some (String.ofList cs)
      g.addSetting s.what value
    | none, some f => (g.addFlag f.what).bind fun g => addLetters m g cs
    | none, none => .error .unknownArgument

/-- Takes a word without a dash, or after the mark that ends the dashes. -/
def addPlain (g : Given) (m : Menu) (ended : Bool) (word : String) : Except Usage Given :=
  match g.positions with
  | s :: rest => do
    let g ← g.settle
    return { g with pending := some (s, some word), positions := rest }
  | [] =>
    let named := (m.children.lookup word).isSome || word = "help"
    if m.needsCommand && !(ended && named) then .error .unknownCommand else .error .unknownArgument

/-- Checks a menu when all words were read; `inner` says whether a command of it was named. -/
def finish (g : Given) (m : Menu) (config : Option String) (inner : Bool) : Except Usage Given := do
  let g ← g.settle
  let lent := if (g.values.lookup .config).isSome then none else config
  if lent.any fun value => !Slot.config.accepts value then throw .invalidValue
  let untouched := g.verbose = 0 && g.flags.isEmpty && g.values.isEmpty && lent.isNone
  if m.needsCommand && !inner then throw (if untouched then .nothingGiven else .missingCommand)
  if g.flags.contains .quiet && g.verbose ≠ 0 then throw .conflict
  if m.required.any fun s => (g.values.lookup s).isNone then throw .missingArgument
  return g

end Given

/-! ## Words -/

/-- What help on a chain of commands comes to; the command for help has no others under it. -/
def helpOn : Option Menu → List String → Usage
  | _, [] => .help
  | none, _ :: _ => .unknownCommand
  | some m, word :: words =>
    match m.children.lookup word with
    | some child => helpOn (some child) words
    | none => if m.needsCommand && word = "help" then helpOn none words else .unknownCommand

/-- Reads the words of a menu; gives what it and the menus inside of it were given, outermost first.
`config` is the setting that the environment lends to every menu. -/
def read (config : Option String) : (words : List String) → Menu → (ended : Bool) → Given →
    Except Usage (List (Menu × Given))
  | [], m, _, g => (g.finish m config false).map fun g => [(m, g)]
  | word :: words, m, ended, g =>
    let go (g : Except Usage Given) : Except Usage (List (Menu × Given)) :=
      g.bind (read config words m ended)
    if ended then go (g.addPlain m ended word)
    else if !g.waits && (m.children.lookup word).isSome then
      let child := (m.children.lookup word).getD m
      (read config words child false (.start child)).bind fun inner =>
        (g.finish m config true).map fun g => (m, g) :: inner
    else if !g.waits && m.needsCommand && word = "help" then .error (helpOn (some m) words)
    else if word = "--" then read config words m true g
    else if word.startsWith "--" then go (g.addWord m word)
    else if word.startsWith "-" && word ≠ "-" then go (Given.addLetters m g (word.toList.drop 1))
    else if g.waits then go (.ok { g with pending := g.pending.map fun (s, _) => (s, some word) })
    else go (g.addPlain m ended word)

/-! ## Invocations -/

/-- The innermost value of a slot. -/
def valueOf (menus : List (Menu × Given)) (s : Slot) : Option String :=
  (menus.reverse.filterMap fun (_, g) => g.values.lookup s).head?

def isGiven (menus : List (Menu × Given)) (f : Flag) : Bool :=
  menus.any fun (_, g) => g.flags.contains f

def commandOf (menus : List (Menu × Given)) : Command :=
  let text (s : Slot) : String := (valueOf menus s).getD ""
  match menus.getLast? with
  | some (.check, _) => .check (text .spec) (text .target) (isGiven menus .data) (isGiven menus .strict)
  | some (.lint, _) => .lint (text .spec)
  | some (.configInit, _) => .configInit ((valueOf menus .path).getD ".specspec.toml") (isGiven menus .force)
  | some (.configShow, _) => .configShow (((valueOf menus .format).bind DataFormat.ofWord?).getD .toml)
  | some (.completions, _) => .completions ((Shell.ofWord? (text .shell)).getD .bash)
  | _ => .kinds

/-- The variable that names the configuration where the command line does not. -/
def configVariable : String := "SPECSPEC_CONFIG"

end Usage

/-- The invocation of the words of a command line. -/
def Invocation.ofWords (words : List String) (env : Environment) : Except Usage Invocation :=
  let config := env.lookup Usage.configVariable
  (Usage.read config words .top false (.start .top)).map fun menus =>
    { verbose := ((menus.reverse.map fun (_, g) => g.verbose).find? (· ≠ 0)).getD 0
      quiet := Usage.isGiven menus .quiet
      config := (Usage.valueOf menus .config).or config
      output := (Usage.valueOf menus .output).bind OutputFormat.ofName?
      noColor := Usage.isGiven menus .noColor
      command := Usage.commandOf menus }

end Rulebook
