import Rulebook.Eval.Arguments

/-! # Factories -/

namespace Rulebook

/-- Checks the number of arguments. -/
def arity (min max : Nat) (args : List Value) : Argument Unit :=
  if args.length < min ∨ max < args.length then .error (.arity min max args.length) else .ok ()

/-- An extension is meant without leading dots. -/
def trimDots (ext : String) : String := String.ofList (ext.toList.dropWhile (· = '.'))

namespace Builtin

def buildStr (args : List Value) : Argument Rule := do
  arity 0 1 args
  let o ← optionsOf ["minLength", "maxLength", "match"] args.head?
  let min ← o.count "minLength"
  let max ← o.count "maxLength"
  let pattern ← o.regex "match"
  return .str min max pattern

def buildNum (args : List Value) : Argument Rule := do
  arity 0 1 args
  let o ← optionsOf ["min", "max", "integer"] args.head?
  let min ← o.number "min"
  let max ← o.number "max"
  let integer ← o.flag "integer"
  return .num min max (integer.getD false)

/-- Whether options say of a field that it is optional, or else that it is not required. -/
def optionalField (o : Options) : Argument Bool := do
  if (← o.flag "optional").getD false then return true
  return (← o.flag "required") == some false

def buildField (arg : Value) : Argument Rule := do
  match arg with
  | .string key => return .contains (.field key false none)
  | arg =>
    let o ← optionsOf ["key", "optional", "required", "value"] (some arg)
    let key ← o.requiredString "key"
    let isOptional ← optionalField o
    match o.get? "value" with
    | none => return .contains (.field key isOptional none)
    | some v => return .contains (.field key isOptional (some (← v.toRule)))

def buildObject (args : List Value) : Argument Rule := do
  arity 0 1 args
  let o ← optionsOf ["required", "optional"] args.head?
  let required ← o.rules "required"
  let optional ← o.rules "optional"
  return .object required optional

def buildFile (arg : Value) : Argument Rule := do
  match arg with
  | .string path => return .contains (.file path none [])
  | arg =>
    let o ← optionsOf ["path", "ext", "content"] (some arg)
    let path ← o.requiredString "path"
    let content ← o.rules "content"
    let ext ← o.string "ext"
    return .contains (.file path (ext.map trimDots) content)

def buildDirectory (args : List Value) : Argument Rule := do
  arity 0 1 args
  match args.head? with
  | some (.string path) => return .contains (.directory (some path) [] [])
  | arg =>
    let o ← optionsOf ["path", "content"] arg
    let path ← o.string "path"
    match o.get? "content" with
    | none => return .contains (.directory path [] [])
    | some (.array _) => return .contains (.directory path (← o.rules "content") [])
    | some (.object entries) =>
      let c ← optionsOf ["required", "optional"] (some (.object entries))
      let required ← c.rules "required"
      let optional ← c.rules "optional"
      return .contains (.directory path required optional)
    | some v => throw (.notContent v.typeName)

def buildJsonFile (arg : Value) : Argument Rule := do
  match arg with
  | .string path => return .contains (.jsonFile path [] [])
  | arg =>
    let o ← optionsOf ["path", "required", "optional"] (some arg)
    let path ← o.requiredString "path"
    let required ← o.rules "required"
    let optional ← o.rules "optional"
    return .contains (.jsonFile path required optional)

/-- The group in the options of a package, empty if there is none. -/
def groupOption (o : Options) : Argument Group :=
  match o.get? "spec" with
  | some v => v.toGroup package.name
  | none => .ok (.rules [])

def buildPackage (arg : Value) : Argument Rule := do
  match arg with
  | .lambda _ | .array _ => return .contains (.package none (← arg.toGroup package.name))
  | arg =>
    let o ← optionsOf ["name", "spec"] (some arg)
    let group ← groupOption o
    let name ← o.regex "name"
    return .contains (.package name group)

def buildOneOf (args : List Value) : Argument Rule :=
  if args.isEmpty then .error .noOptions else (Value.toRules args).map .oneOf

def buildListOf (item : Value) (options : Option Value) : Argument Rule := do
  let o ← optionsOf ["min", "max"] options
  let item ← item.toRule
  let min ← o.count "min"
  let max ← o.count "max"
  return .listOf item min max

/-- What a factory of exactly one argument makes. -/
def withOne (args : List Value) (build : Value → Argument Rule) : Argument Rule :=
  match args with
  | [arg] => build arg
  | args => .error (.arity 1 1 args.length)

/-- The rule that a factory makes of its arguments. -/
def build (b : Builtin) (args : List Value) : Argument Rule :=
  match b with
  | str => buildStr args
  | num => buildNum args
  | bool => (arity 0 0 args).map fun _ => .bool
  | literal => withOne args fun arg => arg.toData.map .literal
  | pattern => withOne args fun arg => arg.toRegex.map .pattern
  | field => withOne args buildField
  | object => buildObject args
  | file => withOne args buildFile
  | directory => buildDirectory args
  | jsonFile => withOne args buildJsonFile
  | package => withOne args buildPackage
  | oneOf => buildOneOf args
  | listOf =>
    match args with
    | [item] => buildListOf item none
    | [item, options] => buildListOf item (some options)
    | args => .error (.arity 1 2 args.length)
  | contains => withOne args Value.toDescriptor
  | isNot => withOne args fun arg => arg.toRule.map (.not .is)
  | doesNotContain => withOne args fun arg => arg.toDescriptor.map (.not .doesNotContain)

end Builtin

/-- What a registered kind makes of its arguments: a descriptor with data for parameters. -/
def buildCustom (kind : String) (args : List Value) : Argument Rule := do
  arity 0 1 args
  match args.head? with
  | none => return .contains (.custom kind .null)
  | some arg => return .contains (.custom kind (← arg.toData))

def Factory.build (f : Factory) (args : List Value) : Argument Rule :=
  match f with
  | builtin b => b.build args
  | custom kind => buildCustom kind args

end Rulebook
