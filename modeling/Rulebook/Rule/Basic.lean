import Rulebook.Check.Walk
import Rulebook.Regex.Basic
import Rulebook.Source.Syntax

/-!
# Rules

A rule is a tree. Its leaves look at a value; the descriptors say what has to stand in a place and are
checked by the validator of their kind. The group of a package may be a lambda that builds the rules
when the package is checked, so rules and the values of the language are one family of types.
-/

namespace Rulebook

inductive Negation where
  /-- `Is.Not` -/
  | is
  /-- `Does.Not.Contain` -/
  | doesNotContain
  deriving DecidableEq, Repr, Inhabited

/-- A rule that the host supplies as code. As with validators, what it records and how it ends is taken to
depend on the context alone: it cannot read the issues that were found before, only add to them. -/
structure HostRule where
  name : String
  validate : Context → Walk Unit
  accepts : Context → Walk Bool

namespace HostRule

def check (rule : HostRule) : Check := ⟨rule.validate, rule.accepts, rule.accepts⟩

/-- A rule that matches if its own walk finds no error. -/
def ofValidate (name : String) (validate : Context → Walk Unit) : HostRule :=
  ⟨name, validate, fun c => (validate c).probe⟩

/-- A rule without a check of its own. -/
def unfinished (name : String) : HostRule :=
  ofValidate name fun _ => .fail (.notImplemented name "validate")

end HostRule

inductive Builtin where
  | str | num | bool | literal | pattern | field | object | file | directory | jsonFile | package
  | oneOf | listOf | contains | isNot | doesNotContain
  deriving DecidableEq, Repr, Inhabited

/-- What makes rules from arguments. -/
inductive Factory where
  | builtin (b : Builtin)
  /-- A kind that the host registered. -/
  | custom (kind : String)
  deriving DecidableEq, Repr, Inhabited

/-- `Is`, `Does` and `Does.Not`. -/
inductive Namespace where
  | is | does | doesNot
  deriving DecidableEq, Repr, Inhabited

mutual

inductive Rule where
  | str (min max : Option Nat) (pattern : Option Regex)
  | num (min max : Option Binary64) (integer : Bool)
  | bool
  | literal (expected : Json)
  | pattern (regex : Regex)
  | object (required optional : List Rule)
  | oneOf (options : List Rule)
  | listOf (item : Rule) (min max : Option Nat)
  | not (flavor : Negation) (inner : Rule)
  | contains (d : Descriptor)
  | host (rule : HostRule)

/-- What has to stand in a place. -/
inductive Descriptor where
  | field (key : String) (isOptional : Bool) (value : Option Rule)
  | file (path : String) (ext : Option String) (content : List Rule)
  /-- A directory, the subject itself if there is no path. -/
  | directory (path : Option String) (required optional : List Rule)
  | jsonFile (path : String) (required optional : List Rule)
  | package (name : Option Regex) (group : Group)
  | custom (kind : String) (params : Json)

/-- The rules of a package. -/
inductive Group where
  | rules (rules : List Rule)
  /-- Built by a lambda for the factory of that name. -/
  | lazy (kind : String) (lambda : Lambda)

/-- A lambda closed over its scope, the innermost binding first. -/
inductive Lambda where
  | mk (param : Option String) (body : Expr) (scope : List (String × Value))

inductive Value where
  | null
  | bool (b : Bool)
  | number (x : Binary64)
  | string (s : String)
  | regex (r : Regex)
  | array (items : List Value)
  | object (entries : List (String × Value))
  | rule (r : Rule)
  | factory (f : Factory)
  | space (n : Namespace)
  | lambda (l : Lambda)

end

instance : Inhabited Rule := ⟨.bool⟩
instance : Inhabited Value := ⟨.null⟩

namespace Lambda

def param : Lambda → Option String
  | mk p _ _ => p

def body : Lambda → Expr
  | mk _ b _ => b

def scope : Lambda → List (String × Value)
  | mk _ _ s => s

end Lambda

/-! ## Names -/

def Negation.kind : Negation → String
  | is => "Is.Not"
  | doesNotContain => "Does.Not.Contain"

def Descriptor.kind : Descriptor → String
  | field .. => "Field"
  | file .. => "File"
  | directory .. => "Directory"
  | jsonFile .. => "JsonFile"
  | package .. => "Package"
  | custom kind _ => kind

namespace Rule

/-- The name of a rule as it is written. -/
def kind : Rule → String
  | str .. => "Str"
  | num .. => "Num"
  | bool => "Bool"
  | literal _ => "Literal"
  | pattern _ => "Pattern"
  | object .. => "Object"
  | oneOf _ => "OneOf"
  | listOf .. => "ListOf"
  | not flavor _ => flavor.kind
  | contains d => d.kind
  | host rule => rule.name

end Rule

end Rulebook
