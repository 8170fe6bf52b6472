import Rulebook.Check.Entry
import Rulebook.Check.Leaf
import Rulebook.Engine.Registry
import Rulebook.Eval.Program

/-!
# The check of a rule

Every rule stands for a check that is made of the checks of its parts. Only a lambda group has no parts
yet: its rules are built when the walk comes to it, one group deeper, so that the depth still left
bounds the walk.
-/

namespace Rulebook

/-- How many lambda groups may enclose a place. -/
def maxGroups : Nat := 32

/-- How a lambda group is walked. -/
abbrev GroupWalk := (kind : String) → Lambda → Context → Walk Unit

mutual

/-- The check of a rule whose lambda groups are walked by `groups`. -/
def Rule.checkWith (r : Registry) (groups : GroupWalk) : Rule → Check
  | .str min max pattern => .ofValidate (Check.str min max pattern)
  | .num min max integer => .ofValidate (Check.num min max integer)
  | .bool => .ofValidate Check.bool
  | .literal expected => .ofValidate (Check.literal expected)
  | .pattern regex => .ofValidate (Check.pattern regex)
  | .object required optional =>
    .ofValidate (Check.object (checksWith r groups required) (checksWith r groups optional))
  | .oneOf options =>
    .ofValidate (Check.oneOf (options.map Rule.describe) (checksWith r groups options))
  | .listOf item min max => .ofValidate (Check.listOf (item.checkWith r groups) min max)
  | .not .is inner =>
    .ofValidate (Check.negated Code.isNotFail
      ("Expected value not to satisfy " ++ inner.describe) (inner.checkWith r groups))
  | .not .doesNotContain inner =>
    .ofValidate (Check.negated Code.doesNotContainFail
      ("Expected " ++ inner.describe ++ " not to be present") (inner.checkWith r groups))
  | .contains d => d.checkWith r groups
  | .host rule => rule.check

/-- The check of a descriptor, by the validator of its kind. -/
def Descriptor.checkWith (r : Registry) (groups : GroupWalk) (d : Descriptor) : Check :=
  match r.route d with
  | .refused e => .failing e
  | .host v => v.check d
  | .standard =>
    match d with
    | .field key isOptional value => Check.field key isOptional (checkWith? r groups value)
    | .file path ext content => Check.file path ext (checksWith r groups content)
    | .directory path required optional =>
      Check.directory path (checksWith r groups required) (checksWith r groups optional)
    | .jsonFile path required optional =>
      Check.jsonFile path (checksWith r groups required) (checksWith r groups optional)
    | .package name group => .ofValidate (Check.package name (group.walkWith r groups))
    | .custom kind params => .ofValidate (Check.text kind params)

def Group.walkWith (r : Registry) (groups : GroupWalk) : Group → Context → Walk Unit
  | .rules rules => Check.each (checksWith r groups rules)
  | .lazy kind lambda => groups kind lambda

def checksWith (r : Registry) (groups : GroupWalk) : List Rule → List Check
  | [] => []
  | rule :: rules => rule.checkWith r groups :: checksWith r groups rules

def checkWith? (r : Registry) (groups : GroupWalk) : Option Rule → Option Check
  | none => none
  | some rule => some (rule.checkWith r groups)

end

/-- The error of a lambda group that may not be entered. -/
def groupsTooDeep : EngineError :=
  .specGroup StandardKind.package.name s!"rule groups nested more than {maxGroups} deep"

/-- Walks a lambda group in which `left` more may be nested. -/
def groupWalk (r : Registry) : (left : Nat) → GroupWalk
  | 0, _, _, _ => .fail groupsTooDeep
  | left + 1, kind, lambda, c =>
    if maxGroups ≤ c.groupDepth then .fail groupsTooDeep
    else
      match lambda.rules r.contains kind c.enterGroup with
      | .error e => .fail (.specGroup kind (SpecError.ofEval e).message)
      | .ok rules => Check.each (checksWith r (groupWalk r left) rules) c.enterGroup

/-- The check of a rule under a registry. -/
def Rule.check (r : Registry) (rule : Rule) : Check := rule.checkWith r (groupWalk r maxGroups)

end Rulebook
