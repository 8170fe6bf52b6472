import Rulebook.Engine.Check
import Rulebook.Session.Act

/-!
# Rules on shared lists

The acts of a rule are made of those of its parts as its check is. Each part is handed the list that it
records into: its own context's list where its issues count, a new one where it is asked in private.
-/

namespace Rulebook

namespace Acts

def ofValidate (validate : Scene → Act Unit) : Acts :=
  ⟨validate, fun x => .probe x validate, fun x => .probe x validate⟩

/-- The acts of a check without parts. -/
def leaf (check : Context → Walk Unit) : Acts := ofValidate fun x => .record x (check x.context)

/-- The acts of a check that a host supplies, which records through the context it is given. -/
def ofCheck (k : Check) : Acts where
  validate x := .record x (k.validate x.context)
  accepts x := .record x (k.accepts x.context)
  present x := .record x (k.present x.context)

def failing (e : EngineError) : Acts := ⟨fun _ => .fail e, fun _ => .fail e, fun _ => .fail e⟩

/-! ## Parts in one list -/

def each (parts : List Acts) (x : Scene) : Act Unit := .all (parts.map (·.validate x))

def eachPresent : List Acts → Scene → Act Unit
  | [], _ => .done ()
  | k :: ks, x =>
    (k.present x).bind fun there =>
      (Act.when there (k.validate x)).bind fun _ => eachPresent ks x

def members (required optional : List Acts) (x : Scene) : Act Unit :=
  (each required x).bind fun _ => eachPresent optional x

def object (required optional : List Acts) (x : Scene) : Act Unit :=
  (Act.record x (Check.openObject x.context)).into fun _ => members required optional x

def oneOf (names : List String) : List Acts → Scene → Act Unit
  | [], x => .record x (Check.noMatch names x.context)
  | k :: ks, x =>
    (k.accepts x).bind fun yes => if yes then k.validate x else oneOf names ks x

def itemsFrom (item : Acts) (x : Scene) : Nat → List Json → Act Unit
  | _, [] => .done ()
  | i, v :: vs =>
    (item.validate (x.to (x.context.child s!"[{i}]" (.value v)))).bind fun _ =>
      itemsFrom item x (i + 1) vs

def listOf (item : Acts) (min max : Option Nat) (x : Scene) : Act Unit :=
  (Act.record x (Check.openList min max x.context)).into (itemsFrom item x 0)

def negated (code message : String) (inner : Acts) (x : Scene) : Act Unit :=
  (Act.probe x inner.validate).bind fun clean =>
    .when clean (.record x (.issue x.context code message))

/-! ## Descriptors -/

def valueAt (segment : String) (value : Option Acts) (x : Scene) (v : Json) : Act Unit :=
  match value with
  | some k => k.validate (x.to (x.context.child segment (.value v)))
  | none => .done ()

def field (key : String) (isOptional : Bool) (value : Option Acts) : Acts where
  validate x := (Act.record x (Check.openField key isOptional x.context)).into (valueAt key value x)
  accepts x := .done (Check.hasMember key x.context)
  present x := .done (Check.hasMember key x.context)

def ofFile (path : String) (validate : Scene → Act Unit) : Acts where
  validate := validate
  accepts x := .done (Check.isFileAt path x.context)
  present x := .done (Check.isThere (Check.entryAt path x.context))

def file (path : String) (ext : Option String) (content : List Acts) : Acts :=
  ofFile path fun x =>
    (Act.record x (Check.openFile path ext x.context)).into fun c => each content (x.to c)

def jsonFile (path : String) (required optional : List Acts) : Acts :=
  ofFile path fun x =>
    (Act.record x (Check.openDocument path x.context)).into fun c =>
      object required optional (x.to c)

def directory (path : Option String) (required optional : List Acts) : Acts where
  validate x :=
    (Act.record x (Check.openDirectory path x.context)).into fun c =>
      members required optional (x.to c)
  accepts x := .done (Check.isDirectoryAt path x.context)
  present x := .done (Check.isThere (Check.directoryAt path x.context))

def package (name : Option Regex) (group : Scene → Act Unit) (x : Scene) : Act Unit :=
  (Act.record x (Check.openPackage name x.context)).into fun _ => group x

end Acts

/-! ## Rules -/

/-- How a lambda group is walked on shared lists. -/
abbrev GroupAct := (kind : String) → Lambda → Scene → Act Unit

mutual

/-- The acts of a rule whose lambda groups are walked by `groups`. -/
def Rule.actsWith (r : Registry) (groups : GroupAct) : Rule → Acts
  | .str min max pattern => .leaf (Check.str min max pattern)
  | .num min max integer => .leaf (Check.num min max integer)
  | .bool => .leaf Check.bool
  | .literal expected => .leaf (Check.literal expected)
  | .pattern regex => .leaf (Check.pattern regex)
  | .object required optional =>
    .ofValidate (Acts.object (actsOf r groups required) (actsOf r groups optional))
  | .oneOf options =>
    .ofValidate (Acts.oneOf (options.map Rule.describe) (actsOf r groups options))
  | .listOf item min max => .ofValidate (Acts.listOf (item.actsWith r groups) min max)
  | .not .is inner =>
    .ofValidate (Acts.negated Code.isNotFail
      ("Expected value not to satisfy " ++ inner.describe) (inner.actsWith r groups))
  | .not .doesNotContain inner =>
    .ofValidate (Acts.negated Code.doesNotContainFail
      ("Expected " ++ inner.describe ++ " not to be present") (inner.actsWith r groups))
  | .contains d => d.actsWith r groups
  | .host rule => .ofCheck rule.check

def Descriptor.actsWith (r : Registry) (groups : GroupAct) (d : Descriptor) : Acts :=
  match r.route d with
  | .refused e => .failing e
  | .host v => .ofCheck (v.check d)
  | .standard =>
    match d with
    | .field key isOptional value => Acts.field key isOptional (actsOf? r groups value)
    | .file path ext content => Acts.file path ext (actsOf r groups content)
    | .directory path required optional =>
      Acts.directory path (actsOf r groups required) (actsOf r groups optional)
    | .jsonFile path required optional =>
      Acts.jsonFile path (actsOf r groups required) (actsOf r groups optional)
    | .package name group => .ofValidate (Acts.package name (group.actWith r groups))
    | .custom kind params => .leaf (Check.text kind params)

def Group.actWith (r : Registry) (groups : GroupAct) : Group → Scene → Act Unit
  | .rules rules => Acts.each (actsOf r groups rules)
  | .lazy kind lambda => groups kind lambda

def actsOf (r : Registry) (groups : GroupAct) : List Rule → List Acts
  | [] => []
  | rule :: rules => rule.actsWith r groups :: actsOf r groups rules

def actsOf? (r : Registry) (groups : GroupAct) : Option Rule → Option Acts
  | none => none
  | some rule => some (rule.actsWith r groups)

end

/-- Walks a lambda group, in which `left` more may be nested, on shared lists. -/
def groupAct (r : Registry) : (left : Nat) → GroupAct
  | 0, _, _, _ => .fail groupsTooDeep
  | left + 1, kind, lambda, x =>
    if maxGroups ≤ x.context.groupDepth then .fail groupsTooDeep
    else
      match lambda.rules r.contains kind x.context.enterGroup with
      | .error e => .fail (.specGroup kind (SpecError.ofEval e).message)
      | .ok rules =>
        Acts.each (actsOf r (groupAct r left) rules) (x.to x.context.enterGroup)

/-- The acts of a rule under a registry. -/
def Rule.acts (r : Registry) (rule : Rule) : Acts := rule.actsWith r (groupAct r maxGroups)

end Rulebook
