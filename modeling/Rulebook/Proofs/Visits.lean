import Mathlib.Logic.Relation
import Rulebook.Proofs.Modes

/-!
# What a walk comes to

A walk goes from visit to visit. A rule that is walked in a context asks for its parts, there or below,
in private or for their issues, as far as what came before lets it; a lambda group that is entered asks
for the rules that its lambda builds. No visit asks without end, and none survives an error of what it
asks for.
-/

namespace Rulebook

/-- Evaluates the lambda of a group, one group deeper, and walks the rules it builds. -/
def builtWalk (r : Registry) (groups : GroupWalk) (kind : String) (l : Lambda) (c : Context) :
    Walk Unit :=
  match l.rules r.contains kind c.enterGroup with
  | .error e => .fail (.specGroup kind (SpecError.ofEval e).message)
  | .ok rules => Check.each (checksWith r groups rules) c.enterGroup

/-- Every lambda group is walked as the rules that its lambda builds, unless it is nested too deep. -/
def Unrolls (r : Registry) (groups : GroupWalk) : Prop :=
  ∀ kind l c, groups kind l c =
    if maxGroups ≤ c.groupDepth then .fail groupsTooDeep else builtWalk r groups kind l c

/-- Walks a check if what it looks at is there. -/
def Check.ifPresent (k : Check) (c : Context) : Walk Unit :=
  (k.present c).bind fun there => Walk.when there (k.validate c)

theorem Check.eachPresent_eq_all (checks : List Check) (c : Context) :
    eachPresent checks c = .all (checks.map (·.ifPresent c)) := by
  induction checks with
  | nil => rfl
  | cons k ks ih => rw [eachPresent, List.map_cons, Walk.all, ifPresent, Walk.bind_assoc, ih]

theorem Check.itemsFrom_eq_all (item : Check) (c : Context) (i : Nat) (vs : List Json) :
    itemsFrom item c i vs =
      .all ((vs.zipIdx i).map fun v => item.validate (c.child s!"[{v.2}]" (.value v.1))) := by
  induction vs generalizing i with
  | nil => rfl
  | cons v vs ih => rw [itemsFrom, List.zipIdx_cons, List.map_cons, Walk.all, ih]

/-! ## Visits -/

/-- What is done at a place. -/
inductive Job where
  | validate (rule : Rule)
  | accepts (rule : Rule)
  | present (rule : Rule)
  | each (rules : List Rule)
  | eachPresent (rules : List Rule)
  | members (required optional : List Rule)
  /-- Coming to a lambda group. -/
  | group (kind : String) (lambda : Lambda)
  /-- Evaluating the lambda of a group on behalf of the place of the group. -/
  | build (kind : String) (lambda : Lambda)

namespace Job

abbrev Answer : Job → Type
  | accepts _ | present _ => Bool
  | validate _ | each _ | eachPresent _ | members .. | group .. | build .. => Unit

/-- The walk of a job on the standard registry. -/
def walk (groups : GroupWalk) : (t : Job) → Context → Walk t.Answer
  | validate rule, c => (rule.checkWith .standard groups).validate c
  | accepts rule, c => (rule.checkWith .standard groups).accepts c
  | present rule, c => (rule.checkWith .standard groups).present c
  | each rules, c => Check.each (checksWith .standard groups rules) c
  | eachPresent rules, c => Check.eachPresent (checksWith .standard groups rules) c
  | members required optional, c =>
    Check.members (checksWith .standard groups required) (checksWith .standard groups optional) c
  | group kind l, c => groups kind l c
  | build kind l, c => builtWalk .standard groups kind l c

/-- A job ends with an answer. -/
def Gives (groups : GroupWalk) (t : Job) (c : Context) (a : t.Answer) : Prop :=
  (t.walk groups c).ending = .done a

end Job

structure Visit where
  job : Job
  context : Context

def Visit.walk (groups : GroupWalk) (v : Visit) : Walk v.job.Answer := v.job.walk groups v.context

/-- A member of a list that comes to its turn, as all before it let the next one come. -/
inductive InTurn {α : Type} (go : α → Prop) : List α → α → Prop
  | head (x : α) (xs : List α) : InTurn go (x :: xs) x
  | tail {x y : α} {xs : List α} (hgo : go y) (h : InTurn go xs x) : InTurn go (y :: xs) x

theorem InTurn.mem {α : Type} {go : α → Prop} {xs : List α} {x : α} (h : InTurn go xs x) :
    x ∈ xs := by
  induction h with
  | head x xs => exact List.mem_cons_self
  | tail _ _ ih => exact List.mem_cons_of_mem _ ih

/-- The visits that a visit comes to next, one after the other, on the standard registry. -/
inductive Asks (groups : GroupWalk) : Visit → Visit → Prop
  | each {rules : List Rule} {rule : Rule} {c : Context}
      (h : InTurn (fun q => Job.Gives groups (.validate q) c ()) rules rule) :
      Asks groups ⟨.each rules, c⟩ ⟨.validate rule, c⟩
  | present {rules : List Rule} {rule : Rule} {c : Context}
      (h : InTurn (fun q => ((q.checkWith .standard groups).ifPresent c).ending = .done ()) rules rule) :
      Asks groups ⟨.eachPresent rules, c⟩ ⟨.present rule, c⟩
  | there {rules : List Rule} {rule : Rule} {c : Context}
      (h : InTurn (fun q => ((q.checkWith .standard groups).ifPresent c).ending = .done ()) rules rule)
      (hthere : Job.Gives groups (.present rule) c true) :
      Asks groups ⟨.eachPresent rules, c⟩ ⟨.validate rule, c⟩
  | required {required optional : List Rule} {c : Context} :
      Asks groups ⟨.members required optional, c⟩ ⟨.each required, c⟩
  | optional {required optional : List Rule} {c : Context}
      (h : Job.Gives groups (.each required) c ()) :
      Asks groups ⟨.members required optional, c⟩ ⟨.eachPresent optional, c⟩
  | acceptsByWalk {rule : Rule} {c : Context} (hhost : ∀ h, rule ≠ .host h)
      (hpart : ¬ rule.AsksForPart) : Asks groups ⟨.accepts rule, c⟩ ⟨.validate rule, c⟩
  | presentByWalk {rule : Rule} {c : Context} (hhost : ∀ h, rule ≠ .host h)
      (hpart : ¬ rule.AsksForPart) : Asks groups ⟨.present rule, c⟩ ⟨.validate rule, c⟩
  | object {required optional : List Rule} {c : Context}
      (h : (Check.openObject c).ending = .done (some ())) :
      Asks groups ⟨.validate (.object required optional), c⟩ ⟨.members required optional, c⟩
  | option {options : List Rule} {rule : Rule} {c : Context}
      (h : InTurn (fun q => Job.Gives groups (.accepts q) c false) options rule) :
      Asks groups ⟨.validate (.oneOf options), c⟩ ⟨.accepts rule, c⟩
  | choice {options : List Rule} {rule : Rule} {c : Context}
      (h : InTurn (fun q => Job.Gives groups (.accepts q) c false) options rule)
      (hyes : Job.Gives groups (.accepts rule) c true) :
      Asks groups ⟨.validate (.oneOf options), c⟩ ⟨.validate rule, c⟩
  | item {item : Rule} {min max : Option Nat} {c : Context} {items : List Json} {v : Json × Nat}
      (hitems : c.value = .array items)
      (h : InTurn (fun u => Job.Gives groups (.validate item)
        (c.child s!"[{u.2}]" (.value u.1)) ()) items.zipIdx v) :
      Asks groups ⟨.validate (.listOf item min max), c⟩
        ⟨.validate item, c.child s!"[{v.2}]" (.value v.1)⟩
  | negated {flavor : Negation} {inner : Rule} {c : Context} :
      Asks groups ⟨.validate (.not flavor inner), c⟩ ⟨.validate inner, c⟩
  | field {key : String} {isOptional : Bool} {rule : Rule} {c : Context} {v : Json}
      (h : (Check.openField key isOptional c).ending = .done (some v)) :
      Asks groups ⟨.validate (.contains (.field key isOptional (some rule))), c⟩
        ⟨.validate rule, c.child key (.value v)⟩
  | file {path : String} {ext : Option String} {content : List Rule} {c d : Context}
      (h : (Check.openFile path ext c).ending = .done (some d)) :
      Asks groups ⟨.validate (.contains (.file path ext content)), c⟩ ⟨.each content, d⟩
  | directory {path : Option String} {required optional : List Rule} {c d : Context}
      (h : (Check.openDirectory path c).ending = .done (some d)) :
      Asks groups ⟨.validate (.contains (.directory path required optional)), c⟩
        ⟨.members required optional, d⟩
  | jsonFile {path : String} {required optional : List Rule} {c d : Context}
      (h : (Check.openDocument path c).ending = .done (some d)) :
      Asks groups ⟨.validate (.contains (.jsonFile path required optional)), c⟩
        ⟨.validate (.object required optional), d⟩
  | rules {name : Option Regex} {rules : List Rule} {c : Context}
      (h : (Check.openPackage name c).ending = .done (some ())) :
      Asks groups ⟨.validate (.contains (.package name (.rules rules))), c⟩ ⟨.each rules, c⟩
  | lazy {name : Option Regex} {kind : String} {l : Lambda} {c : Context}
      (h : (Check.openPackage name c).ending = .done (some ())) :
      Asks groups ⟨.validate (.contains (.package name (.lazy kind l))), c⟩ ⟨.group kind l, c⟩
  | enter {kind : String} {l : Lambda} {c : Context} (h : c.groupDepth < maxGroups) :
      Asks groups ⟨.group kind l, c⟩ ⟨.build kind l, c⟩
  | built {kind : String} {l : Lambda} {c : Context} {rules : List Rule}
      (h : l.rules Registry.standard.contains kind c.enterGroup = .ok rules) :
      Asks groups ⟨.build kind l, c⟩ ⟨.each rules, c.enterGroup⟩

/-! ## What the walks of visits are made of -/

theorem Registry.route_standard_of_reader {d : Descriptor} {k : StandardKind}
    (h : d.reader? = some k) : standard.route d = .standard :=
  @route_reader [] (by simp) d k h

namespace Rule

theorem checkWith_custom (kind : String) (params : Json) :
    (∀ groups, (contains (.custom kind params)).checkWith .standard groups =
      .ofValidate (Check.text kind params)) ∨
    ∃ e, ∀ groups, (contains (.custom kind params)).checkWith .standard groups = .failing e := by
  cases hroute : Registry.standard.route (.custom kind params) with
  | standard => exact .inl fun groups => by simp [checkWith, Descriptor.checkWith, hroute]
  | host v => exact absurd hroute (Registry.route_standard_ne_host _ v)
  | refused e => exact .inr ⟨e, fun groups => by simp [checkWith, Descriptor.checkWith, hroute]⟩

variable (groups : GroupWalk)

theorem checkWith_field (key : String) (isOptional : Bool) (value : Option Rule) :
    (contains (.field key isOptional value)).checkWith .standard groups =
      Check.field key isOptional (value.map (·.checkWith .standard groups)) := by
  have hroute := Registry.route_standard_of_reader (d := .field key isOptional value) rfl
  simp [checkWith, Descriptor.checkWith, hroute, checkWith?_eq_map]

theorem checkWith_file (path : String) (ext : Option String) (content : List Rule) :
    (contains (.file path ext content)).checkWith .standard groups =
      Check.file path ext (checksWith .standard groups content) := by
  have hroute := Registry.route_standard_of_reader (d := .file path ext content) rfl
  simp [checkWith, Descriptor.checkWith, hroute]

theorem checkWith_directory (path : Option String) (required optional : List Rule) :
    (contains (.directory path required optional)).checkWith .standard groups =
      Check.directory path (checksWith .standard groups required)
        (checksWith .standard groups optional) := by
  have hroute := Registry.route_standard_of_reader (d := .directory path required optional) rfl
  simp [checkWith, Descriptor.checkWith, hroute]

theorem checkWith_jsonFile (path : String) (required optional : List Rule) :
    (contains (.jsonFile path required optional)).checkWith .standard groups =
      Check.jsonFile path (checksWith .standard groups required)
        (checksWith .standard groups optional) := by
  have hroute := Registry.route_standard_of_reader (d := .jsonFile path required optional) rfl
  simp [checkWith, Descriptor.checkWith, hroute]

theorem checkWith_package (name : Option Regex) (group : Group) :
    (contains (.package name group)).checkWith .standard groups =
      .ofValidate (Check.package name (group.walkWith .standard groups)) := by
  have hroute := Registry.route_standard_of_reader (d := .package name group) rfl
  simp [checkWith, Descriptor.checkWith, hroute]

/-- What is no part and no code of a host is asked about by its own walk. -/
theorem checkWith_eq_ofValidate {rule : Rule} (hhost : ∀ h, rule ≠ .host h)
    (hpart : ¬ rule.AsksForPart) :
    rule.checkWith .standard groups = .ofValidate (rule.checkWith .standard groups).validate := by
  cases rule with
  | str | num | bool | literal | pattern | object | oneOf | listOf => rfl
  | not flavor inner => cases flavor <;> rfl
  | host h => exact absurd rfl (hhost h)
  | contains d =>
    cases d with
    | field | file | directory | jsonFile => exact absurd trivial hpart
    | package name group =>
      rw [checkWith_package]
      rfl
    | custom kind params =>
      rcases checkWith_custom kind params with h | ⟨e, h⟩
      all_goals
        rw [h]
        rfl

end Rule

namespace Job

variable (groups : GroupWalk) (c : Context)

theorem walk_each (rules : List Rule) :
    (each rules).walk groups c = .all (rules.map fun q => (validate q).walk groups c) := by
  rw [walk, checksWith_eq_map, Check.each, List.map_map]
  rfl

theorem walk_eachPresent (rules : List Rule) :
    (eachPresent rules).walk groups c =
      .all (rules.map fun q => (q.checkWith .standard groups).ifPresent c) := by
  rw [walk, checksWith_eq_map, Check.eachPresent_eq_all, List.map_map]
  rfl

theorem walk_members (required optional : List Rule) :
    (members required optional).walk groups c =
      ((each required).walk groups c).bind fun _ => (eachPresent optional).walk groups c := rfl

theorem walk_byWalk {rule : Rule} (hhost : ∀ h, rule ≠ .host h) (hpart : ¬ rule.AsksForPart) :
    (accepts rule).walk groups c = ((validate rule).walk groups c).probe ∧
      (present rule).walk groups c = ((validate rule).walk groups c).probe := by
  simp only [walk]
  rw [Rule.checkWith_eq_ofValidate groups hhost hpart]
  exact ⟨rfl, rfl⟩

theorem walk_object (required optional : List Rule) :
    (validate (.object required optional)).walk groups c =
      (Check.openObject c).into fun _ => (members required optional).walk groups c := rfl

theorem walk_oneOf (options : List Rule) :
    (validate (.oneOf options)).walk groups c =
      Check.oneOf (options.map Rule.describe) (options.map (·.checkWith .standard groups)) c := by
  rw [← checksWith_eq_map]
  rfl

theorem walk_listOf (item : Rule) (min max : Option Nat) :
    (validate (.listOf item min max)).walk groups c =
      (Check.openList min max c).into fun items => .all (items.zipIdx.map fun v =>
        (validate item).walk groups (c.child s!"[{v.2}]" (.value v.1))) := by
  simp only [walk, Rule.checkWith, Check.ofValidate, Check.listOf]
  congr 1
  funext items
  exact Check.itemsFrom_eq_all ..

theorem walk_not (flavor : Negation) (inner : Rule) :
    ∃ code message, ∀ groups c, (validate (.not flavor inner)).walk groups c =
      ((validate inner).walk groups c).probe.bind fun clean =>
        Walk.when clean (Walk.issue c code message) := by
  cases flavor <;> exact ⟨_, _, fun _ _ => rfl⟩

theorem walk_field (key : String) (isOptional : Bool) (value : Option Rule) :
    (validate (.contains (.field key isOptional value))).walk groups c =
      (Check.openField key isOptional c).into fun v =>
        value.elim (Walk.done ()) fun rule =>
          (validate rule).walk groups (c.child key (.value v)) := by
  rw [walk, Rule.checkWith_field]
  cases value <;> rfl

theorem walk_file (path : String) (ext : Option String) (content : List Rule) :
    (validate (.contains (.file path ext content))).walk groups c =
      (Check.openFile path ext c).into fun d => (each content).walk groups d := by
  rw [walk, Rule.checkWith_file]
  rfl

theorem walk_directory (path : Option String) (required optional : List Rule) :
    (validate (.contains (.directory path required optional))).walk groups c =
      (Check.openDirectory path c).into fun d => (members required optional).walk groups d := by
  rw [walk, Rule.checkWith_directory]
  rfl

theorem walk_jsonFile (path : String) (required optional : List Rule) :
    (validate (.contains (.jsonFile path required optional))).walk groups c =
      (Check.openDocument path c).into fun d =>
        (validate (.object required optional)).walk groups d := by
  rw [walk, Rule.checkWith_jsonFile]
  rfl

theorem walk_rules (name : Option Regex) (rules : List Rule) :
    (validate (.contains (.package name (.rules rules)))).walk groups c =
      (Check.openPackage name c).into fun _ => (each rules).walk groups c := by
  rw [walk, Rule.checkWith_package]
  rfl

theorem walk_lazy (name : Option Regex) (kind : String) (l : Lambda) :
    (validate (.contains (.package name (.lazy kind l)))).walk groups c =
      (Check.openPackage name c).into fun _ => (group kind l).walk groups c := by
  rw [walk, Rule.checkWith_package]
  rfl

end Job

/-! ## Errors -/

theorem InTurn.map {α β : Type} {go : β → Prop} {f : α → β} {xs : List α} {x : α}
    (h : InTurn (fun y => go (f y)) xs x) : InTurn go (xs.map f) (f x) := by
  induction h with
  | head x xs => exact .head ..
  | tail hgo _ ih => exact .tail hgo ih

namespace Walk

variable {α β : Type} {e : EngineError}

theorem failed_bind_left {w : Walk α} {f : α → Walk β} (h : w.ending = .failed e) :
    (w.bind f).ending = .failed e := by
  simp [bind, h]

theorem failed_bind_right {w : Walk α} {f : α → Walk β} {a : α} (h : w.ending = .done a)
    (hf : (f a).ending = .failed e) : (w.bind f).ending = .failed e := by
  simp [bind, h, hf]

theorem failed_into {w : Walk (Option α)} {f : α → Walk Unit} {a : α}
    (h : w.ending = .done (some a)) (hf : (f a).ending = .failed e) :
    (w.into f).ending = .failed e :=
  failed_bind_right h hf

theorem failed_probe {w : Walk Unit} (h : w.ending = .failed e) : w.probe.ending = .failed e := by
  simp [probe, h]

theorem failed_all {ws : List (Walk Unit)} {w : Walk Unit}
    (hturn : InTurn (fun v => v.ending = .done ()) ws w) (h : w.ending = .failed e) :
    (all ws).ending = .failed e := by
  induction hturn with
  | head w ws => exact failed_bind_left h
  | tail hdone _ ih => exact failed_bind_right hdone (ih h)

end Walk

namespace Check

variable {e : EngineError} {c : Context}

theorem ending_openList {items : List Json} (h : c.value = .array items) (min max : Option Nat) :
    (openList min max c).ending = .done (some items) := by
  simp only [openList, h, Walk.all, Walk.when]
  split <;> split <;> rfl

theorem value_of_openList {items : List Json} {min max : Option Nat}
    (h : (openList min max c).ending = .done (some items)) : c.value = .array items := by
  cases hvalue : c.value with
  | array vs =>
    rw [ending_openList hvalue] at h
    cases h
    rfl
  | _ =>
    simp only [openList, hvalue] at h
    cases h

theorem failed_oneOf {names : List String} {options : List Check} {k : Check}
    (hturn : InTurn (fun l => (l.accepts c).ending = .done false) options k)
    (h : (k.accepts c).ending = .failed e ∨
      (k.accepts c).ending = .done true ∧ (k.validate c).ending = .failed e) :
    (oneOf names options c).ending = .failed e := by
  induction hturn with
  | head k ks =>
    rcases h with h | ⟨hyes, h⟩
    · exact Walk.failed_bind_left h
    · exact Walk.failed_bind_right hyes h
  | tail hno _ ih => exact Walk.failed_bind_right hno (ih h)

end Check

section
variable {groups : GroupWalk}

/-- What ends in an error ends what asked for it in the same error. -/
theorem Asks.failed (hgroups : Unrolls .standard groups) {v w : Visit} (h : Asks groups v w)
    {e : EngineError} (he : (w.walk groups).ending = .failed e) :
    (v.walk groups).ending = .failed e := by
  unfold Visit.walk at he ⊢
  -- A walk only goes on after an answer, and a probe hands an error on.
  cases h with
  | each hturn =>
    rw [Job.walk_each]
    exact Walk.failed_all hturn.map he
  | present hturn =>
    rw [Job.walk_eachPresent]
    exact Walk.failed_all hturn.map (Walk.failed_bind_left he)
  | there hturn hthere =>
    rw [Job.walk_eachPresent]
    exact Walk.failed_all hturn.map (Walk.failed_bind_right hthere he)
  | required => exact Walk.failed_bind_left he
  | optional hrequired => exact Walk.failed_bind_right hrequired he
  | acceptsByWalk hhost hpart =>
    rw [(Job.walk_byWalk groups _ hhost hpart).1]
    exact Walk.failed_probe he
  | presentByWalk hhost hpart =>
    rw [(Job.walk_byWalk groups _ hhost hpart).2]
    exact Walk.failed_probe he
  | object hopen => exact Walk.failed_into hopen he
  | option hturn =>
    rw [Job.walk_oneOf]
    exact Check.failed_oneOf hturn.map (.inl he)
  | choice hturn hyes =>
    rw [Job.walk_oneOf]
    exact Check.failed_oneOf hturn.map (.inr ⟨hyes, he⟩)
  | item hitems hturn =>
    rw [Job.walk_listOf]
    exact Walk.failed_into (Check.ending_openList hitems _ _) (Walk.failed_all hturn.map he)
  | @negated flavor inner c =>
    obtain ⟨code, message, hwalk⟩ := Job.walk_not flavor inner
    rw [hwalk]
    exact Walk.failed_bind_left (Walk.failed_probe he)
  | field hopen =>
    rw [Job.walk_field]
    exact Walk.failed_into hopen he
  | file hopen =>
    rw [Job.walk_file]
    exact Walk.failed_into hopen he
  | directory hopen =>
    rw [Job.walk_directory]
    exact Walk.failed_into hopen he
  | jsonFile hopen =>
    rw [Job.walk_jsonFile]
    exact Walk.failed_into hopen he
  | rules hopen =>
    rw [Job.walk_rules]
    exact Walk.failed_into hopen he
  | lazy hopen =>
    rw [Job.walk_lazy]
    exact Walk.failed_into hopen he
  | enter hdepth =>
    rw [Job.walk, hgroups, if_neg (Nat.not_le_of_lt hdepth)]
    exact he
  | built hrules =>
    rw [Job.walk, builtWalk, hrules]
    exact he

end

/-! ## Descent -/

namespace Visit

/-- How many groups enclose what is done; the lambda of a group is evaluated inside of it. -/
def depth : Visit → Nat
  | ⟨.build .., c⟩ => c.groupDepth + 1
  | ⟨_, c⟩ => c.groupDepth

theorem groupDepth_le (v : Visit) : v.context.groupDepth ≤ v.depth := by
  obtain ⟨_ | _, c⟩ := v <;> simp [depth]

/-- The size of the rules that are left to walk before the next group. -/
noncomputable def size : Visit → Nat
  | ⟨.validate rule, _⟩ => 3 * sizeOf rule
  | ⟨.accepts rule, _⟩ | ⟨.present rule, _⟩ => 3 * sizeOf rule + 1
  | ⟨.each rules, _⟩ | ⟨.eachPresent rules, _⟩ => 3 * sizeOf rules
  | ⟨.members required optional, _⟩ => 3 * (sizeOf required + sizeOf optional) + 1
  | ⟨.group .., _⟩ => 0
  | ⟨.build kind l, c⟩ =>
    match l.rules Registry.standard.contains kind c.enterGroup with
    | .ok rules => 3 * sizeOf rules + 1
    | .error _ => 0

end Visit

namespace Check

variable {c d : Context}

theorem entryAt_of_openFile {path : String} {ext : Option String}
    (h : (openFile path ext c).ending = .done (some d)) : entryAt path c = some d := by
  unfold openFile at h
  split at h
  · cases h
  · rename_i child hchild
    dsimp only at h
    split at h
    · cases h
    · split at h
      · cases h
      · split at h <;> cases h
        exact hchild

theorem directoryAt_of_openDirectory {path : Option String}
    (h : (openDirectory path c).ending = .done (some d)) : directoryAt path c = some d := by
  unfold openDirectory at h
  dsimp only at h
  split at h
  · cases h
  · rename_i child hchild
    split at h
    · cases h
    · split at h <;> cases h
      exact hchild

theorem groupDepth_entryAt {path : String} (h : entryAt path c = some d) :
    d.groupDepth = c.groupDepth := by
  obtain ⟨base, -, rfl⟩ := Option.map_eq_some_iff.1 h
  rfl

theorem groupDepth_openDirectory {path : Option String}
    (h : (openDirectory path c).ending = .done (some d)) : d.groupDepth = c.groupDepth := by
  have hd := directoryAt_of_openDirectory h
  unfold directoryAt at hd
  split at hd
  · exact groupDepth_entryAt hd
  · obtain ⟨base, -, rfl⟩ := Option.map_eq_some_iff.1 hd
    rfl

theorem groupDepth_openDocument {path : String}
    (h : (openDocument path c).ending = .done (some d)) : d.groupDepth = c.groupDepth := by
  unfold openDocument Walk.bind at h
  split at h
  · rename_i o ho
    cases o with
    | none => cases h
    | some e =>
      dsimp only at h
      split at h
      · cases h
      · cases h
        exact groupDepth_entryAt (d := e) (entryAt_of_openFile ho)
  · cases h
  · cases h

end Check

/-- What a visit asks for is smaller, or the lambda of a group that is not yet too deep. -/
theorem Asks.descends {groups : GroupWalk} {v w : Visit} (h : Asks groups v w) :
    w.depth = v.depth ∧ w.size < v.size ∨ w.depth = v.depth + 1 ∧ v.depth < maxGroups := by
  cases h with
  | each hturn | present hturn | there hturn =>
    have hsize := List.sizeOf_lt_of_mem hturn.mem
    exact .inl ⟨rfl, by simp only [Visit.size]; omega⟩
  | required | optional | acceptsByWalk | presentByWalk =>
    exact .inl ⟨rfl, by simp only [Visit.size]; omega⟩
  | object => exact .inl ⟨rfl, by simp only [Visit.size, Rule.object.sizeOf_spec]; omega⟩
  | option hturn | choice hturn =>
    have hsize := List.sizeOf_lt_of_mem hturn.mem
    exact .inl ⟨rfl, by simp only [Visit.size, Rule.oneOf.sizeOf_spec]; omega⟩
  | item => exact .inl ⟨rfl, by simp only [Visit.size, Rule.listOf.sizeOf_spec]; omega⟩
  | negated => exact .inl ⟨rfl, by simp only [Visit.size, Rule.not.sizeOf_spec]; omega⟩
  | field =>
    refine .inl ⟨rfl, ?_⟩
    simp only [Visit.size, Rule.contains.sizeOf_spec, Descriptor.field.sizeOf_spec,
      Option.some.sizeOf_spec]
    omega
  | file hopen =>
    refine .inl ⟨Check.groupDepth_entryAt (Check.entryAt_of_openFile hopen), ?_⟩
    simp only [Visit.size, Rule.contains.sizeOf_spec, Descriptor.file.sizeOf_spec]
    omega
  | directory hopen =>
    refine .inl ⟨Check.groupDepth_openDirectory hopen, ?_⟩
    simp only [Visit.size, Rule.contains.sizeOf_spec, Descriptor.directory.sizeOf_spec]
    omega
  | jsonFile hopen =>
    refine .inl ⟨Check.groupDepth_openDocument hopen, ?_⟩
    simp only [Visit.size, Rule.contains.sizeOf_spec, Descriptor.jsonFile.sizeOf_spec,
      Rule.object.sizeOf_spec]
    omega
  | rules =>
    refine .inl ⟨rfl, ?_⟩
    simp only [Visit.size, Rule.contains.sizeOf_spec, Descriptor.package.sizeOf_spec,
      Group.rules.sizeOf_spec]
    omega
  | lazy =>
    refine .inl ⟨rfl, ?_⟩
    simp only [Visit.size, Rule.contains.sizeOf_spec]
    omega
  | enter hdepth => exact .inr ⟨rfl, hdepth⟩
  | built hrules => exact .inl ⟨rfl, by simp only [Visit.size, hrules]; omega⟩

/-- No walk goes from visit to visit without end. -/
theorem wellFounded_asks (groups : GroupWalk) : WellFounded fun w v => Asks groups v w := by
  let order := invImage (fun v : Visit => (maxGroups - v.depth, v.size))
    (Prod.lex Nat.lt_wfRel Nat.lt_wfRel)
  refine Subrelation.wf (fun {w v} h => ?_) order.wf
  rcases h.descends with ⟨hdepth, hsize⟩ | ⟨hdepth, hdeeper⟩
  · have hleft : maxGroups - w.depth = maxGroups - v.depth := by omega
    exact Prod.lex_def.2 (.inr ⟨hleft, hsize⟩)
  · have hleft : maxGroups - w.depth < maxGroups - v.depth := by omega
    exact Prod.lex_def.2 (.inl hleft)

/-! ## Whole walks -/

/-- A visit comes, by and by, to another. -/
def Reaches (groups : GroupWalk) : Visit → Visit → Prop := Relation.ReflTransGen (Asks groups)

section
variable {groups : GroupWalk} {v w : Visit}

theorem Reaches.failed (hgroups : Unrolls .standard groups) (h : Reaches groups v w) {e : EngineError}
    (he : (w.walk groups).ending = .failed e) : (v.walk groups).ending = .failed e := by
  induction h with
  | refl => exact he
  | tail _ hasks ih => exact ih (hasks.failed hgroups he)

theorem Reaches.depth_le (h : Reaches groups v w) (hv : v.depth ≤ maxGroups) :
    w.depth ≤ maxGroups := by
  induction h with
  | refl => exact hv
  | tail _ hasks ih =>
    rcases hasks.descends with ⟨hdepth, -⟩ | ⟨hdepth, hleft⟩ <;> omega

end

end Rulebook
