import Mathlib.Data.List.Forall2
import Rulebook.Proofs.Groups
import Rulebook.Proofs.Kinds
import Rulebook.Proofs.Rules

/-!
# Walks side by side

Two registries walk the same rule, the first some lambda groups deeper than the second. What relates the
walks of their hosts relates their walks of every rule, if it is kept where walks are composed and where
they are probed. Deeper down the first may also fail where the second does not, as groups have an end.
-/

namespace Rulebook

/-- The same subject at the same place with `n` more groups around it. -/
def Context.deeper (n : Nat) (c : Context) : Context := c.moved [] n

/-- A relation that walks keep on their way, where the first is done `n` groups deeper than the second. -/
structure Alignment (n : Nat) (S : ∀ ⦃α : Type⦄, Walk α → Walk α → Prop) : Prop where
  refl : ∀ {α : Type} (w : Walk α), S w w
  bind : ∀ {α β : Type} {w w' : Walk α} {f f' : α → Walk β}, S w w' → (∀ a, S (f a) (f' a)) →
    S (w.bind f) (w'.bind f')
  probe : ∀ {w w' : Walk Unit}, S w w' → S w.probe w'.probe
  tooDeep : n = 0 ∨ ∀ {α : Type} (e : EngineError) (w : Walk α), S (.fail e) w

section
variable (n : Nat) (S : ∀ ⦃α : Type⦄, Walk α → Walk α → Prop)

/-- The walks of the first check, `n` groups deeper, are related to those of the second. -/
structure Check.Tracks (k k' : Check) : Prop where
  validate : ∀ c, S (k.validate (c.deeper n)) (k'.validate c)
  accepts : ∀ c, S (k.accepts (c.deeper n)) (k'.accepts c)
  present : ∀ c, S (k.present (c.deeper n)) (k'.present c)

inductive Validator.Tracks : Validator → Validator → Prop
  | standard (k : StandardKind) : Tracks (.standard k) (.standard k)
  | host {v v' : HostValidator} (h : ∀ d, (v.check d).Tracks n S (v'.check d)) :
      Tracks (.host v) (.host v')

/-- The same kinds are registered, under validators whose walks are related. -/
def Registry.Tracks (r r' : Registry) : Prop :=
  ∀ kind, Option.Rel (Validator.Tracks n S) (r.validator? kind) (r'.validator? kind)

/-- The rules of hosts whose walks are related to themselves. -/
def Vocabulary.tracked : Vocabulary where
  hosts rule := rule.check.Tracks n S rule.check
  kinds _ := True

end

section
variable {n : Nat} {S : ∀ ⦃α : Type⦄, Walk α → Walk α → Prop}

theorem Registry.tracks_standard : Registry.standard.Tracks n S .standard := by
  intro kind
  cases hv : standard.validator? kind with
  | none => exact .none
  | some v =>
    cases v with
    | standard k => exact .some (.standard k)
    | host v => exact absurd hv (validator?_standard_ne_host kind v)

theorem Registry.Tracks.register {r r' : Registry} (h : r.Tracks n S r') (kind : String) {v v' : Validator}
    (hv : v.Tracks n S v') : (r.register kind v).Tracks n S (r'.register kind v') := by
  intro other
  rw [validator?_register, validator?_register]
  split
  · exact .some hv
  · exact h other

end

namespace Alignment

variable {n : Nat} {S : ∀ ⦃α : Type⦄, Walk α → Walk α → Prop} (a : Alignment n S)
include a

/-! ## Walks -/

theorem of_eq {α : Type} {w w' : Walk α} (h : w = w') : S w w' := h ▸ a.refl w

theorem when (b : Bool) {w w' : Walk Unit} (h : S w w') : S (.when b w) (.when b w') := by
  cases b with
  | false => exact a.refl _
  | true => exact h

theorem into {α : Type} {w w' : Walk (Option α)} {f f' : α → Walk Unit} (h : S w w')
    (hf : ∀ x, S (f x) (f' x)) : S (w.into f) (w'.into f') := by
  refine a.bind h fun o => ?_
  cases o with
  | none => exact a.refl _
  | some x => exact hf x

/-- What opens the same place in both has the same answer, `n` groups deeper in the first. -/
theorem intoDeeper {w : Walk (Option Context)} {f f' : Context → Walk Unit}
    (hf : ∀ d, S (f (d.deeper n)) (f' d)) : S ((w.map (Option.map (·.deeper n))).into f) (w.into f') := by
  rw [Walk.map_into]
  exact a.into (a.refl w) hf

/-! ## Checks made of checks -/

theorem ofValidate {v v' : Context → Walk Unit} (h : ∀ c, S (v (c.deeper n)) (v' c)) :
    (Check.ofValidate v).Tracks n S (.ofValidate v') where
  validate := h
  accepts c := a.probe (h c)
  present c := a.probe (h c)

theorem leaf {v : Context → Walk Unit} (h : ∀ c, v (c.moved [] n) = (v c).under []) :
    (Check.ofValidate v).Tracks n S (.ofValidate v) :=
  a.ofValidate fun c => a.of_eq ((h c).trans (Walk.under_nil _))

variable {ks ks' ls ls' : List Check}

theorem each (h : List.Forall₂ (Check.Tracks n S) ks ks') (c : Context) :
    S (Check.each ks (c.deeper n)) (Check.each ks' c) := by
  induction h with
  | nil => exact a.refl _
  | cons hk _ ih => exact a.bind (hk.validate c) fun _ => ih

theorem eachPresent (h : List.Forall₂ (Check.Tracks n S) ks ks') (c : Context) :
    S (Check.eachPresent ks (c.deeper n)) (Check.eachPresent ks' c) := by
  induction h with
  | nil => exact a.refl _
  | cons hk _ ih =>
    exact a.bind (hk.present c) fun there => a.bind (a.when there (hk.validate c)) fun _ => ih

theorem members (h : List.Forall₂ (Check.Tracks n S) ks ks') (ho : List.Forall₂ (Check.Tracks n S) ls ls')
    (c : Context) : S (Check.members ks ls (c.deeper n)) (Check.members ks' ls' c) :=
  a.bind (a.each h c) fun _ => a.eachPresent ho c

theorem object (h : List.Forall₂ (Check.Tracks n S) ks ks') (ho : List.Forall₂ (Check.Tracks n S) ls ls')
    (c : Context) : S (Check.object ks ls (c.deeper n)) (Check.object ks' ls' c) := by
  have hopen : Check.openObject (c.deeper n) = Check.openObject c :=
    (Check.openObject_moved [] n c).trans (Walk.under_nil _)
  unfold Check.object
  rw [hopen]
  exact a.into (a.refl _) fun _ => a.members h ho c

theorem oneOf (names : List String) (h : List.Forall₂ (Check.Tracks n S) ks ks') (c : Context) :
    S (Check.oneOf names ks (c.deeper n)) (Check.oneOf names ks' c) := by
  induction h with
  | nil => exact a.refl _
  | cons hk _ ih =>
    refine a.bind (hk.accepts c) fun yes => ?_
    cases yes with
    | true => exact hk.validate c
    | false => exact ih

variable {k k' : Check}

theorem itemsFrom (h : k.Tracks n S k') (c : Context) (i : Nat) (vs : List Json) :
    S (Check.itemsFrom k (c.deeper n) i vs) (Check.itemsFrom k' c i vs) := by
  induction vs generalizing i with
  | nil => exact a.refl _
  | cons v vs ih => exact a.bind (h.validate (c.child s!"[{i}]" (.value v))) fun _ => ih (i + 1)

theorem listOf (h : k.Tracks n S k') (min max : Option Nat) (c : Context) :
    S (Check.listOf k min max (c.deeper n)) (Check.listOf k' min max c) := by
  have hopen : Check.openList min max (c.deeper n) = Check.openList min max c :=
    (Check.openList_moved [] n c min max).trans (Walk.under_nil _)
  unfold Check.listOf
  rw [hopen]
  exact a.into (a.refl _) fun vs => a.itemsFrom h c 0 vs

theorem negated (code message : String) (h : k.Tracks n S k') (c : Context) :
    S (Check.negated code message k (c.deeper n)) (Check.negated code message k' c) :=
  a.bind (a.probe (h.validate c)) fun _ => a.refl _

/-! ## Descriptors -/

theorem field (key : String) (isOptional : Bool) {value value' : Option Check}
    (h : Option.Rel (Check.Tracks n S) value value') :
    (Check.field key isOptional value).Tracks n S (.field key isOptional value') where
  validate c := by
    have hopen : Check.openField key isOptional (c.deeper n) = Check.openField key isOptional c :=
      (Check.openField_moved [] n c key isOptional).trans (Walk.under_nil _)
    unfold Check.field
    dsimp only
    rw [hopen]
    refine a.into (a.refl _) fun v => ?_
    cases h with
    | none => exact a.refl _
    | some h => exact h.validate (c.child key (.value v))
  accepts _ := a.refl _
  present _ := a.refl _

theorem ofFile (path : String) {v v' : Context → Walk Unit} (h : ∀ c, S (v (c.deeper n)) (v' c)) :
    (Check.ofFile path v).Tracks n S (.ofFile path v') where
  validate := h
  accepts c := by
    have hfile : Check.isFileAt path (c.deeper n) = Check.isFileAt path c := Check.isFileAt_moved [] n c path
    exact a.of_eq (congrArg Walk.done hfile)
  present c := by
    refine a.of_eq (congrArg Walk.done ?_)
    rw [Context.deeper, Check.entryAt_moved, Check.isThere_moved]

theorem file (path : String) (ext : Option String) (h : List.Forall₂ (Check.Tracks n S) ks ks') :
    (Check.file path ext ks).Tracks n S (.file path ext ks') := by
  refine a.ofFile path fun c => ?_
  rw [Context.deeper, Check.openFile_moved, Walk.under_nil]
  exact a.intoDeeper fun d => a.each h d

theorem jsonFile (path : String) (h : List.Forall₂ (Check.Tracks n S) ks ks')
    (ho : List.Forall₂ (Check.Tracks n S) ls ls') :
    (Check.jsonFile path ks ls).Tracks n S (.jsonFile path ks' ls') := by
  refine a.ofFile path fun c => ?_
  rw [Context.deeper, Check.openDocument_moved, Walk.under_nil]
  exact a.intoDeeper fun d => a.object h ho d

theorem directory (path : Option String) (h : List.Forall₂ (Check.Tracks n S) ks ks')
    (ho : List.Forall₂ (Check.Tracks n S) ls ls') :
    (Check.directory path ks ls).Tracks n S (.directory path ks' ls') where
  validate c := by
    unfold Check.directory
    dsimp only
    rw [Context.deeper, Check.openDirectory_moved, Walk.under_nil]
    exact a.intoDeeper fun d => a.members h ho d
  accepts c := by
    have hdir : Check.isDirectoryAt path (c.deeper n) = Check.isDirectoryAt path c :=
      Check.isDirectoryAt_moved [] n c path
    exact a.of_eq (congrArg Walk.done hdir)
  present c := by
    refine a.of_eq (congrArg Walk.done ?_)
    rw [Context.deeper, Check.directoryAt_moved, Check.isThere_moved]

theorem package (name : Option Regex) {group group' : Context → Walk Unit}
    (h : ∀ c, S (group (c.deeper n)) (group' c)) :
    (Check.ofValidate (Check.package name group)).Tracks n S (.ofValidate (Check.package name group')) := by
  refine a.ofValidate fun c => ?_
  have hopen : Check.openPackage name (c.deeper n) = Check.openPackage name c :=
    (Check.openPackage_moved [] n c name).trans (Walk.under_nil _)
  unfold Check.package
  rw [hopen]
  exact a.into (a.refl _) fun _ => h c

/-! ## Rules -/

variable {r r' : Registry} (hr : r.Tracks n S r') {groups groups' : GroupWalk}
include hr

/-- Both registries refuse a descriptor, or leave it to a host, or read it themselves. -/
theorem dispatch {d : Descriptor} (h : r.route d = .standard → r'.route d = .standard →
      (d.checkWith r groups).Tracks n S (d.checkWith r' groups')) :
    (d.checkWith r groups).Tracks n S (d.checkWith r' groups') := by
  have hrefused : ∀ e, r.route d = .refused e → r'.route d = .refused e →
      (d.checkWith r groups).Tracks n S (d.checkWith r' groups') := by
    intro e hroute hroute'
    unfold Descriptor.checkWith
    rw [hroute, hroute']
    exact ⟨fun _ => a.refl _, fun _ => a.refl _, fun _ => a.refl _⟩
  have hkind := hr d.kind
  -- A kind is known to both registries or to neither.
  cases hv : r.validator? d.kind with
  | none =>
    rw [hv] at hkind
    have hv' : r'.validator? d.kind = none := by
      generalize r'.validator? d.kind = v' at hkind
      cases hkind
      rfl
    exact hrefused (.unregisteredKind d.kind) (by simp [Registry.route, Registry.lookup, hv])
      (by simp [Registry.route, Registry.lookup, hv'])
  | some v =>
    rw [hv] at hkind
    obtain ⟨v', hv', htracks⟩ : ∃ v', r'.validator? d.kind = some v' ∧ v.Tracks n S v' := by
      generalize r'.validator? d.kind = o at hkind
      cases hkind with
      | some htracks => exact ⟨_, rfl, htracks⟩
    cases htracks with
    | @host w w' hhost =>
      have hroute : r.route d = .host w := by simp [Registry.route, Registry.lookup, hv]
      have hroute' : r'.route d = .host w' := by simp [Registry.route, Registry.lookup, hv']
      unfold Descriptor.checkWith
      rw [hroute, hroute']
      exact hhost d
    | standard k =>
      by_cases hk : d.reader? = some k
      · exact h (by simp [Registry.route, Registry.lookup, hv, hk])
          (by simp [Registry.route, Registry.lookup, hv', hk])
      · exact hrefused (.descriptorMismatch k.name d.kind)
          (by simp [Registry.route, Registry.lookup, hv, hk])
          (by simp [Registry.route, Registry.lookup, hv', hk])

omit a hr in
theorem checksWith {w : Vocabulary} {rules : List Rule} (hin : rulesIn w rules)
    (h : ∀ rule ∈ rules, rule.In w → (rule.checkWith r groups).Tracks n S (rule.checkWith r' groups')) :
    List.Forall₂ (Check.Tracks n S) (Rulebook.checksWith r groups rules)
      (Rulebook.checksWith r' groups' rules) := by
  induction rules with
  | nil => exact .nil
  | cons rule rules ih =>
    rw [List.forall_mem_cons] at h
    exact .cons (h.1 hin.1) (ih hin.2 h.2)

/-- A rule is walked alike if its lambda groups are. -/
theorem checkWith (hgroups : ∀ kind l, l.In (.tracked n S) → ∀ c,
      S (groups kind l (c.deeper n)) (groups' kind l c)) (rule : Rule) (hin : rule.In (.tracked n S)) :
    (rule.checkWith r groups).Tracks n S (rule.checkWith r' groups') := by
  induction rule using Rule.induct with
  | str => exact a.leaf fun c => Check.str_moved [] n c _ _ _
  | num => exact a.leaf fun c => Check.num_moved [] n c _ _ _
  | bool => exact a.leaf fun c => Check.bool_moved [] n c
  | literal => exact a.leaf fun c => Check.literal_moved [] n c _
  | pattern => exact a.leaf fun c => Check.pattern_moved [] n c _
  | host => exact hin
  | object required optional hrequired hoptional =>
    exact a.ofValidate (a.object (checksWith hin.1 hrequired) (checksWith hin.2 hoptional))
  | oneOf options hoptions => exact a.ofValidate (a.oneOf _ (checksWith hin hoptions))
  | listOf item min max hitem => exact a.ofValidate (a.listOf (hitem hin) min max)
  | not flavor inner hinner => cases flavor <;> exact a.ofValidate (a.negated _ _ (hinner hin))
  | field key isOptional value hvalue =>
    refine a.dispatch hr fun hroute hroute' => ?_
    have hchecks : Option.Rel (Check.Tracks n S) (checkWith? r groups value)
        (checkWith? r' groups' value) := by
      cases value with
      | none => exact .none
      | some rule => exact .some (hvalue rule rfl hin)
    simpa [Descriptor.checkWith, hroute, hroute'] using a.field key isOptional hchecks
  | file path ext content hcontent =>
    refine a.dispatch hr fun hroute hroute' => ?_
    simpa [Descriptor.checkWith, hroute, hroute'] using a.file path ext (checksWith hin hcontent)
  | directory path required optional hrequired hoptional =>
    refine a.dispatch hr fun hroute hroute' => ?_
    simpa [Descriptor.checkWith, hroute, hroute'] using
      a.directory path (checksWith hin.1 hrequired) (checksWith hin.2 hoptional)
  | jsonFile path required optional hrequired hoptional =>
    refine a.dispatch hr fun hroute hroute' => ?_
    simpa [Descriptor.checkWith, hroute, hroute'] using
      a.jsonFile path (checksWith hin.1 hrequired) (checksWith hin.2 hoptional)
  | rules name rules hrules =>
    refine a.dispatch hr fun hroute hroute' => ?_
    simpa [Descriptor.checkWith, Group.walkWith, hroute, hroute'] using
      a.package name (a.each (checksWith hin hrules))
  | «lazy» name kind l =>
    refine a.dispatch hr fun hroute hroute' => ?_
    simpa [Descriptor.checkWith, Group.walkWith, hroute, hroute'] using
      a.package name (hgroups kind l hin)
  | custom kind params =>
    refine a.dispatch hr fun hroute hroute' => ?_
    simpa [Descriptor.checkWith, hroute, hroute'] using
      a.leaf fun c => Check.text_moved [] n c kind params

omit a in
theorem contains_eq : r.contains = r'.contains := by
  funext kind
  have hkind := hr kind
  unfold Registry.contains
  generalize r.validator? kind = v at hkind ⊢
  generalize r'.validator? kind = v' at hkind ⊢
  cases hkind <;> rfl

/-- A lambda group is walked alike, as its lambda builds the same rules at every depth. -/
theorem groupWalk (left : Nat) (kind : String) {l : Lambda} (hl : l.In (.tracked n S)) (c : Context) :
    S (Rulebook.groupWalk r left kind l (c.deeper n)) (Rulebook.groupWalk r' (left + n) kind l c) := by
  induction left generalizing kind l c with
  -- Where the deeper walk is refused for its depth, the places are the same or `S` lets it be.
  | zero =>
    rcases a.tooDeep with rfl | htooDeep
    · exact a.refl _
    · exact htooDeep _ _
  | succ left ih =>
    rw [Nat.succ_add, groupWalk_succ, groupWalk_succ]
    by_cases hdepth : maxGroups ≤ (c.deeper n).groupDepth
    · rw [if_pos hdepth]
      rcases a.tooDeep with rfl | htooDeep
      · rw [if_pos (show maxGroups ≤ c.groupDepth from hdepth)]
        exact a.refl _
      · exact htooDeep _ _
    have hshallow : ¬ maxGroups ≤ c.groupDepth := fun h => hdepth (Nat.le_trans h (Nat.le_add_right _ n))
    rw [if_neg hdepth, if_neg hshallow]
    have henter : (c.deeper n).enterGroup = c.enterGroup.deeper n := by
      simp [Context.deeper, Context.moved, Context.enterGroup, Nat.add_right_comm]
    have hrules : l.rules r.contains kind (c.enterGroup.deeper n) =
        l.rules r'.contains kind c.enterGroup := by
      rw [contains_eq hr]
      rfl
    unfold builtWalk
    rw [henter, hrules]
    cases hbuilt : l.rules r'.contains kind c.enterGroup with
    | error e => exact a.refl _
    | ok rules =>
      have hin : ∀ rule ∈ rules, rule.In (.tracked n S) :=
        Lambda.rules_in (fun _ _ _ => trivial) hl kind c.enterGroup rules hbuilt
      have hchecks : List.Forall₂ (Check.Tracks n S) (Rulebook.checksWith r (Rulebook.groupWalk r left) rules)
          (Rulebook.checksWith r' (Rulebook.groupWalk r' (left + n)) rules) :=
        checksWith ((rulesIn_iff _ _).2 hin) fun rule _ =>
          a.checkWith hr (fun kind l hl c => ih kind hl c) rule
      exact a.each hchecks c.enterGroup

theorem check (left : Nat) {rule : Rule} (hin : rule.In (.tracked n S)) :
    (rule.checkWith r (Rulebook.groupWalk r left)).Tracks n S
      (rule.checkWith r' (Rulebook.groupWalk r' (left + n))) :=
  a.checkWith hr (fun kind _ hl c => a.groupWalk hr left kind hl c) rule hin

end Alignment

end Rulebook
