import Rulebook.Engine.Check
import Rulebook.Proofs.Evaluation
import Rulebook.Proofs.Expectation
import Rulebook.Proofs.RuleInduction

/-!
# What the walk of a rule may find

An expectation fits a registry and a vocabulary if it admits what comes from outside: the walks of hosts
and the refusals of the registry. Then the check of every rule of the vocabulary meets it, with whatever
rules its lambdas build on the way. So where hosts keep to their context, every rule does.
-/

namespace Rulebook

/-- The check of a descriptor that no standard validator reads. -/
def Registry.foreign? (r : Registry) (d : Descriptor) : Option Check :=
  match r.route d with
  | .refused e => some (.failing e)
  | .host v => some (v.check d)
  | .standard => none

structure Expectation.Fits (x : Expectation) (r : Registry) (w : Vocabulary) : Prop where
  sound : x.Sound
  covers : w.Covers r.contains
  hosts : ∀ rule, w.hosts rule → rule.check.Meets x
  foreign : ∀ d, d.In w → ∀ k ∈ r.foreign? d, k.Meets x

theorem Registry.validator?_of_route {r : Registry} {d : Descriptor} {v : HostValidator}
    (h : r.route d = .host v) : r.validator? d.kind = some (.host v) := by
  unfold route lookup at h
  grind

/-- Where any error may be, only the validators of hosts count. -/
theorem Registry.meets_foreign {r : Registry} {x : Expectation} (herror : ∀ e, x.error e)
    (hhosts : ∀ kind v, r.validator? kind = some (.host v) → ∀ d, (v.check d).Meets x)
    (d : Descriptor) : ∀ k ∈ r.foreign? d, k.Meets x := by
  intro k hk
  unfold foreign? at hk
  split at hk
  · cases hk
    exact Check.meets_failing (herror _)
  · rename_i v hroute
    cases hk
    exact hhosts d.kind v (validator?_of_route hroute) d
  · cases hk

section
variable {r : Registry} {groups : GroupWalk}

theorem checksWith_eq_map (rules : List Rule) :
    checksWith r groups rules = rules.map (·.checkWith r groups) := by
  induction rules with
  | nil => rfl
  | cons rule rules ih => rw [checksWith, ih, List.map_cons]

theorem checkWith?_eq_map (rule : Option Rule) :
    checkWith? r groups rule = rule.map (·.checkWith r groups) := by
  cases rule <;> rfl

variable {x : Expectation} {w : Vocabulary}

theorem meets_checksWith {rules : List Rule} (hin : rulesIn w rules)
    (h : ∀ rule ∈ rules, rule.In w → (rule.checkWith r groups).Meets x) :
    ∀ k ∈ checksWith r groups rules, k.Meets x := by
  rw [checksWith_eq_map]
  intro k hk
  obtain ⟨rule, hrule, rfl⟩ := List.mem_map.1 hk
  exact h rule hrule ((rulesIn_iff w rules).1 hin rule hrule)

/-- A descriptor is checked by its standard validator unless it is foreign. -/
theorem meets_dispatch (hx : x.Fits r w) {d : Descriptor} (hin : d.In w)
    (h : r.route d = .standard → (d.checkWith r groups).Meets x) :
    (d.checkWith r groups).Meets x := by
  cases hroute : r.route d with
  | standard => exact h hroute
  | host v =>
    unfold Descriptor.checkWith
    rw [hroute]
    exact hx.foreign d hin (v.check d) (by simp [Registry.foreign?, hroute])
  | refused e =>
    unfold Descriptor.checkWith
    rw [hroute]
    exact hx.foreign d hin (.failing e) (by simp [Registry.foreign?, hroute])

theorem meets_checkWith (hx : x.Fits r w)
    (hgroups : ∀ kind l, l.In w → ∀ c, x.Admits c (groups kind l c)) (rule : Rule)
    (hin : rule.In w) : (rule.checkWith r groups).Meets x := by
  induction rule using Rule.induct with
  | str => exact Check.meets_ofValidate (Check.meets_str hx.sound _ _ _)
  | num => exact Check.meets_ofValidate (Check.meets_num hx.sound _ _ _)
  | bool => exact Check.meets_ofValidate (Check.meets_bool hx.sound)
  | literal => exact Check.meets_ofValidate (Check.meets_literal hx.sound _)
  | pattern => exact Check.meets_ofValidate (Check.meets_pattern hx.sound _)
  | object required optional hr ho =>
    exact Check.meets_ofValidate
      (Check.meets_object hx.sound (meets_checksWith hin.1 hr) (meets_checksWith hin.2 ho))
  | oneOf options h =>
    exact Check.meets_ofValidate (Check.meets_oneOf hx.sound _ (meets_checksWith hin h))
  | listOf item min max h =>
    exact Check.meets_ofValidate (Check.meets_listOf hx.sound (h hin) min max)
  | not flavor inner h =>
    cases flavor with
    | is => exact Check.meets_ofValidate (Check.meets_negated hx.sound (by simp) _ (h hin))
    | doesNotContain =>
      exact Check.meets_ofValidate (Check.meets_negated hx.sound (by simp) _ (h hin))
  | host rule => exact hx.hosts rule hin
  | field key isOptional value h =>
    refine meets_dispatch hx hin fun hroute => ?_
    have hvalue : ∀ k ∈ checkWith? r groups value, k.Meets x := by
      rw [checkWith?_eq_map]
      intro k hk
      obtain ⟨rule, hrule, rfl⟩ := Option.map_eq_some_iff.1 hk
      exact h rule hrule ((ruleIn?_iff w value).1 hin rule hrule)
    simpa [Rule.checkWith, Descriptor.checkWith, hroute] using
      Check.meets_field hx.sound key isOptional hvalue
  | file path ext content h =>
    refine meets_dispatch hx hin fun hroute => ?_
    simpa [Descriptor.checkWith, hroute] using
      Check.meets_file hx.sound path ext (meets_checksWith hin h)
  | directory path required optional hr ho =>
    refine meets_dispatch hx hin fun hroute => ?_
    simpa [Descriptor.checkWith, hroute] using
      Check.meets_directory hx.sound path (meets_checksWith hin.1 hr) (meets_checksWith hin.2 ho)
  | jsonFile path required optional hr ho =>
    refine meets_dispatch hx hin fun hroute => ?_
    simpa [Descriptor.checkWith, hroute] using
      Check.meets_jsonFile hx.sound path (meets_checksWith hin.1 hr) (meets_checksWith hin.2 ho)
  | rules name rules h =>
    refine meets_dispatch hx hin fun hroute => ?_
    have hgroup := Check.meets_each (meets_checksWith hin h)
    simpa [Descriptor.checkWith, Group.walkWith, hroute] using
      Check.meets_ofValidate (Check.meets_package hx.sound name hgroup)
  | lazy name kind lambda =>
    refine meets_dispatch hx hin fun hroute => ?_
    have hgroup := hgroups kind lambda hin
    simpa [Descriptor.checkWith, Group.walkWith, hroute] using
      Check.meets_ofValidate (Check.meets_package hx.sound name hgroup)
  | custom kind params =>
    refine meets_dispatch hx hin fun hroute => ?_
    simpa [Descriptor.checkWith, hroute] using
      Check.meets_ofValidate (Check.meets_text hx.sound kind params)

theorem meets_groupWalk (hx : x.Fits r w) (left : Nat) (kind : String) {l : Lambda} (hl : l.In w)
    (c : Context) : x.Admits c (groupWalk r left kind l c) := by
  induction left generalizing kind l c with
  | zero => exact Walk.meets_fail (hx.sound.lambda ..)
  | succ left ih =>
    unfold groupWalk
    split
    · exact Walk.meets_fail (hx.sound.lambda ..)
    · have hbuilt := Lambda.rules_in hx.covers hl kind c.enterGroup
      split
      · exact Walk.meets_fail (hx.sound.lambda ..)
      · rename_i rules hrules
        have hrules := (rulesIn_iff w rules).2 (hbuilt rules hrules)
        have hgroups : ∀ kind l, l.In w → ∀ c, x.Admits c (groupWalk r left kind l c) :=
          fun kind l hl c => ih kind hl c
        have heach := Check.meets_each
          (meets_checksWith hrules fun rule _ => meets_checkWith hx hgroups rule) c.enterGroup
        exact heach.mono (hx.sound.descend c _ (.group c))

theorem meets_check (hx : x.Fits r w) {rule : Rule} (hin : rule.In w) : (rule.check r).Meets x :=
  meets_checkWith hx (fun kind _ hl => meets_groupWalk hx maxGroups kind hl) rule hin

end

/-! ## Hosts that keep to their context -/

/-- Issues are recorded at the place of a context or below, and only by the walk that reports. -/
structure Check.Tidy (k : Check) : Prop where
  validate : ∀ c, ∀ i ∈ (k.validate c).issues, c.path <+: i.path
  accepts : ∀ c, (k.accepts c).issues = []
  present : ∀ c, (k.present c).issues = []

/-- The host rules of a rule, in the scopes of its lambdas too, are tidy. -/
def Rule.Tidy (rule : Rule) : Prop := rule.In ⟨fun rule => rule.check.Tidy, fun _ => True⟩

/-- The validators of hosts are tidy on every descriptor. -/
def Registry.Tidy (r : Registry) : Prop :=
  ∀ kind v, r.validator? kind = some (.host v) → ∀ d, (v.check d).Tidy

/-- Tidy issues, with nothing said about errors. -/
def Expectation.tidy : Expectation where
  issue c i := c.path <+: i.path
  silent _ _ := False
  error _ := True

theorem Context.Descends.path_prefix {c d : Context} (h : c.Descends d) : c.path <+: d.path := by
  cases h with
  | item | member | entry => exact List.prefix_append c.path _
  | document | group => exact List.prefix_refl c.path

theorem sound_tidy : Expectation.tidy.Sound where
  here c _ _ _ := List.prefix_refl c.path
  silent _ _ h := h.elim
  descend _ _ hd _ h := hd.path_prefix.trans h
  lambda _ _ := trivial
  url _ := trivial
  semver _ := trivial

theorem meets_tidy_iff {k : Check} : k.Meets .tidy ↔ k.Tidy := by
  constructor
  · intro h
    refine ⟨fun c => (h.validate c).issues, fun c => ?_, fun c => ?_⟩
    · exact List.eq_nil_iff_forall_not_mem.2 (h.accepts c).issues
    · exact List.eq_nil_iff_forall_not_mem.2 (h.present c).issues
  · intro h
    refine ⟨fun c => ⟨h.validate c, fun _ _ => trivial, fun _ _ => trivial⟩, fun c => ?_, fun c => ?_⟩
    · exact ⟨by simp [h.accepts c], fun _ _ => trivial, fun _ _ => trivial⟩
    · exact ⟨by simp [h.present c], fun _ _ => trivial, fun _ _ => trivial⟩

section
variable {r : Registry} (hr : r.Tidy)
include hr

theorem fits_tidy :
    Expectation.tidy.Fits r ⟨fun rule => rule.check.Tidy, fun _ => True⟩ where
  sound := sound_tidy
  covers _ _ _ := trivial
  hosts _ h := meets_tidy_iff.2 h
  foreign d _ :=
    Registry.meets_foreign (fun _ => trivial) (fun kind v hv d => meets_tidy_iff.2 (hr kind v hv d)) d

theorem tidy_check {rule : Rule} (hrule : rule.Tidy) : (rule.check r).Tidy :=
  meets_tidy_iff.1 (meets_check (fits_tidy hr) hrule)

end

end Rulebook
