import Rulebook.Proofs.Rules
import Rulebook.Proofs.Simulation

/-!
# Rules of one form

Two rules of the same form have the same check, each under its registry, if their lambdas build rules of the
same form too, and if descriptors that no standard validator reads are checked alike.
-/

namespace Rulebook

theorem Registry.foreign?_eq_none {r : Registry} {d : Descriptor} :
    r.foreign? d = none ↔ r.route d = .standard := by
  unfold foreign?
  cases r.route d <;> simp

theorem Descriptor.checkWith_of_foreign {r : Registry} {groups : GroupWalk} {d : Descriptor} {k : Check}
    (h : r.foreign? d = some k) : d.checkWith r groups = k := by
  unfold Registry.foreign? at h
  unfold Descriptor.checkWith
  cases hroute : r.route d <;> rw [hroute] at h <;> cases h <;> rfl

theorem checksWith_alike {r r' : Registry} {R : Rule → Rule → Prop} {groups groups' : GroupWalk}
    {rules rules' : List Rule} (h : List.Forall₂ R rules rules')
    (hcheck : ∀ rule ∈ rules, ∀ rule', R rule rule' →
      rule.checkWith r groups = rule'.checkWith r' groups') :
    checksWith r groups rules = checksWith r' groups' rules' := by
  induction h with
  | nil => rfl
  | cons hrule _ ih =>
    rw [List.forall_mem_cons] at hcheck
    unfold checksWith
    rw [hcheck.1 _ hrule, ih hcheck.2]

/-- Related rules are of one form, and related lambdas build related rules. -/
structure Bisimulation (registered registered' : String → Bool) (R : Rule → Rule → Prop)
    (L : Lambda → Lambda → Prop) : Prop where
  form : ∀ {rule rule'}, R rule rule' → rule.Alike R L rule'
  rules : ∀ {l l'}, L l l' → ∀ kind c,
    Match (List.Forall₂ R) (l.rules registered kind c) (l'.rules registered' kind c)

/-- Relations of rules and of lambdas that registries cannot tell apart. -/
structure Indistinct (r r' : Registry) (R : Rule → Rule → Prop) (L : Lambda → Lambda → Prop) : Prop
    extends Bisimulation r.contains r'.contains R L where
  foreign : ∀ {d d'}, R (.contains d) (.contains d') → r.foreign? d = r'.foreign? d'

namespace Indistinct

variable {r r' : Registry} {R : Rule → Rule → Prop} {L : Lambda → Lambda → Prop}
  (m : Indistinct r r' R L)

include m

theorem describe {rules rules' : List Rule} (h : List.Forall₂ R rules rules') :
    rules.map Rule.describe = rules'.map Rule.describe := by
  induction h with
  | nil => rfl
  | cons hrule _ ih => rw [List.map_cons, List.map_cons, (m.form hrule).describe_eq, ih]

theorem dispatch {groups groups' : GroupWalk} {d d' : Descriptor} (h : R (.contains d) (.contains d'))
    (hstandard : r.route d = .standard → r'.route d' = .standard →
      d.checkWith r groups = d'.checkWith r' groups') :
    (Rule.contains d).checkWith r groups = (Rule.contains d').checkWith r' groups' := by
  have hforeign := m.foreign h
  rw [Rule.checkWith, Rule.checkWith]
  cases hk : r.foreign? d with
  | some k =>
    rw [Descriptor.checkWith_of_foreign hk, Descriptor.checkWith_of_foreign (hforeign ▸ hk)]
  | none =>
    exact hstandard (Registry.foreign?_eq_none.1 hk) (Registry.foreign?_eq_none.1 (hforeign ▸ hk))

theorem contains {groups groups' : GroupWalk}
    (hgroups : ∀ kind l l', L l l' → groups kind l = groups' kind l') {d : Descriptor} {rule' : Rule}
    (hparts : ∀ rule ∈ (Rule.contains d).parts, ∀ rule', R rule rule' →
      rule.checkWith r groups = rule'.checkWith r' groups') (h : R (.contains d) rule') :
    (Rule.contains d).checkWith r groups = rule'.checkWith r' groups' := by
  have hform := m.form h
  cases hform with
  | contains hd =>
    refine m.dispatch h fun hs hs' => ?_
    unfold Descriptor.checkWith
    rw [hs, hs']
    cases hd with
    | @field key isOptional value value' hv =>
      have hchecks : checkWith? r groups value = checkWith? r' groups' value' := by
        cases hv with
        | none => rfl
        | some hv => exact congrArg some (hparts _ List.mem_cons_self _ hv)
      dsimp only
      rw [hchecks]
    | file _ _ hc =>
      dsimp only
      rw [checksWith_alike hc hparts]
    | directory _ hr ho | jsonFile _ hr ho =>
      obtain ⟨hrequired, hoptional⟩ := List.forall_mem_append.1 hparts
      dsimp only
      rw [checksWith_alike hr hrequired, checksWith_alike ho hoptional]
    | package _ hg =>
      cases hg with
      | rules hr =>
        dsimp only
        unfold Group.walkWith
        rw [checksWith_alike hr hparts]
      | «lazy» kind hl =>
        dsimp only
        unfold Group.walkWith
        rw [hgroups kind _ _ hl]
    | custom => rfl

theorem checkWith {groups groups' : GroupWalk}
    (hgroups : ∀ kind l l', L l l' → groups kind l = groups' kind l') (rule : Rule) :
    ∀ rule', R rule rule' → rule.checkWith r groups = rule'.checkWith r' groups' := by
  induction rule using Rule.induct with
  | str | num | bool | literal | pattern | host =>
    rintro rule' h
    have hform := m.form h
    cases hform
    rfl
  | object required optional hrequired hoptional =>
    rintro rule' h
    have hform := m.form h
    cases hform with
    | object hr ho =>
      rw [Rule.checkWith, Rule.checkWith, checksWith_alike hr hrequired, checksWith_alike ho hoptional]
  | oneOf options hoptions =>
    rintro rule' h
    have hform := m.form h
    cases hform with
    | oneOf ho => rw [Rule.checkWith, Rule.checkWith, checksWith_alike ho hoptions, m.describe ho]
  | listOf item min max hitem =>
    rintro rule' h
    have hform := m.form h
    cases hform with
    | listOf _ _ hi => rw [Rule.checkWith, Rule.checkWith, hitem _ hi]
  | not flavor inner hinner =>
    rintro rule' h
    have hform := m.form h
    cases hform with
    | not _ hi =>
      cases flavor <;> rw [Rule.checkWith, Rule.checkWith, hinner _ hi, (m.form hi).describe_eq]
  | field _ _ _ hvalue => exact fun rule' => m.contains hgroups (by simpa [Rule.parts] using hvalue)
  | file _ _ _ hcontent => exact fun rule' => m.contains hgroups hcontent
  | directory _ _ _ hrequired hoptional | jsonFile _ _ _ hrequired hoptional =>
    exact fun rule' => m.contains hgroups (List.forall_mem_append.2 ⟨hrequired, hoptional⟩)
  | rules _ _ hrules => exact fun rule' => m.contains hgroups hrules
  | «lazy» | custom => exact fun rule' => m.contains hgroups (List.forall_mem_nil _)

theorem groupWalk (left : Nat) (kind : String) {l l' : Lambda} (h : L l l') :
    Rulebook.groupWalk r left kind l = Rulebook.groupWalk r' left kind l' := by
  induction left generalizing kind l l' with
  | zero => rfl
  | succ left ih =>
    funext c
    have hrules := m.rules h kind c.enterGroup
    unfold Rulebook.groupWalk
    split
    · rfl
    generalize l.rules r.contains kind c.enterGroup = x at hrules ⊢
    generalize l'.rules r'.contains kind c.enterGroup = x' at hrules ⊢
    have hgroups : ∀ kind l l', L l l' →
        Rulebook.groupWalk r left kind l = Rulebook.groupWalk r' left kind l' :=
      fun kind _ _ hl => ih kind hl
    refine hrules.elim (fun _ => rfl) fun rules rules' hrs => ?_
    dsimp only
    rw [checksWith_alike hrs fun rule _ => m.checkWith hgroups rule]

theorem check {rule rule' : Rule} (h : R rule rule') : rule.check r = rule'.check r' :=
  m.checkWith (fun kind _ _ hl => m.groupWalk maxGroups kind hl) rule rule' h

end Indistinct

/-! ## Hosts -/

/-- A host reads the data of a descriptor. A lambda group is handed to it as a function, which it may call but
not look into; so it cannot tell apart descriptors of one form whose lambdas build rules of one form. -/
def HostValidator.Parametric (registered : String → Bool) (v : HostValidator) : Prop :=
  ∀ R L, Bisimulation registered registered R L → ∀ d d', Descriptor.Alike R L d d' → v.check d = v.check d'

theorem Descriptor.Alike.reader?_eq {R : Rule → Rule → Prop} {L : Lambda → Lambda → Prop}
    {d d' : Descriptor} (h : d.Alike R L d') : d.reader? = d'.reader? := by
  cases h <;> rfl

def Registry.Parametric (r : Registry) : Prop :=
  ∀ kind v, r.validator? kind = some (.host v) → v.Parametric r.contains

/-- A registry whose hosts do not see lambdas tells apart only what calls of lambdas do. -/
theorem Bisimulation.indistinct {r : Registry} {R : Rule → Rule → Prop} {L : Lambda → Lambda → Prop}
    (b : Bisimulation r.contains r.contains R L) (hhosts : r.Parametric) : Indistinct r r R L where
  toBisimulation := b
  foreign := by
    intro d d' h
    have hform := b.form h
    cases hform with
    | contains hd =>
      unfold Registry.foreign? Registry.route Registry.lookup
      rw [← hd.kind_eq, ← hd.reader?_eq]
      cases hv : r.validator? d.kind with
      | none => rfl
      | some v =>
        cases v with
        | host v => exact congrArg some (hhosts d.kind v hv R L b d d' hd)
        | standard k =>
          by_cases hk : d.reader? = some k <;> simp only [hk, if_true, if_false]

end Rulebook
