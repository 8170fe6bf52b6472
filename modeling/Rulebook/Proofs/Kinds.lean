import Rulebook.Engine.Basic
import Rulebook.Proofs.Rules

/-!
# Loaded rules have validators

A text can only name kinds that its registry knows, so every descriptor of a loaded rule has a validator
that reads it. The errors that are left are those of lambdas, of the parameters of the two kinds of text,
and of the host.
-/

namespace Rulebook

/-- An error that no checked value can cause: there is no code for the descriptor. -/
def EngineError.IsDispatch : EngineError → Prop
  | unregisteredKind _ | descriptorMismatch .. | notImplemented .. => True
  | specGroup .. | invalidArgument .. | validator .. => False

/-- One of the walks of a check ends in an error. -/
def Check.Fails (k : Check) (e : EngineError) : Prop :=
  ∃ c, (k.validate c).ending = .failed e ∨ (k.accepts c).ending = .failed e ∨
    (k.present c).ending = .failed e

/-- A validator ends in an error on a descriptor of its own kind. -/
def HostValidator.Fails (v : HostValidator) (kind : String) (e : EngineError) : Prop :=
  ∃ params, (v.check (.custom kind params)).Fails e

/-- The errors that a rule loaded from a text may end in. -/
inductive EngineError.OfLoaded (hosts : List (String × HostValidator)) : EngineError → Prop
  | lambda (kind message : String) : OfLoaded hosts (.specGroup kind message)
  | url (message : String) : OfLoaded hosts (.invalidArgument "Url" message)
  | semver (message : String) : OfLoaded hosts (.invalidArgument "Semver" message)
  | host (h : String × HostValidator) (e : EngineError) (hmem : h ∈ hosts)
      (hfails : h.2.Fails h.1 e) : OfLoaded hosts e

/-! ## Readers -/

namespace Descriptor

theorem kind_reader {d : Descriptor} {k : StandardKind} (h : d.reader? = some k) :
    d.kind = k.name := by
  unfold reader? at h
  split at h <;> cases h <;> rfl

theorem custom_of_reader_none {d : Descriptor} (h : d.reader? = none) :
    ∃ kind params, d = custom kind params ∧ kind ≠ "Url" ∧ kind ≠ "Semver" := by
  cases d with
  | custom kind params =>
    refine ⟨kind, params, rfl, ?_, ?_⟩
    · rintro rfl
      cases h
    · rintro rfl
      cases h
  | _ => cases h

end Descriptor

/-! ## Registries -/

namespace Registry

/-- Registers the validators of a host in order. -/
def registerHosts (r : Registry) (hosts : List (String × HostValidator)) : Registry :=
  hosts.foldl (fun r h => r.register h.1 (.host h.2)) r

def withHosts (hosts : List (String × HostValidator)) : Registry := standard.registerHosts hosts

theorem validator?_register (r : Registry) (kind other : String) (v : Validator) :
    (r.register kind v).validator? other = if other = kind then some v else r.validator? other :=
  lookup_putEntry ..

/-- A kind that hosts are registered under has one of their validators, any other what it had. -/
theorem validator?_registerHosts (r : Registry) (hosts : List (String × HostValidator))
    (kind : String) :
    (∃ h ∈ hosts, h.1 = kind ∧ (r.registerHosts hosts).validator? kind = some (.host h.2)) ∨
    (∀ h ∈ hosts, h.1 ≠ kind) ∧ (r.registerHosts hosts).validator? kind = r.validator? kind := by
  induction hosts generalizing r with
  | nil => exact .inr ⟨by simp, rfl⟩
  | cons h hosts ih =>
    have hcons : r.registerHosts (h :: hosts) = (r.register h.1 (.host h.2)).registerHosts hosts := rfl
    rw [hcons]
    rcases ih (r.register h.1 (.host h.2)) with ⟨g, hg, hkind, hv⟩ | ⟨hnone, hv⟩
    · exact .inl ⟨g, List.mem_cons_of_mem h hg, hkind, hv⟩
    · rw [validator?_register] at hv
      by_cases hk : kind = h.1
      · exact .inl ⟨h, List.mem_cons_self, hk.symm, by rw [hv, if_pos hk]⟩
      · refine .inr ⟨List.forall_mem_cons.2 ⟨fun he => hk he.symm, hnone⟩, ?_⟩
        rw [hv, if_neg hk]

theorem validator?_standard (k : StandardKind) :
    standard.validator? k.name = some (.standard k) := by
  cases k <;> simp [standard, StandardKind.all, StandardKind.name, validator?_register]

theorem validator?_standard_none {kind : String}
    (h : kind ∉ StandardKind.all.map StandardKind.name) : standard.validator? kind = none := by
  simp only [StandardKind.all, StandardKind.name, List.map_cons, List.map_nil, List.mem_cons,
    List.not_mem_nil, or_false, not_or] at h
  simp only [standard, StandardKind.all, StandardKind.name, List.foldl_cons, List.foldl_nil,
    validator?_register, h, if_false]
  rfl

theorem validator?_standard_ne_host (kind : String) (v : HostValidator) :
    standard.validator? kind ≠ some (.host v) := by
  by_cases h : kind ∈ StandardKind.all.map StandardKind.name
  · obtain ⟨k, -, rfl⟩ := List.mem_map.1 h
    simp [validator?_standard]
  · simp [validator?_standard_none h]

variable {hosts : List (String × HostValidator)}
  (hnames : ∀ h ∈ hosts, h.1 ∉ StandardKind.all.map StandardKind.name)

theorem mem_of_validator?_withHosts {kind : String} {v : HostValidator}
    (h : (withHosts hosts).validator? kind = some (.host v)) : (kind, v) ∈ hosts := by
  rcases validator?_registerHosts standard hosts kind with ⟨g, hg, rfl, hv⟩ | ⟨-, hv⟩
  · obtain rfl : g.2 = v := by
      simpa using hv.symm.trans h
    exact hg
  · exact absurd (hv.symm.trans h) (validator?_standard_ne_host kind v)

include hnames in
theorem validator?_withHosts (k : StandardKind) :
    (withHosts hosts).validator? k.name = some (.standard k) := by
  rcases validator?_registerHosts standard hosts k.name with ⟨h, hh, hkind, -⟩ | ⟨-, hv⟩
  · exact absurd (hkind ▸ List.mem_map_of_mem (by cases k <;> decide)) (hnames h hh)
  · exact hv.trans (validator?_standard k)

include hnames in
theorem route_reader {d : Descriptor} {k : StandardKind} (h : d.reader? = some k) :
    (withHosts hosts).route d = .standard := by
  simp [route, lookup, Descriptor.kind_reader h, validator?_withHosts hnames k, h]

theorem route_host {kind : String} (hkind : kind ∉ StandardKind.all.map StandardKind.name)
    (hregistered : (withHosts hosts).contains kind) (params : Json) :
    ∃ h ∈ hosts, h.1 = kind ∧ (withHosts hosts).route (.custom kind params) = .host h.2 := by
  rcases validator?_registerHosts standard hosts kind with ⟨h, hh, hk, hv⟩ | ⟨-, hv⟩
  · exact ⟨h, hh, hk, by simp [route, lookup, Descriptor.kind, withHosts, hv]⟩
  · rw [validator?_standard_none hkind] at hv
    simp [contains, withHosts, hv] at hregistered

end Registry

/-! ## Rules -/

/-- No rules of hosts, and the kinds that can be called by their names. -/
def Vocabulary.callable (r : Registry) : Vocabulary where
  hosts _ := False
  kinds kind := r.contains kind ∧ kind ∉ structuralKinds

/-- The errors of loaded rules, with nothing said about issues. -/
def Expectation.loaded (hosts : List (String × HostValidator)) : Expectation where
  issue _ _ := True
  silent _ _ := True
  error e := e.OfLoaded hosts ∧ ¬ e.IsDispatch

section
variable {hosts : List (String × HostValidator)}

theorem sound_loaded : (Expectation.loaded hosts).Sound where
  here _ _ _ _ := trivial
  silent _ _ _ := trivial
  descend _ _ _ _ _ := trivial
  lambda kind message := ⟨.lambda kind message, id⟩
  url message := ⟨.url message, id⟩
  semver message := ⟨.semver message, id⟩

theorem meets_loaded {k : Check} (h : ∀ e, k.Fails e → e.OfLoaded hosts ∧ ¬ e.IsDispatch) :
    k.Meets (.loaded hosts) where
  validate c := ⟨fun _ _ => trivial, fun e he => h e ⟨c, .inl he⟩, fun _ _ => trivial⟩
  accepts c := ⟨fun _ _ => trivial, fun e he => h e ⟨c, .inr (.inl he)⟩, fun _ _ => trivial⟩
  present c := ⟨fun _ _ => trivial, fun e he => h e ⟨c, .inr (.inr he)⟩, fun _ _ => trivial⟩

theorem Check.Meets.of_fails {x : Expectation} {k : Check} (hk : k.Meets x) {e : EngineError}
    (h : k.Fails e) : x.error e := by
  obtain ⟨c, h | h | h⟩ := h
  · exact (hk.validate c).errors e h
  · exact (hk.accepts c).errors e h
  · exact (hk.present c).errors e h

variable (hnames : ∀ h ∈ hosts, h.1 ∉ StandardKind.all.map StandardKind.name)
  (hown : ∀ h ∈ hosts, ∀ e, h.2.Fails h.1 e → ¬ e.IsDispatch)
include hnames hown

/-- Every descriptor of callable kinds is read by a standard validator or is of a host's own kind. -/
theorem fits_loaded :
    (Expectation.loaded hosts).Fits (.withHosts hosts) (.callable (.withHosts hosts)) where
  sound := sound_loaded
  covers _ hregistered hcalled := ⟨hregistered, hcalled⟩
  hosts _ h := h.elim
  foreign d hin k hk := by
    unfold Registry.foreign? at hk
    cases hreader : d.reader? with
    | some reader =>
      rw [Registry.route_reader hnames hreader] at hk
      cases hk
    | none =>
      obtain ⟨kind, params, rfl, hurl, hsemver⟩ := Descriptor.custom_of_reader_none hreader
      obtain ⟨hregistered, hcalled⟩ :
        (Registry.withHosts hosts).contains kind ∧ kind ∉ structuralKinds := hin
      have hkind : kind ∉ StandardKind.all.map StandardKind.name := by
        simpa [StandardKind.all, StandardKind.name, structuralKinds, hurl, hsemver] using hcalled
      obtain ⟨h, hh, rfl, hroute⟩ := Registry.route_host hkind hregistered params
      rw [hroute] at hk
      cases hk
      refine meets_loaded fun e he => ?_
      exact ⟨.host h e hh ⟨params, he⟩, hown h hh e ⟨params, he⟩⟩

/-- A walk of a rule loaded from a text never ends because a descriptor has no validator that reads it;
it only ends in an error of a lambda group, of parameters, or of a host's validator. -/
theorem load_fails_only {text : String} {rule : Rule}
    (hload : (Registry.withHosts hosts).load text = .ok rule) {e : EngineError}
    (hfails : (rule.check (.withHosts hosts)).Fails e) :
    ¬ e.IsDispatch ∧ e.OfLoaded hosts := by
  have hfits := fits_loaded hnames hown
  have hin := ofText_in hfits.covers text rule hload
  exact ((meets_check hfits hin).of_fails hfails).symm

end

/-- One validator, which never has an answer. -/
def brokenHosts : List (String × HostValidator) :=
  [("Broken", .ofValidate fun _ _ => .fail (.validator "Broken" "no answer"))]

theorem broken_fails {h : String × HostValidator} (hh : h ∈ brokenHosts) {e : EngineError}
    (he : h.2.Fails h.1 e) : ¬ e.IsDispatch := by
  rw [List.mem_singleton.1 hh] at he
  obtain ⟨params, c, he | he | he⟩ := he
  · cases he
    exact id
  · cases he
  · cases he

/-- The rule of a lambda group may fail as a host's validator does. -/
theorem load_fails_only_broken :
    ∃ rule, (Registry.withHosts brokenHosts).load "Package((p) => [Broken()])" = .ok rule ∧
      (rule.check (.withHosts brokenHosts)).Fails (.validator "Broken" "no answer") ∧
      ¬ (EngineError.validator "Broken" "no answer").IsDispatch ∧
      (EngineError.validator "Broken" "no answer").OfLoaded brokenHosts := by
  have hrun : ((Registry.withHosts brokenHosts).load "Package((p) => [Broken()])").toOption.any
      (fun rule => ((rule.check (.withHosts brokenHosts)).validate
        (.root default (.value .null))).ending = .failed (.validator "Broken" "no answer")) = true := by
    decide +kernel
  cases hload : (Registry.withHosts brokenHosts).load "Package((p) => [Broken()])" with
  | error e =>
    rw [hload] at hrun
    cases hrun
  | ok rule =>
    rw [hload] at hrun
    have hfails : (rule.check (.withHosts brokenHosts)).Fails (.validator "Broken" "no answer") :=
      ⟨_, .inl (of_decide_eq_true hrun)⟩
    have hnames : ∀ h ∈ brokenHosts, h.1 ∉ StandardKind.all.map StandardKind.name := by
      decide +kernel
    exact ⟨rule, rfl, hfails, load_fails_only hnames (fun _ hh _ he => broken_fails hh he) hload hfails⟩

end Rulebook
