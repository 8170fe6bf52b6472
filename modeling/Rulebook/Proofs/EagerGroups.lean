import Rulebook.Proofs.Budget
import Rulebook.Proofs.RoundTrip
import Rulebook.Proofs.SideBySide

/-!
# Groups as arrays and as lambdas

The rules of a package may stand in an array, which is evaluated when the text is loaded, or in the body of a
lambda, which is evaluated anew in each walk, one group deeper and with other bounds on evaluation. An
expression has one value in a scope and the standard checks do not see how deep they are; so both find the
same, unless the second runs into a bound or a host tells them apart.
-/

namespace Rulebook

/-! ## Walks that may fail -/

/-- The first walk fails, or it is the second. -/
def Walk.FailsOrEq {α : Type} (w w' : Walk α) : Prop := (∃ e, w.ending = .failed e) ∨ w = w'

namespace Walk

theorem FailsOrEq.bind {α β : Type} {w w' : Walk α} {f f' : α → Walk β} (h : w.FailsOrEq w')
    (hf : ∀ a, (f a).FailsOrEq (f' a)) : (w.bind f).FailsOrEq (w'.bind f') := by
  obtain ⟨e, he⟩ | rfl := h
  · exact .inl ⟨e, by simp only [Walk.bind, he]⟩
  obtain ⟨issues, ending⟩ := w
  cases ending with
  | failed e => exact .inl ⟨e, rfl⟩
  | crashed crash => exact .inr rfl
  | done a =>
    obtain ⟨e, he⟩ | heq := hf a
    · exact .inl ⟨e, he⟩
    · exact .inr (by simp only [Walk.bind, heq])

theorem FailsOrEq.probe {w w' : Walk Unit} (h : w.FailsOrEq w') : w.probe.FailsOrEq w'.probe := by
  obtain ⟨e, he⟩ | rfl := h
  · exact .inl ⟨e, by simp only [Walk.probe, he]⟩
  · exact .inr rfl

theorem alignment_failsOrEq (n : Nat) : Alignment n @FailsOrEq where
  refl _ := .inr rfl
  bind := FailsOrEq.bind
  probe := FailsOrEq.probe
  tooDeep := .inr fun e _ => .inl ⟨e, rfl⟩

theorem FailsOrEq.report_eq {w w' : Walk Unit} (h : w.FailsOrEq w')
    (hok : Code.engineError ∉ w.report.codes) : w.report = w'.report := by
  obtain ⟨e, he⟩ | rfl := h
  · refine absurd ?_ hok
    simp [Walk.report, he, Report.failure, Report.ofIssues, Report.codes]
  · rfl

end Walk

/-! ## Packages -/

/-- Wherever a lambda is called for its rules, it gives these or fails. -/
def Lambda.Builds (registered : String → Bool) (l : Lambda) (kind : String) (rules : List Rule) : Prop :=
  ∀ c, l.rules registered kind c = .ok rules ∨ ∃ e, l.rules registered kind c = .error e

/-- Code of a host that does with a lambda group what it does with the rules that the lambda builds, unless it
fails. -/
def HostValidator.IgnoresLambdas (registered : String → Bool) (v : HostValidator) : Prop :=
  ∀ name kind l rules, l.Builds registered kind rules → ∀ c,
    (v.validate (.package name (.lazy kind l)) c).FailsOrEq (v.validate (.package name (.rules rules)) c)

/-- The rules of hosts that do the same one group deeper, unless they fail. -/
abbrev Vocabulary.ignoringGroups : Vocabulary := .tracked 1 @Walk.FailsOrEq

namespace Registry

/-- The number of groups around a place is for packages to count: code of a host does the same one group
deeper, unless it fails. Where it takes packages over, it does with both forms of a group the same. -/
structure IgnoresGroups (r : Registry) : Prop where
  depth : ∀ kind v, r.validator? kind = some (.host v) → ∀ d,
    (v.check d).Tracks 1 @Walk.FailsOrEq (v.check d)
  package : ∀ v, r.validator? StandardKind.package.name = some (.host v) → v.IgnoresLambdas r.contains

variable {r : Registry} (hr : r.IgnoresGroups)
include hr

theorem IgnoresGroups.tracks : r.Tracks 1 @Walk.FailsOrEq r := by
  intro kind
  cases hv : r.validator? kind with
  | none => exact .none
  | some v =>
    cases v with
    | standard k => exact .some (.standard k)
    | host v => exact .some (.host (hr.depth kind v hv))

variable {kind : String} {l : Lambda} (hl : l.In .ignoringGroups) {rules : List Rule}
  (hbuilds : l.Builds r.contains kind rules)
include hl hbuilds

/-- A lambda group is walked as the rules that its lambda builds, or fails. -/
theorem IgnoresGroups.group (c : Context) :
    (groupWalk r maxGroups kind l c).FailsOrEq
      (Check.each (checksWith r (groupWalk r maxGroups) rules) c) := by
  have a := Walk.alignment_failsOrEq 1
  obtain ⟨left, hleft⟩ : ∃ left, maxGroups = left + 1 := ⟨31, rfl⟩
  rw [hleft, groupWalk_succ]
  split
  · exact .inl ⟨_, rfl⟩
  unfold builtWalk
  obtain hrules | ⟨e, herror⟩ := hbuilds c.enterGroup
  · rw [hrules]
    have hin : ∀ rule ∈ rules, rule.In .ignoringGroups :=
      Lambda.rules_in (fun _ _ _ => trivial) hl kind c.enterGroup rules hrules
    have hchecks : List.Forall₂ (Check.Tracks 1 @Walk.FailsOrEq) (checksWith r (groupWalk r left) rules)
        (checksWith r (groupWalk r (left + 1)) rules) :=
      Alignment.checksWith ((rulesIn_iff _ _).2 hin) fun rule _ => a.check hr.tracks left
    exact a.each hchecks c
  · rw [herror]
    exact .inl ⟨_, rfl⟩

theorem IgnoresGroups.validate_package (name : Option Regex) (c : Context) :
    (((Rule.contains (.package name (.lazy kind l))).check r).validate c).FailsOrEq
      (((Rule.contains (.package name (.rules rules))).check r).validate c) := by
  have a := Walk.alignment_failsOrEq 1
  have hgroup := hr.group hl hbuilds c
  have hroute : r.route (.package name (.lazy kind l)) = r.route (.package name (.rules rules)) := rfl
  simp only [Rule.check, Rule.checkWith, Descriptor.checkWith, Group.walkWith, hroute]
  cases hd : r.route (.package name (.rules rules)) with
  | refused e => exact a.refl _
  | standard => exact a.into (a.refl _) fun _ => hgroup
  | host v => exact hr.package v (validator?_of_route hd) name kind l rules hbuilds c

end Registry

/-! ## Options of a call -/

namespace Eval

/-- Where no root may be made, a list is evaluated item by item. -/
theorem run_mapM_ok {α β : Type} {f : α → Eval β} (hf : ∀ a, (f a).Quiet) {as : List α} {bs : List β}
    {root after : Option Rule} :
    (as.mapM f).run root = (.ok bs, after) ↔
      after = root ∧ List.Forall₂ (fun a b => (f a).run root = (.ok b, root)) as bs := by
  induction as generalizing bs after with
  | nil =>
    rw [List.mapM_nil, Eval.run_pure, List.forall₂_nil_left_iff]
    grind
  | cons a as ih =>
    rw [List.mapM_cons, run_bind_ok, List.forall₂_cons_left_iff]
    constructor
    · rintro ⟨b, mid, hb, hrest⟩
      obtain rfl := (hf a).run hb
      obtain ⟨bs, _, hbs, hreturn⟩ := run_bind_ok.1 hrest
      obtain ⟨rfl, hall⟩ := ih.1 hbs
      cases hreturn
      exact ⟨rfl, b, bs, hb, hall, rfl⟩
    · rintro ⟨rfl, b, bs, hb, hall, rfl⟩
      exact ⟨b, after, hb, run_bind_ok.2 ⟨bs, after, ih.2 ⟨rfl, hall⟩, rfl⟩⟩

end Eval

section
variable {registered : String → Bool} {left : Nat} {f : Frame} {scope : Scope} {root : Option Rule}

theorem run_object_ok {pos : Position} {entries : List (String × Expr)} {v : Value} {after : Option Rule}
    (hf : f.capturing = false) :
    (evalAt registered (left + 1) f scope (.object pos entries)).run root = (.ok v, after) ↔
      after = root ∧ ∃ vs, v = .object vs ∧ List.Forall₂ (fun e v => v.1 = e.1 ∧
        (evalAt registered left f scope e.2).run root = (.ok v.2, root)) entries vs := by
  have hquiet : ∀ e : String × Expr, (do return (e.1, ← evalAt registered left f scope e.2) :
      Eval (String × Value)).Quiet := fun e =>
    Eval.quiet_bind (evalAt_quiet left hf scope e.2) fun _ => Eval.quiet_pure _
  have hentry : ∀ (e : String × Expr) (v : String × Value),
      (do return (e.1, ← evalAt registered left f scope e.2) : Eval (String × Value)).run root =
        (.ok v, root) ↔
      v.1 = e.1 ∧ (evalAt registered left f scope e.2).run root = (.ok v.2, root) := by
    rintro ⟨k, e⟩ ⟨k', v⟩
    rw [Eval.run_bind_ok]
    constructor
    · rintro ⟨_, mid, hv, hreturn⟩
      cases hreturn
      exact ⟨rfl, hv⟩
    · rintro ⟨rfl, hv⟩
      exact ⟨v, root, hv, rfl⟩
  rw [evalAt, evalStep, Eval.run_bind_ok]
  simp only [Eval.run_mapM_ok hquiet, hentry]
  constructor
  · rintro ⟨vs, mid, ⟨rfl, hvs⟩, hreturn⟩
    cases hreturn
    exact ⟨rfl, vs, rfl, hvs⟩
  · rintro ⟨rfl, vs, rfl, hvs⟩
    exact ⟨vs, after, ⟨rfl, hvs⟩, rfl⟩

theorem run_factory_ok {eval : Frame → Scope → Expr → Eval Value} {pos : Position} {g : Factory}
    {args : List Value} {v : Value} {after : Option Rule} :
    (callValue eval f pos (.factory g) args).run root = (.ok v, after) ↔
      ∃ rule, g.build args = .ok rule ∧ v = .rule rule ∧ (f.offer rule).run root = (.ok (), after) := by
  unfold callValue
  rw [Eval.run_bind_ok]
  constructor
  · rintro ⟨rule, mid, hbuild, hrest⟩
    obtain rfl := (Eval.quiet_ofExcept _).run hbuild
    obtain ⟨_, offered, hoffer, hreturn⟩ := Eval.run_bind_ok.1 hrest
    cases hreturn
    cases hmade : g.build args with
    | error fault =>
      rw [hmade] at hbuild
      cases hbuild
    | ok made =>
      rw [hmade] at hbuild
      cases hbuild
      exact ⟨_, rfl, rfl, hoffer⟩
  · rintro ⟨rule, hbuild, rfl, hoffer⟩
    refine ⟨rule, root, by rw [hbuild]; rfl, ?_⟩
    exact Eval.run_bind_ok.2 ⟨(), after, hoffer, rfl⟩

/-- A word for a factory is called with the value of its argument, in which no root may be made. -/
theorem run_call_ok {pos pos' : Position} {word : String} {g : Factory} {arg : Expr} {v : Value}
    {after : Option Rule} (hword : lookup registered scope word = some (.factory g)) :
    (evalAt registered (left + 1) f scope (.call pos (.ident pos' word) [arg])).run root = (.ok v, after) ↔
      ∃ a rule, (evalAt registered left f.inArguments scope arg).run root = (.ok a, root) ∧
        g.build [a] = .ok rule ∧ v = .rule rule ∧ (f.offer rule).run root = (.ok (), after) := by
  have hquiet : ∀ e, (evalAt registered left f.inArguments scope e).Quiet :=
    fun e => evalAt_quiet left rfl scope e
  have hident : ∀ k, (evalAt registered (k + 1) f scope (.ident pos' word)).run root =
      (.ok (.factory g), root) := fun k => by simp [evalAt, evalStep, hword]
  rw [evalAt, evalStep]
  constructor
  · intro h
    obtain ⟨c, mid, hc, hrest⟩ := Eval.run_bind_ok.1 h
    -- The word takes an evaluation of its own, so one more is left at least.
    obtain _ | k := left
    · cases hc
    cases (hident k).symm.trans hc
    obtain ⟨args, mid, hargs, hcall⟩ := Eval.run_bind_ok.1 hrest
    obtain ⟨rfl, hall⟩ := (Eval.run_mapM_ok hquiet).1 hargs
    obtain ⟨a, _, ha, hnil, rfl⟩ := List.forall₂_cons_left_iff.1 hall
    obtain rfl := List.forall₂_nil_left_iff.1 hnil
    obtain ⟨rule, hbuild, rfl, hoffer⟩ := run_factory_ok.1 hcall
    exact ⟨a, rule, ha, hbuild, rfl, hoffer⟩
  · rintro ⟨a, rule, ha, hbuild, rfl, hoffer⟩
    obtain _ | k := left
    · cases ha
    refine Eval.run_bind_ok.2 ⟨.factory g, root, hident k, ?_⟩
    refine Eval.run_bind_ok.2 ⟨[a], root, (Eval.run_mapM_ok hquiet).2 ⟨rfl, .cons ha .nil⟩, ?_⟩
    exact run_factory_ok.2 ⟨rule, hbuild, rfl, hoffer⟩

end

/-! ## The spec of a package -/

section
variable {before after : List (String × Value)}

theorem entry?_append (key : String) (before after : List (String × Value)) :
    Value.entry? key (before ++ after) = (Value.entry? key after).or (Value.entry? key before) := by
  simp [Value.entry?, List.lookup_append]

theorem entry?_cons (key k : String) (v : Value) (after : List (String × Value)) :
    Value.entry? key ((k, v) :: after) =
      (Value.entry? key after).or (if key = k then some v else none) := by
  rw [← List.singleton_append, entry?_append]
  by_cases h : key = k
  · simp [Value.entry?, h]
  · simp [Value.entry?, List.lookup_cons, beq_eq_false_iff_ne.2 h, h]

theorem entry?_eq_none {key : String} {entries : List (String × Value)} (h : ∀ e ∈ entries, e.1 ≠ key) :
    Value.entry? key entries = none := by
  refine List.lookup_eq_none_iff.2 fun e he => ?_
  exact bne_iff_ne.2 fun hkey => h e (List.mem_reverse.1 he) hkey.symm

theorem optionsOf_object_ok {allowed : List String} {entries : List (String × Value)} {o : Options} :
    optionsOf allowed (some (.object entries)) = .ok o ↔ o = entries ∧ ∀ e ∈ entries, e.1 ∈ allowed := by
  simp only [optionsOf]
  split
  · rename_i key v hfound
    have hkey := List.find?_some hfound
    have hmem := List.mem_of_find?_eq_some hfound
    simp only [List.contains_eq_mem, Bool.not_eq_true', decide_eq_false_iff_not] at hkey
    exact ⟨fun h => (by cases h), fun h => absurd (h.2 _ hmem) hkey⟩
  · rename_i hnone
    have hall : ∀ e ∈ entries, e.1 ∈ allowed := by
      simpa [List.find?_eq_none] using hnone
    grind

theorem bind_eq_ok {ε α β : Type} {x : Except ε α} {g : α → Except ε β} {b : β} :
    (x >>= g) = .ok b ↔ ∃ a, x = .ok a ∧ g a = .ok b := by
  cases x with
  | ok a => simp [bind, Except.bind]
  | error e => simp [bind, Except.bind]

theorem buildPackage_object_ok {entries : List (String × Value)} {rule : Rule} :
    Builtin.buildPackage (.object entries) = .ok rule ↔
      (∀ e ∈ entries, e.1 ∈ ["name", "spec"]) ∧ ∃ group name, Builtin.groupOption entries = .ok group ∧
        Options.regex entries "name" = .ok name ∧ rule = .contains (.package name group) := by
  simp only [Builtin.buildPackage]
  constructor
  · intro h
    obtain ⟨o, ho, hrest⟩ := bind_eq_ok.1 h
    obtain ⟨rfl, hkeys⟩ := optionsOf_object_ok.1 ho
    obtain ⟨group, hgroup, hlast⟩ := bind_eq_ok.1 hrest
    obtain ⟨name, hname, hreturn⟩ := bind_eq_ok.1 hlast
    cases hreturn
    exact ⟨hkeys, group, name, hgroup, hname, rfl⟩
  · rintro ⟨hkeys, group, name, hgroup, hname, rfl⟩
    refine bind_eq_ok.2 ⟨entries, optionsOf_object_ok.2 ⟨rfl, hkeys⟩, ?_⟩
    exact bind_eq_ok.2 ⟨group, hgroup, bind_eq_ok.2 ⟨name, hname, rfl⟩⟩

/-- Where a package is made with an array for its rules, one is made with a lambda in its place. -/
theorem buildPackage_lambda {items : List Value} (hafter : ∀ e ∈ after, e.1 ≠ "spec") {rule : Rule}
    (h : Builtin.buildPackage (.object (before ++ ("spec", .array items) :: after)) = .ok rule) (l : Lambda) :
    ∃ name rules, Value.toRules items = .ok rules ∧ rule = .contains (.package name (.rules rules)) ∧
      Builtin.buildPackage (.object (before ++ ("spec", .lambda l) :: after)) =
        .ok (.contains (.package name (.lazy Builtin.package.name l))) := by
  -- No later entry has the key, so the rules are those of this one; the name does not depend on it.
  have hspec : ∀ v, Value.entry? "spec" (before ++ ("spec", v) :: after) = some v := by
    intro v
    simp [entry?_append, entry?_cons, entry?_eq_none hafter]
  have hname : ∀ v w, Value.entry? "name" (before ++ ("spec", v) :: after) =
      Value.entry? "name" (before ++ ("spec", w) :: after) := by
    intro v w
    simp [entry?_append, entry?_cons]
  obtain ⟨hkeys, group, name, hgroup, hregex, rfl⟩ := buildPackage_object_ok.1 h
  obtain ⟨rules, hrules, rfl⟩ : ∃ rules, Value.toRules items = .ok rules ∧ .rules rules = group := by
    simp only [Builtin.groupOption, Options.get?, hspec, Value.toGroup] at hgroup
    cases hitems : Value.toRules items with
    | error fault =>
      rw [hitems] at hgroup
      cases hgroup
    | ok rules =>
      rw [hitems] at hgroup
      cases hgroup
      exact ⟨rules, rfl, rfl⟩
  refine ⟨name, rules, hrules, rfl, buildPackage_object_ok.2 ⟨?_, _, name, ?_, ?_, rfl⟩⟩
  · simpa [or_imp, forall_and] using hkeys
  · simp only [Builtin.groupOption, Options.get?, hspec, Value.toGroup]
  · rw [← hregex]
    simp only [Options.regex, Options.get?, hname (.lambda l) (.array items)]

end

theorem Lambda.builds_of_evalAt {registered : String → Bool} {left : Nat} {f : Frame} {scope : Scope}
    {e : Expr} {root after : Option Rule} {items : List Value} {rules : List Rule}
    (h : (evalAt registered left f scope e).run root = (.ok (.array items), after))
    (hrules : Value.toRules items = .ok rules) (kind : String) :
    (Lambda.mk none e scope).Builds registered kind rules := by
  intro c
  have hcall : callLambda (evalAt registered maxEvals) (.start false) (.mk none e scope) (some c.snapshot) =
      evalAt registered maxEvals ⟨maxLambdas - 1, false⟩ scope e := rfl
  simp only [Lambda.rules, hcall]
  cases hrun : (evalAt registered maxEvals ⟨maxLambdas - 1, false⟩ scope e).run none with
  | mk x after' =>
    cases x with
    | error fault => exact .inr ⟨fault, rfl⟩
    | ok produced =>
      obtain rfl := evalAt_unique h hrun
      left
      simp only [hrules]
      rfl

/-- A call of a package's word with options, among them one for its rules. -/
def packageCall (callPos wordPos optionsPos : Position) (word : String) (before : List (String × Expr))
    (spec : Expr) (after : List (String × Expr)) : Expr :=
  .call callPos (.ident wordPos word) [.object optionsPos (before ++ ("spec", spec) :: after)]

section
variable {registered : String → Bool} {left : Nat} {f : Frame} {scope : Scope} {root : Option Rule}

theorem run_offer (f : Frame) (rule : Rule) (root : Option Rule) :
    ∃ out, (f.offer rule).run root = (.ok (), out) := by
  unfold Frame.offer
  split
  · exact ⟨_, rfl⟩
  · exact ⟨_, rfl⟩

/-- Options that are evaluated with any expression under a key are evaluated with any other that has a value. -/
theorem run_options_ok {pos : Position} {before after : List (String × Expr)} {key : String} {e : Expr}
    {a : Value} {out : Option Rule} (hf : f.capturing = false)
    (h : (evalAt registered (left + 1) f scope (.object pos (before ++ (key, e) :: after))).run root =
      (.ok a, out)) :
    ∃ befores v afters, a = .object (befores ++ (key, v) :: afters) ∧
      afters.map Prod.fst = after.map Prod.fst ∧
      (evalAt registered left f scope e).run root = (.ok v, root) ∧
      ∀ e' v', (evalAt registered left f scope e').run root = (.ok v', root) →
        (evalAt registered (left + 1) f scope (.object pos (before ++ (key, e') :: after))).run root =
          (.ok (.object (befores ++ (key, v') :: afters)), root) := by
  obtain ⟨-, vs, rfl, hvs⟩ := (run_object_ok hf).1 h
  have hbefore := (List.forall₂_take_append _ _ _ hvs.flip).flip
  have hrest := (List.forall₂_drop_append _ _ _ hvs.flip).flip
  obtain ⟨⟨k, v⟩, afters, ⟨rfl, hv⟩, hafter, hdrop⟩ := List.forall₂_cons_left_iff.1 hrest
  refine ⟨vs.take before.length, v, afters, ?_, ?_, hv, fun e' v' hv' => ?_⟩
  · rw [← hdrop, List.take_append_drop]
  · rw [← List.forall₂_eq_eq_eq, List.forall₂_map_left_iff, List.forall₂_map_right_iff]
    exact (hafter.imp fun _ _ h => h.1).flip
  · refine (run_object_ok hf).2 ⟨rfl, _, rfl, ?_⟩
    exact List.rel_append hbefore (.cons ⟨rfl, hv'⟩ hafter)

end

/-- Where a package loads with an array for its rules, it loads with a lambda of that array. And if the walk of
the second does not fail, both reports are the same. -/
theorem eager_eq_lazy {r : Registry} (hr : r.IgnoresGroups) {scope : Scope}
    (hscope : entriesIn .ignoringGroups scope) {word : String}
    (hword : lookup r.contains scope word = some (.factory (.builtin .package)))
    {before after : List (String × Expr)} (hafter : ∀ e ∈ after, e.1 ≠ "spec") {spec : Expr}
    (harray : ∃ left f root items out,
      (evalAt r.contains left f scope spec).run root = (.ok (.array items), out))
    {callPos wordPos optionsPos lambdaPos : Position} {left : Nat} {f : Frame} {root out : Option Rule}
    {eager : Rule}
    (hload : (evalAt r.contains left f scope
      (packageCall callPos wordPos optionsPos word before spec after)).run root = (.ok (.rule eager), out)) :
    ∃ lambda out', (evalAt r.contains left f scope (packageCall callPos wordPos optionsPos word before
        (.lambda lambdaPos none spec) after)).run root = (.ok (.rule lambda), out') ∧
      ∀ disk subject, Code.engineError ∉ (r.validate lambda disk subject).codes →
        r.validate lambda disk subject = r.validate eager disk subject := by
  obtain ⟨_, _, _, items, _, harray⟩ := harray
  obtain _ | left := left
  · cases hload
  obtain ⟨a, made, hargument, hbuild, hmade, -⟩ := (run_call_ok hword).1 hload
  cases hmade
  obtain _ | left := left
  · cases hargument
  obtain ⟨befores, v, afters, rfl, hkeys, hv, hoptions⟩ := run_options_ok rfl hargument
  obtain _ | left := left
  · cases hv
  obtain rfl := evalAt_unique harray hv
  have hafters : ∀ e ∈ afters, e.1 ≠ "spec" := by
    intro e he
    have hkey : e.1 ∈ after.map Prod.fst := hkeys ▸ List.mem_map_of_mem he
    obtain ⟨e', he', hkey'⟩ := List.mem_map.1 hkey
    exact hkey' ▸ hafter e' he'
  -- The same options with the lambda in place of the array
  have hlambda := hoptions (.lambda lambdaPos none spec) (.lambda (.mk none spec scope)) rfl
  obtain ⟨name, rules, hrules, rfl, hbuild'⟩ := buildPackage_lambda hafters hbuild (.mk none spec scope)
  obtain ⟨out', hoffer⟩ := run_offer f
    (.contains (.package name (.lazy Builtin.package.name (.mk none spec scope)))) root
  refine ⟨_, out', (run_call_ok hword).2 ⟨_, _, hlambda, hbuild', rfl, hoffer⟩, fun disk subject hok => ?_⟩
  have hbuilds := Lambda.builds_of_evalAt harray hrules Builtin.package.name
  have hin : (Lambda.mk none spec scope).In .ignoringGroups := by
    simpa only [Lambda.In] using hscope
  exact (hr.validate_package hin hbuilds name (.root disk subject)).report_eq hok

/-! ## Texts of both forms -/

section
variable {callPos wordPos optionsPos lambdaPos : Position} {word : String}
  {before after : List (String × Expr)} {spec : Expr}

theorem levels_packageCall_le {n : Nat} :
    (packageCall callPos wordPos optionsPos word before spec after).levels ≤ n + 3 ↔
      (∀ e ∈ before, e.2.levels ≤ n) ∧ spec.levels ≤ n ∧ ∀ e ∈ after, e.2.levels ≤ n := by
  have hlevels : (packageCall callPos wordPos optionsPos word before spec after).levels =
      levelsIn (before ++ ("spec", spec) :: after) + 3 := by
    simp [packageCall, Expr.levels, Expr.rise, levelsOf, Expr.isOpen, Expr.links]
    omega
  rw [hlevels, Nat.add_le_add_iff_right, levelsIn_le_iff]
  simp only [List.forall_mem_append, List.forall_mem_cons]

/-- A lambda takes one level more than its body, so a text that makes full use of the levels with an array for
the rules is none with the lambda of that array. -/
theorem lambda_tooDeep (hspec : spec.levels + 3 = maxDepth) {ts : Tokens}
    (hts : ts.list.map Token.kind = Program.render
      [.expr (packageCall callPos wordPos optionsPos word before (.lambda lambdaPos none spec) after)]) :
    ∃ pos, Program.ofTokens ts = .error ⟨.tooDeep, pos⟩ := by
  refine (Program.ofTokens_decides hts).2 fun hlevels => ?_
  have hcall := List.forall_mem_singleton.1 hlevels
  rw [← hspec, Stmt.body] at hcall
  have hlambda : (Expr.lambda lambdaPos none spec).levels ≤ spec.levels :=
    (levels_packageCall_le.1 hcall).2.1
  rw [Expr.levels, Expr.rise] at hlambda
  exact absurd hlambda (Nat.not_succ_le_self _)

end

/-! ## Hosts in a group -/

/-- The package with its rules in `spec`, evaluated where it may become the root. -/
def packageRun (r : Registry) (scope : Scope) (spec : Expr) : Except EvalError Value × Option Rule :=
  (evalAt r.contains 8 (.start true) scope
    (packageCall ⟨7, 1, 8⟩ ⟨0, 1, 1⟩ ⟨8, 1, 9⟩ "Package" [] spec [])).run none

def eagerPackage (rules : List Rule) : Rule := .contains (.package none (.rules rules))

def lambdaPackage (scope : Scope) (spec : Expr) : Rule :=
  .contains (.package none (.lazy "Package" (.mk none spec scope)))

/-- What both forms of a package are evaluated to. -/
structure BothForms (r : Registry) (scope : Scope) (spec : Expr) (rules : List Rule) : Prop where
  array : (evalAt r.contains 8 (.start false) scope spec).run none = (.ok (.array (rules.map .rule)), none)
  eager : packageRun r scope spec = (.ok (.rule (eagerPackage rules)), some (eagerPackage rules))
  lambda : packageRun r scope (.lambda ⟨0, 1, 1⟩ none spec) =
    (.ok (.rule (lambdaPackage scope spec)), some (lambdaPackage scope spec))

/-- One validator, which finds fault with everything. -/
def markingHosts : List (String × HostValidator) :=
  [("Marked", .probing fun _ c => .issue c "host.mark" "marked")]

theorem ignoresGroups_marking : (Registry.withHosts markingHosts).IgnoresGroups where
  depth kind v hv d := by
    obtain ⟨-, rfl⟩ := Prod.mk.inj (List.mem_singleton.1 (Registry.mem_of_validator?_withHosts hv))
    exact (Walk.alignment_failsOrEq 1).ofValidate fun c => .inr rfl
  package v hv := by
    obtain ⟨hkind, -⟩ := Prod.mk.inj (List.mem_singleton.1 (Registry.mem_of_validator?_withHosts hv))
    exact absurd hkind (by decide)

/-- What `() => Marked()` is. -/
def markingLambda : Lambda := .mk none (.call ⟨15, 1, 16⟩ (.ident ⟨9, 1, 10⟩ "Marked") []) []

/-- The rules of a package: `[mark()]`. -/
def markingSpec : Expr := .array ⟨0, 1, 1⟩ [.call ⟨5, 1, 6⟩ (.ident ⟨1, 1, 2⟩ "mark") []]

def markingScope : Scope := [("mark", .lambda markingLambda)]

theorem bothForms_marking : BothForms (.withHosts markingHosts) markingScope markingSpec
    [.contains (.custom "Marked" .null)] where
  array := by with_unfolding_all rfl
  eager := by with_unfolding_all rfl
  lambda := by with_unfolding_all rfl

/-- A call in the array, which is made once or in each walk. -/
theorem eager_eq_lazy_marking :
    (Registry.withHosts markingHosts).IgnoresGroups ∧
      BothForms (.withHosts markingHosts) markingScope markingSpec [.contains (.custom "Marked" .null)] ∧
      ((Registry.withHosts markingHosts).validate (lambdaPackage markingScope markingSpec) default
        (.value .null)).codes = ["host.mark"] ∧
      (Registry.withHosts markingHosts).validate (lambdaPackage markingScope markingSpec) default
          (.value .null) =
        (Registry.withHosts markingHosts).validate (eagerPackage [.contains (.custom "Marked" .null)])
          default (.value .null) := by
  have hscope : entriesIn .ignoringGroups markingScope := ⟨trivial, trivial⟩
  have hcodes : ((Registry.withHosts markingHosts).validate (lambdaPackage markingScope markingSpec)
      default (.value .null)).codes = ["host.mark"] := by
    decide +kernel
  obtain ⟨lambda, out, hrun, hsame⟩ := eager_eq_lazy ignoresGroups_marking hscope rfl (by simp)
    ⟨_, _, _, _, _, bothForms_marking.array⟩ bothForms_marking.eager
  cases hrun.symm.trans bothForms_marking.lambda
  refine ⟨ignoresGroups_marking, bothForms_marking, hcodes, hsame default (.value .null) ?_⟩
  rw [hcodes]
  decide

/-! ## Hosts that tell groups apart -/

/-- Both forms of a package load, and the report of the second on null is no failure, but another one than that
of the first. -/
structure TellsApart (r : Registry) (scope : Scope) (spec : Expr) (rules : List Rule) : Prop where
  forms : BothForms r scope spec rules
  works : Code.engineError ∉ (r.validate (lambdaPackage scope spec) default (.value .null)).codes
  differs : r.validate (lambdaPackage scope spec) default (.value .null) ≠
    r.validate (eagerPackage rules) default (.value .null)

/-- Says how many groups there are around a place. -/
def countGroups (c : Context) : Walk Unit := .issue c "host.depth" (toString c.groupDepth)

/-- Has something against groups that are lambdas. -/
def refuseLambdas (d : Descriptor) (c : Context) : Walk Unit :=
  match d with
  | .package _ (.lazy ..) => .issue c "host.lambda" "no lambdas"
  | _ => .done ()

theorem tellsApart_validator : TellsApart (.withHosts [("Counted", .ofValidate fun _ => countGroups)]) []
    (.array ⟨0, 1, 1⟩ [.call ⟨8, 1, 9⟩ (.ident ⟨1, 1, 2⟩ "Counted") []])
    [.contains (.custom "Counted" .null)] where
  forms := ⟨by with_unfolding_all rfl, by with_unfolding_all rfl, by with_unfolding_all rfl⟩
  works := by decide +kernel
  differs := by decide +kernel

theorem tellsApart_rule : TellsApart .standard [("counted", .rule (.host (.ofValidate "counted" countGroups)))]
    (.array ⟨0, 1, 1⟩ [.ident ⟨1, 1, 2⟩ "counted"]) [.host (.ofValidate "counted" countGroups)] where
  forms := ⟨by with_unfolding_all rfl, by with_unfolding_all rfl, by with_unfolding_all rfl⟩
  works := by decide +kernel
  differs := by decide +kernel

theorem tellsApart_package : TellsApart (.withHosts [("Package", .ofValidate refuseLambdas)]) []
    (.array ⟨0, 1, 1⟩ []) [] where
  forms := ⟨by with_unfolding_all rfl, by with_unfolding_all rfl, by with_unfolding_all rfl⟩
  works := by decide +kernel
  differs := by decide +kernel

/-- What is asked of hosts is needed: a validator may say how deep it is, so may a rule that a name stands for,
and a validator of packages which form a group has. -/
theorem eager_ne_lazy :
    TellsApart (.withHosts [("Counted", .ofValidate fun _ => countGroups)]) []
        (.array ⟨0, 1, 1⟩ [.call ⟨8, 1, 9⟩ (.ident ⟨1, 1, 2⟩ "Counted") []])
        [.contains (.custom "Counted" .null)] ∧
      TellsApart .standard [("counted", .rule (.host (.ofValidate "counted" countGroups)))]
        (.array ⟨0, 1, 1⟩ [.ident ⟨1, 1, 2⟩ "counted"]) [.host (.ofValidate "counted" countGroups)] ∧
      TellsApart (.withHosts [("Package", .ofValidate refuseLambdas)]) [] (.array ⟨0, 1, 1⟩ []) [] :=
  ⟨tellsApart_validator, tellsApart_rule, tellsApart_package⟩

end Rulebook
