import Rulebook.Engine.Basic
import Rulebook.Proofs.Nesting
import Rulebook.Proofs.Origins
import Rulebook.Proofs.SameChecks
import Rulebook.Proofs.Texts

/-!
# Kinds that a text does not mention

A text that does not name a kind gets the same rule whether or not the kind is registered, and by whom. Its
evaluation goes along with one in which the kind is unknown, up to an error that this one would fail
with at the name. Rules and lambdas made in this way have no descriptor of the kind, so the walk does not
ask for its validator.
-/

namespace Rulebook

/-- No token of the text is the name. -/
def Unmentioned (name text : String) : Prop :=
  ∀ ts, Tokens.ofText text = .ok ts → ∀ t ∈ ts.list, t.kind ≠ .ident name

instance (name text : String) : Decidable (Unmentioned name text) :=
  match h : Tokens.ofText text with
  | .error _ => isTrue fun ts hts => nomatch h.symm.trans hts
  | .ok ts =>
    if hts : ∀ t ∈ ts.list, t.kind ≠ .ident name then
      isTrue fun us hus => by
        cases h.symm.trans hus
        exact hts
    else isFalse fun hall => hts (hall ts h)

/-- The registered kinds but for one. -/
def without (kind : String) (registered : String → Bool) (name : String) : Bool :=
  name ≠ kind && registered name

/-- An expression that is not the name. -/
def Expr.IsNot (name : String) (e : Expr) : Prop := ∀ pos, e ≠ .ident pos name

/-- The name is unknown. -/
def EvalError.IsUnknown (name : String) (e : EvalError) : Prop := e.fault = .unknownIdent name

section
variable {kind : String} {registered : String → Bool}

/-! ## Evaluation -/

/-- What a name means depends on whether it is registered, if it is not of the language. -/
theorem global_congr {registered' : String → Bool} {name : String}
    (h : registered name = registered' name) : global registered name = global registered' name := by
  unfold global
  split <;> try rfl
  rw [h]

theorem global_of_not_registered {name : String} (h : registered name = false)
    (registered' : String → Bool) :
    global registered name = none ∨ global registered name = global registered' name := by
  unfold global
  split
  · exact .inr rfl
  · exact .inr rfl
  · split
    · exact .inr rfl
    · exact .inl (by simp [h])

theorem without_self : without kind registered kind = false := by simp [without]

theorem without_of_ne {name : String} (h : name ≠ kind) : without kind registered name = registered name := by
  simp [without, h]

theorem resolve_without (scope : Scope) (pos : Position) (name : String) :
    Matches (EvalError.IsUnknown kind) Eq (resolve (without kind registered) scope pos name)
      (resolve registered scope pos name) := by
  have hglobal : name = kind ∧ global (without kind registered) name = none ∨
      global (without kind registered) name = global registered name := by
    by_cases h : name = kind
    · subst h
      exact (global_of_not_registered without_self registered).imp_left fun hnone => ⟨rfl, hnone⟩
    · exact .inr (global_congr (without_of_ne h))
  unfold resolve lookup
  obtain ⟨rfl, hnone⟩ | heq := hglobal
  · rw [hnone]
    cases scope.lookup name with
    | some v => exact .inr rfl
    | none => exact .inl ⟨_, rfl, rfl⟩
  · rw [heq]
    exact .inr (match_eq.2 rfl)

/-- The same text in the same scope. -/
def SameText (scope scope' : Scope) (e e' : Expr) : Prop := scope = scope' ∧ e = e'

theorem alike_sameText (scope : Scope) (e : Expr) : e.Alike (SameText scope scope) e := by
  have hsame : ∀ es : List Expr, List.Forall₂ (SameText scope scope) es es :=
    fun es => List.forall₂_same.2 fun _ _ => ⟨rfl, rfl⟩
  cases e with
  | array pos items => exact .array pos (hsame items)
  | object pos entries => exact .object pos (List.forall₂_same.2 fun e _ => ⟨e.1, rfl, rfl⟩)
  | call pos callee args => exact .call pos ⟨rfl, rfl⟩ (hsame args)
  | member pos owner name => exact .member pos name ⟨rfl, rfl⟩
  | index pos owner subscript => exact .index pos ⟨rfl, rfl⟩ ⟨rfl, rfl⟩
  | neg pos operand => exact .neg pos ⟨rfl, rfl⟩
  | _ => constructor

theorem simulation_without (kind : String) (registered : String → Bool) :
    Simulation (without kind registered) registered (EvalError.IsUnknown kind) Eq Eq Eq SameText where
  toUniform := uniform_eq
  text := by
    rintro scope _ e _ ⟨rfl, rfl⟩
    exact alike_sameText scope e
  name := by
    rintro scope _ pos name _ ⟨rfl, ⟨⟩⟩
    exact resolve_without scope pos name
  closure := by
    rintro scope _ pos param _ body _ ⟨rfl, ⟨⟩⟩
    rfl
  body := by
    rintro l _ arg arg' rfl harg
    obtain rfl : arg = arg' := by cases harg with
      | some h => rw [h]
      | none => rfl
    exact ⟨rfl, rfl⟩

/-! ## Texts without the name -/

/-- An error at a part that is not the name is not that the name is unknown. -/
theorem EvalError.At.not_isUnknown {e : EvalError} (h : e.At (Expr.IsNot kind)) : ¬ e.IsUnknown kind := by
  obtain ⟨n, hn, -, hname⟩ := h
  exact fun hunknown => hn e.pos (hname kind hunknown)

theorem Program.ofText_unmentioned {text : String} (h : Unmentioned kind text) :
    Gives (fun p => ∀ s ∈ p, s.body.Every (Expr.IsNot kind) ∧
      ∀ pos name value, s = .bind pos name value → name ≠ kind) (Program.ofText text) := by
  intro p hp
  obtain ⟨ts, hts, hprogram⟩ := Program.ofText_eq_ok.1 hp
  have hstands := gives_of_yields (Program.ofTokens_standsIn ts) p hprogram
  intro s hs
  obtain ⟨hbody, hbind⟩ := hstands s hs
  refine ⟨fun n hn => ?_, ?_⟩
  · obtain ⟨t, ht, -, hkind⟩ := hbody n hn
    exact fun pos hident => h ts hts t ht (hkind pos kind hident)
  · rintro pos name value hs rfl
    obtain ⟨-, t, ht, hkind⟩ := hbind pos _ value hs
    exact h ts hts t ht hkind

theorem alike_unmentioned {p : Program} (h : ∀ s ∈ p, ∀ pos name value, s = .bind pos name value → name ≠ kind)
    (scope : Scope) :
    Program.Alike (without kind registered) registered Eq SameText scope scope p p := by
  induction p generalizing scope with
  | nil => exact .nil _ _
  | cons s rest ih =>
    rw [List.forall_mem_cons] at h
    cases s with
    | expr e => exact .expr ⟨rfl, rfl⟩ (ih h.2 scope)
    | bind pos name value =>
      have hglobal : global (without kind registered) name = global registered name :=
        global_congr (without_of_ne (h.1 pos name value rfl))
      cases hname : global registered name with
      | some v => exact .rebind pos _ _ _ _ (by simp [hglobal, hname]) (by simp [hname])
      | none =>
        refine .bind pos (hglobal.trans hname) hname ⟨rfl, rfl⟩ ?_
        rintro v _ rfl
        exact ih h.2 _

/-- Whether the kind is registered makes no difference to the rule of a text. -/
theorem ofText_without {text : String} (h : Unmentioned kind text) (registered : String → Bool) :
    Rule.ofText (without kind registered) text = Rule.ofText registered text := by
  have hprogram := Program.ofText_unmentioned h
  unfold Rule.ofText
  split
  · rfl
  rename_i p hp
  have hparts := hprogram p hp
  refine match_eq.1 ((simulation_without kind registered).root
    (alike_unmentioned (fun s hs => (hparts s hs).2) []) fun e hfails => ?_)
  have hyields := (kept_written (without kind registered) (Expr.IsNot kind)).runStmts (p := p)
    (fun s hs => (hparts s hs).1) fun pos name value _ => ⟨.null pos, nofun, rfl, nofun⟩
  rw [hfails] at hyields
  exact hyields.not_isUnknown

/-! ## Walks -/

/-- No rules of hosts, and every kind but one. -/
def Vocabulary.butFor (kind : String) : Vocabulary where
  hosts _ := False
  kinds name := name ≠ kind

/-- A rule made of texts that do not mention the kind. -/
def Rule.Avoids (kind : String) (rule : Rule) : Prop :=
  rule.In (.butFor kind) ∧ rule.Written (Expr.Every (Expr.IsNot kind))

def Lambda.Avoids (kind : String) (l : Lambda) : Prop :=
  l.In (.butFor kind) ∧ l.Written (Expr.Every (Expr.IsNot kind))

theorem covers_butFor (kind : String) (registered : String → Bool) :
    (Vocabulary.butFor kind).Covers (without kind registered) := by
  rintro name hname -
  simp only [without, Bool.and_eq_true, decide_eq_true_eq] at hname
  exact hname.1

theorem ofText_avoids {text : String} (h : Unmentioned kind text) :
    Gives (Rule.Avoids kind) (Rule.ofText (without kind registered) text) := by
  intro rule hrule
  refine ⟨ofText_in (covers_butFor kind registered) text rule hrule, ?_⟩
  have hprogram := Program.ofText_unmentioned h
  unfold Rule.ofText at hrule
  split at hrule
  · cases hrule
  rename_i p hp
  refine gives_of_yields ((kept_written _ (Expr.IsNot kind)).root ?_ ?_) rule hrule
  · exact fun s hs => (hprogram p hp s hs).1
  · exact fun pos name value _ => ⟨.null pos, nofun, rfl, nofun⟩

theorem rules_avoid (registered : String → Bool) {l : Lambda} (h : l.Avoids kind) (name : String)
    (c : Context) :
    Gives (fun rules => ∀ r ∈ rules, r.Avoids kind) (l.rules (without kind registered) name c) :=
  fun rules hrules r hr =>
    ⟨Lambda.rules_in (covers_butFor kind registered) h.1 name c rules hrules r hr,
      (kept_written _ (Expr.IsNot kind)).lambdaRules h.2 name c rules hrules r hr⟩

theorem rules_without {l : Lambda} (h : l.Avoids kind) (registered : String → Bool) (name : String)
    (c : Context) : l.rules (without kind registered) name c = l.rules registered name c := by
  have hmatches := (simulation_without kind registered).rules (rfl : l = l) name c
  rw [List.forall₂_eq_eq_eq] at hmatches
  refine match_eq.1 (hmatches.resolve_left ?_)
  rintro ⟨e, hfails, hunknown⟩
  have hyields := (kept_written (without kind registered) (Expr.IsNot kind)).lambdaRules_yields h.2 name c
  rw [hfails] at hyields
  exact hyields.not_isUnknown hunknown

theorem Rule.Avoids.form {rule : Rule} (h : rule.Avoids kind) :
    rule.Alike (fun rule rule' => rule = rule' ∧ rule.Avoids kind)
      (fun l l' => l = l' ∧ l.Avoids kind) rule := by
  obtain ⟨hin, hwritten⟩ := h
  have hlist : ∀ {rules : List Rule}, rulesIn (.butFor kind) rules →
      rulesWritten (Expr.Every (Expr.IsNot kind)) rules →
      List.Forall₂ (fun rule rule' => rule = rule' ∧ rule.Avoids kind) rules rules :=
    fun hi hw => List.forall₂_same.2 fun r hr =>
      ⟨rfl, (rulesIn_iff _ _).1 hi r hr, rulesWritten_iff.1 hw r hr⟩
  cases rule with
  | object required optional => exact .object (hlist hin.1 hwritten.1) (hlist hin.2 hwritten.2)
  | oneOf options => exact .oneOf (hlist hin hwritten)
  | listOf item min max => exact .listOf min max ⟨rfl, hin, hwritten⟩
  | not flavor inner => exact .not flavor ⟨rfl, hin, hwritten⟩
  | contains d =>
    refine .contains ?_
    match d with
    | .field key isOptional none => exact .field key isOptional .none
    | .field key isOptional (some value) => exact .field key isOptional (.some ⟨rfl, hin, hwritten⟩)
    | .file path ext content => exact .file path ext (hlist hin hwritten)
    | .directory path required optional =>
      exact .directory path (hlist hin.1 hwritten.1) (hlist hin.2 hwritten.2)
    | .jsonFile path required optional =>
      exact .jsonFile path (hlist hin.1 hwritten.1) (hlist hin.2 hwritten.2)
    | .package name (.rules rules) => exact .package name (.rules (hlist hin hwritten))
    | .package name (.lazy made l) => exact .package name (.lazy made ⟨rfl, hin, hwritten⟩)
    | .custom name params => exact .custom name params
  | _ => constructor

variable {r : Registry} {v : Validator}

theorem Descriptor.kind_ne {d : Descriptor} (h : d.In (.butFor kind)) (hkind : kind ∉ structuralKinds) :
    d.kind ≠ kind := by
  cases d with
  | custom => exact h
  | _ =>
    rintro rfl
    exact hkind (by simp [structuralKinds, Descriptor.kind])

theorem foreign?_register {d : Descriptor} (h : d.kind ≠ kind) :
    (r.register kind v).foreign? d = r.foreign? d := by
  have hvalidator : (r.register kind v).validator? d.kind = r.validator? d.kind := by
    simp [Registry.validator?, Registry.register, Registry.lookup_putEntry, h]
  unfold Registry.foreign? Registry.route Registry.lookup
  rw [hvalidator]

theorem without_register : without kind (r.register kind v).contains = without kind r.contains := by
  funext name
  by_cases h : name = kind <;> simp [without, Registry.contains_register, h]

theorem indistinct_register (r : Registry) (v : Validator) (hkind : kind ∉ structuralKinds) :
    Indistinct r (r.register kind v) (fun rule rule' => rule = rule' ∧ rule.Avoids kind)
      (fun l l' => l = l' ∧ l.Avoids kind) where
  form := by
    rintro rule _ ⟨rfl, h⟩
    exact h.form
  foreign := by
    rintro d _ ⟨⟨⟩, h⟩
    exact (foreign?_register (Descriptor.kind_ne h.1 hkind)).symm
  rules := by
    rintro l _ ⟨rfl, h⟩ name c
    have hbuilt := rules_avoid r.contains h name c
    rw [← rules_without h r.contains, ← rules_without h (r.register kind v).contains,
      without_register]
    generalize l.rules (without kind r.contains) name c = x at hbuilt
    cases x with
    | error e => rfl
    | ok rules => exact List.forall₂_same.2 fun rule hrule => ⟨rfl, hbuilt rules rfl rule hrule⟩

end

/-- Whether a kind that the text does not mention is registered, and under which validator, changes neither
the rule of the text nor any report. -/
theorem register_unmentioned (r : Registry) {kind : String} (hkind : kind ∉ structuralKinds)
    (v : Validator) {text : String} (h : Unmentioned kind text) :
    (r.register kind v).load text = r.load text ∧
      ∀ disk subject, (r.register kind v).run text disk subject = r.run text disk subject := by
  have hload : (r.register kind v).load text = r.load text := by
    unfold Registry.load
    rw [← ofText_without h r.contains, ← ofText_without h (r.register kind v).contains,
      without_register]
  refine ⟨hload, fun disk subject => ?_⟩
  unfold Registry.run
  rw [hload]
  split
  · rfl
  rename_i rule hrule
  have havoids : rule.Avoids kind := by
    unfold Registry.load at hrule
    rw [← ofText_without h] at hrule
    exact ofText_avoids h rule hrule
  unfold Registry.validate
  rw [(indistinct_register r v hkind).check ⟨rfl, havoids⟩]

/-- A text that has the name of a kind as a key only. -/
def keyText : String := "Package((it) => [Field(\x7bkey: 'Semver', value: Url()\x7d)])"

/-- A host takes the kind over. -/
theorem register_unmentioned_key :
    "Semver" ∉ structuralKinds ∧ Unmentioned "Semver" keyText ∧
      (Registry.standard.load keyText).toOption.isSome = true ∧
      (Registry.standard.register "Semver" (.host (.ofValidate fun _ _ => .done ()))).load keyText =
        Registry.standard.load keyText ∧
      ∀ disk subject,
        (Registry.standard.register "Semver" (.host (.ofValidate fun _ _ => .done ()))).run keyText
            disk subject =
          Registry.standard.run keyText disk subject := by
  have hkind : "Semver" ∉ structuralKinds := by decide
  have htext : Unmentioned "Semver" keyText := by decide +kernel
  exact ⟨hkind, htext, by decide +kernel, register_unmentioned .standard hkind _ htext⟩

end Rulebook
