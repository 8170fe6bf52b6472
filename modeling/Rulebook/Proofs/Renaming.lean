import Rulebook.Engine.Basic
import Rulebook.Proofs.Kinds
import Rulebook.Proofs.Nameless
import Rulebook.Proofs.SameChecks

/-!
# Names of binders

Texts of the same nameless form, in scopes of related values, evaluate to related values: the same data, with
closures of such texts in such scopes in the same places. So what binders are called makes no difference
to the rule of a program, and none to a walk that calls the lambdas which the rule was left with.
-/

namespace Rulebook

/-! ## Values up to the names of binders -/

mutual

/-- Values of one form, whose lambdas are the same up to names. -/
inductive Value.Renamed : Value → Value → Prop
  | mk {v v' : Value} (h : v.Alike Value.Renamed Rule.Renamed Lambda.Renamed v') : Value.Renamed v v'

inductive Rule.Renamed : Rule → Rule → Prop
  | mk {r r' : Rule} (h : r.Alike Rule.Renamed Lambda.Renamed r') : Rule.Renamed r r'

/-- Lambdas of one nameless form under their scopes, which hold related values. -/
inductive Lambda.Renamed : Lambda → Lambda → Prop
  | mk (pos : Position) {param param' : Option String} {body body' : Expr} {scope scope' : Scope}
      (htext : (Expr.lambda pos param body).nameless (scope.map Prod.fst) =
        (Expr.lambda pos param' body').nameless (scope'.map Prod.fst))
      (hvalues : List.Forall₂ Value.Renamed (scope.map Prod.snd) (scope'.map Prod.snd)) :
      Lambda.Renamed (.mk param body scope) (.mk param' body' scope')

end

theorem uniform_renamed : Uniform Value.Renamed Rule.Renamed Lambda.Renamed where
  value := ⟨fun ⟨h⟩ => h, .mk⟩
  rule := ⟨fun ⟨h⟩ => h, .mk⟩

/-- Texts of one nameless form under their scopes, which hold related values. -/
structure SameForm (scope scope' : Scope) (e e' : Expr) : Prop where
  text : e.nameless (scope.map Prod.fst) = e'.nameless (scope'.map Prod.fst)
  values : List.Forall₂ Value.Renamed (scope.map Prod.snd) (scope'.map Prod.snd)

/-! ## Names in their scopes -/

/-- A name is bound by what it refers to, or by nothing. -/
theorem lookup_cases (scope : Scope) (name : String) :
    (∃ i v, Reference.of (scope.map Prod.fst) name = .bound i ∧ scope.lookup name = some v ∧
      (scope.map Prod.snd)[i]? = some v) ∨
    (Reference.of (scope.map Prod.fst) name = .free name ∧ scope.lookup name = none) := by
  induction scope with
  | nil => exact .inr ⟨rfl, rfl⟩
  | cons b scope ih =>
    obtain ⟨binder, v⟩ := b
    rw [List.lookup_cons, List.map_cons, Reference.of_cons]
    by_cases h : binder = name
    · exact .inl ⟨0, v, by simp [h]⟩
    · rw [beq_eq_false_iff_ne.2 (Ne.symm h), if_neg h]
      obtain ⟨i, w, href, hlookup, hvalue⟩ | ⟨href, hlookup⟩ := ih
      · exact .inl ⟨i + 1, w, by rw [href]; rfl, hlookup, hvalue⟩
      · exact .inr ⟨by rw [href]; rfl, hlookup⟩

theorem global_renamed {registered : String → Bool} {name : String} {v : Value}
    (h : global registered name = some v) : v.Renamed v := by
  unfold global at h
  split at h
  · cases h
    exact .mk (.space _)
  · cases h
    exact .mk (.space _)
  · split at h
    · cases h
      exact .mk (.factory _)
    · split at h
      · cases h
        exact .mk (.factory _)
      · cases h

/-- Names that refer to the same have related values, or are one name without a value. -/
theorem resolve_renamed {registered : String → Bool} {scope scope' : Scope} {name name' : String}
    (href : Reference.of (scope.map Prod.fst) name = Reference.of (scope'.map Prod.fst) name')
    (hvalues : List.Forall₂ Value.Renamed (scope.map Prod.snd) (scope'.map Prod.snd)) (pos : Position) :
    Match Value.Renamed (resolve registered scope pos name) (resolve registered scope' pos name') := by
  unfold resolve lookup
  obtain ⟨i, v, hi, hlookup, hv⟩ | ⟨hfree, hlookup⟩ := lookup_cases scope name <;>
    obtain ⟨i', v', hi', hlookup', hv'⟩ | ⟨hfree', hlookup'⟩ := lookup_cases scope' name'
  · obtain rfl : i = i' := Reference.bound.inj (hi.symm.trans (href.trans hi'))
    have hrel := getElem?_alike hvalues i
    rw [hv, hv'] at hrel
    cases hrel with
    | some hrel =>
      rw [hlookup, hlookup']
      exact hrel
  · cases hi.symm.trans (href.trans hfree')
  · cases hfree.symm.trans (href.trans hi')
  · obtain rfl : name = name' := Reference.free.inj (hfree.symm.trans (href.trans hfree'))
    rw [hlookup, hlookup', Option.none_or]
    cases hglobal : global registered name with
    | none => rfl
    | some v => exact global_renamed hglobal

/-! ## Evaluation -/

section
variable {scope scope' : Scope}
  (hvalues : List.Forall₂ Value.Renamed (scope.map Prod.snd) (scope'.map Prod.snd))
include hvalues

theorem sameForm_items {items items' : List Expr}
    (h : namelessItems (scope.map Prod.fst) items = namelessItems (scope'.map Prod.fst) items') :
    List.Forall₂ (SameForm scope scope') items items' := by
  rw [namelessItems_eq_map, namelessItems_eq_map, ← List.forall₂_eq_eq_eq, List.forall₂_map_left_iff,
    List.forall₂_map_right_iff] at h
  exact h.imp fun _ _ htext => ⟨htext, hvalues⟩

theorem sameForm_entries {entries entries' : List (String × Expr)}
    (h : namelessEntries (scope.map Prod.fst) entries =
      namelessEntries (scope'.map Prod.fst) entries') :
    Entries (SameForm scope scope') entries entries' := by
  rw [namelessEntries_eq_map, namelessEntries_eq_map, ← List.forall₂_eq_eq_eq,
    List.forall₂_map_left_iff, List.forall₂_map_right_iff] at h
  refine h.imp ?_
  rintro ⟨key, e⟩ ⟨key', e'⟩ hentry
  obtain ⟨rfl, htext⟩ := Prod.mk.inj hentry
  exact ⟨key, htext, hvalues⟩

end

theorem SameForm.alike {scope scope' : Scope} {e e' : Expr} (h : SameForm scope scope' e e') :
    e.Alike (SameForm scope scope') e' := by
  obtain ⟨htext, hvalues⟩ := h
  -- Expressions of one nameless form have one constructor.
  cases e <;> cases e' <;> simp only [Expr.nameless, Nameless.leaf.injEq, reduceCtorEq] at htext
  case ident.ident =>
    obtain ⟨rfl, -⟩ := Nameless.ident.inj htext
    exact .ident _ _ _
  case array.array =>
    obtain ⟨rfl, hitems⟩ := Nameless.array.inj htext
    exact .array _ (sameForm_items hvalues hitems)
  case object.object =>
    obtain ⟨rfl, hentries⟩ := Nameless.object.inj htext
    exact .object _ (sameForm_entries hvalues hentries)
  case lambda.lambda =>
    obtain ⟨rfl, -⟩ := Nameless.lambda.inj htext
    exact .lambda _ _ _ _ _
  case call.call =>
    obtain ⟨rfl, hcallee, hargs⟩ := Nameless.call.inj htext
    exact .call _ ⟨hcallee, hvalues⟩ (sameForm_items hvalues hargs)
  case member.member =>
    obtain ⟨rfl, howner, rfl⟩ := Nameless.member.inj htext
    exact .member _ _ ⟨howner, hvalues⟩
  case index.index =>
    obtain ⟨rfl, howner, hsubscript⟩ := Nameless.index.inj htext
    exact .index _ ⟨howner, hvalues⟩ ⟨hsubscript, hvalues⟩
  case neg.neg =>
    obtain ⟨rfl, hoperand⟩ := Nameless.neg.inj htext
    exact .neg _ ⟨hoperand, hvalues⟩
  all_goals
    cases htext
    constructor

theorem Lambda.Renamed.body {l l' : Lambda} (h : l.Renamed l') {arg arg' : Option Value}
    (harg : Option.Rel Value.Renamed arg arg') :
    SameForm (l.bindArg arg) (l'.bindArg arg') l.body l'.body := by
  obtain ⟨pos, htext, hvalues⟩ := h
  rename_i param param' body body' scope scope'
  simp only [Expr.nameless] at htext
  obtain ⟨-, hparam, hbody⟩ := Nameless.lambda.inj htext
  cases param <;> cases param'
  case none.none => exact ⟨hbody, hvalues⟩
  case some.some => exact ⟨hbody, .cons (uniform_renamed.getD harg) hvalues⟩
  all_goals cases hparam

theorem simulation_renamed (registered : String → Bool) :
    Simulation registered registered (fun _ => False) Value.Renamed Rule.Renamed Lambda.Renamed
      SameForm where
  toUniform := uniform_renamed
  text := SameForm.alike
  name := by
    rintro scope scope' pos name name' ⟨htext, hvalues⟩
    simp only [Expr.nameless] at htext
    exact .inr (resolve_renamed (Nameless.ident.inj htext).2 hvalues pos)
  closure := fun ⟨htext, hvalues⟩ => .mk _ htext hvalues
  body := fun hl harg => hl.body harg

theorem bisimulation_renamed (registered : String → Bool) :
    Bisimulation registered registered Rule.Renamed Lambda.Renamed where
  form := uniform_renamed.rule.1
  rules hl kind c :=
    ((simulation_renamed registered).rules hl kind c).resolve_left fun ⟨_, _, hfalse⟩ => hfalse

/-! ## Programs -/

theorem alike_of_nameless {registered : String → Bool} {p p' : Program} {scope scope' : Scope}
    (htext : p.nameless registered (scope.map Prod.fst) = p'.nameless registered (scope'.map Prod.fst))
    (hvalues : List.Forall₂ Value.Renamed (scope.map Prod.snd) (scope'.map Prod.snd)) :
    Program.Alike registered registered Value.Renamed SameForm scope scope' p p' := by
  induction p generalizing p' scope scope' with
  | nil =>
    cases p' with
    | nil => exact .nil _ _
    | cons s' => cases s' <;> cases htext
  | cons s rest ih =>
    cases p' with
    | nil => cases s <;> cases htext
    | cons s' rest' =>
      cases s <;> cases s' <;> obtain ⟨hstmt, hrest⟩ := List.cons.inj htext
      case expr.expr =>
        exact .expr ⟨NamelessStmt.expr.inj hstmt, hvalues⟩ (ih hrest hvalues)
      case bind.bind pos name value pos' name' value' =>
        -- Nameless statements keep the names that are taken, so that both fail to bind or neither does.
        obtain ⟨rfl, htaken, hvalue⟩ := NamelessStmt.bind.inj hstmt
        unfold taken? at htaken
        cases hname : global registered name <;> cases hname' : global registered name' <;>
          rw [hname, hname'] at htaken
        case none.none =>
          refine .bind pos hname hname' ⟨hvalue, hvalues⟩ fun v v' hv => ?_
          exact ih hrest (.cons hv hvalues)
        case some.some =>
          obtain rfl : name = name' := Option.some.inj htaken
          exact .rebind pos _ _ _ _ (by simp [hname]) (by simp [hname])
        all_goals cases htaken
      all_goals cases hstmt

/-- Programs of one nameless form have the same error, or rules that give the same reports. -/
theorem outcome_of_nameless {r : Registry} (hhosts : r.Parametric) {p p' : Program}
    (h : p.nameless r.contains [] = p'.nameless r.contains []) :
    (p.root r.contains).map r.validate = (p'.root r.contains).map r.validate := by
  have hroot := (simulation_renamed r.contains).root (alike_of_nameless h .nil) fun _ _ => id
  refine hroot.elim (fun _ => rfl) fun rule rule' hrule => ?_
  have hcheck := ((bisimulation_renamed r.contains).indistinct hhosts).check hrule
  refine congrArg Except.ok ?_
  funext disk subject
  unfold Registry.validate
  rw [hcheck]

/-- A binder may be renamed, with all that it binds, to a name that the program does not have and that
means nothing by itself: the program has the same error, or a rule that gives the same reports. -/
theorem rename_binder {r : Registry} (hhosts : r.Parametric) {y : String}
    (hfree : global r.contains y = none) {p p' : Program} (hy : p.Lacks y)
    (h : p.Rebound r.contains y p') :
    (p'.root r.contains).map r.validate = (p.root r.contains).map r.validate :=
  outcome_of_nameless hhosts (h.nameless_eq hy hfree [])

/-- A host that asks of a group no more than that its rules can be built. -/
def buildable (registered : String → Bool) : HostValidator :=
  .ofValidate fun d c =>
    match d with
    | .package _ (.lazy kind l) =>
      match l.rules registered kind c.enterGroup with
      | .error e => .fail (.specGroup kind (SpecError.ofEval e).message)
      | .ok _ => .done ()
    | _ => .done ()

theorem parametric_buildable (registered : String → Bool) : (buildable registered).Parametric registered := by
  intro R L b d d' h
  have hvalidate : (buildable registered).validate d = (buildable registered).validate d' := by
    cases h with
    | package name hg =>
      cases hg with
      | rules => rfl
      | «lazy» kind hl =>
        funext c
        simp only [buildable, HostValidator.ofValidate]
        exact (b.rules hl kind c.enterGroup).elim (fun _ => rfl) fun _ _ _ => rfl
    | _ => rfl
  unfold HostValidator.check
  rw [hvalidate]
  rfl

/-- The rule `x` is used in a lambda, beside a parameter of the same name: `let x = Str()`,
`let f = (x) => x`, `Package((it) => [f(x)])`. -/
def shadowed (x : String) : Program := [
  .bind default x (.call default (.ident default "Str") []),
  .bind default "f" (.lambda default (some "x") (.ident default "x")),
  .expr (.call default (.ident default "Package")
    [.lambda default (some "it")
      (.array default [.call default (.ident default "f") [.ident default x]])])]

/-- The registry in which packages are checked by that host. -/
def buildableRegistry : Registry :=
  Registry.standard.register "Package" (.host (buildable Registry.standard.contains))

theorem rename_binder_shadowed :
    buildableRegistry.Parametric ∧ global buildableRegistry.contains "y" = none ∧
    (shadowed "x").Lacks "y" ∧
    (shadowed "x").Rebound buildableRegistry.contains "y" (shadowed "y") ∧
    ((shadowed "x").root buildableRegistry.contains).toOption.isSome = true ∧
    ((shadowed "y").root buildableRegistry.contains).map buildableRegistry.validate =
      ((shadowed "x").root buildableRegistry.contains).map buildableRegistry.validate := by
  have hcontains : buildableRegistry.contains = Registry.standard.contains := by
    funext kind
    unfold buildableRegistry
    rw [Registry.contains_register]
    by_cases h : kind = "Package"
    · subst h
      decide +kernel
    · simp [h]
  have hhosts : buildableRegistry.Parametric := by
    intro kind v hv
    rw [hcontains]
    unfold buildableRegistry at hv
    rw [Registry.validator?_register] at hv
    split at hv
    · cases hv
      exact parametric_buildable _
    · exact absurd hv (Registry.validator?_standard_ne_host kind v)
  have hfree : global buildableRegistry.contains "y" = none := by decide +kernel
  have hlacks : (shadowed "x").Lacks "y" := by
    simp [Program.Lacks, shadowed, Stmt.name?, Stmt.body, Expr.Lacks, Expr.Every, Expr.nodes, nodesOf,
      Expr.name?]
  have hrebound : (shadowed "x").Rebound buildableRegistry.contains "y" (shadowed "y") :=
    .binder _ _ _ (by decide +kernel)
  exact ⟨hhosts, hfree, hlacks, hrebound, by decide +kernel, rename_binder hhosts hfree hlacks hrebound⟩

end Rulebook
