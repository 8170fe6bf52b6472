import Rulebook.Eval.Program
import Rulebook.Proofs.Budget

/-!
# The root of a program

The root is found by looking at the text: of the calls in the statements that are expressions, leaving
out arguments and lambdas, it is the rule of the first that is completed and calls a factory.
-/

namespace Rulebook

/-! ## Calls in the order of completion -/

/-- A call as it is written. -/
structure Call where
  pos : Position
  callee : Expr
  args : List Expr

def Call.expr (k : Call) : Expr := .call k.pos k.callee k.args

mutual

/-- The calls that are neither in the arguments of a call nor in a lambda. -/
def Expr.calls : Expr → List Call
  | .call pos callee args => callee.calls ++ [⟨pos, callee, args⟩]
  | .array _ items => callsOf items
  | .object _ entries => callsIn entries
  | .member _ object _ => object.calls
  | .index _ object subscript => object.calls ++ subscript.calls
  | .neg _ operand => operand.calls
  | .null _ | .bool .. | .number .. | .string .. | .regex .. | .ident .. | .lambda .. => []

def callsOf : List Expr → List Call
  | [] => []
  | e :: es => e.calls ++ callsOf es

def callsIn : List (String × Expr) → List Call
  | [] => []
  | (_, e) :: rest => e.calls ++ callsIn rest

end

/-- A call in the scope of its statement. -/
structure Site where
  scope : Scope
  call : Call

def Expr.sites (scope : Scope) (e : Expr) : List Site := e.calls.map (Site.mk scope)

section
variable (registered : String → Bool)

namespace Site
variable (s : Site)

def value : Except EvalError Value := valueOf registered s.scope s.call.expr

/-- What is called is a factory. -/
def CallsFactory : Prop := ∃ g, valueOf registered s.scope s.call.callee = .ok (.factory g)

/-- The rule that a factory makes here. -/
def rule? : Option Rule :=
  match valueOf registered s.scope s.call.callee, s.value registered with
  | .ok (.factory _), .ok (.rule r) => some r
  | _, _ => none

/-- A factory that is called here makes a rule. -/
def Settled : Prop := s.CallsFactory registered → ∃ r, s.value registered = .ok (.rule r)

end Site

namespace Program

/-- The calls of the statements that are expressions, each in the scope of its statement. -/
def sites : Program → Scope → List Site
  | [], _ => []
  | .bind _ name value :: rest, scope =>
    match valueOf registered scope value with
    | .ok v => sites rest ((name, v) :: scope)
    | .error _ => []
  | .expr e :: rest, scope => e.sites scope ++ sites rest scope

/-- Every statement evaluates: no value of a name is an error, nor is one of the names taken. -/
def Evaluates : Program → Scope → Prop
  | [], _ => True
  | .bind _ name value :: rest, scope =>
    global registered name = none ∧
      ∃ v, valueOf registered scope value = .ok v ∧ Evaluates rest ((name, v) :: scope)
  | .expr e :: rest, scope =>
    (∃ v, valueOf registered scope e = .ok v) ∧ Evaluates rest scope

end Program

end

variable {registered : String → Bool}

theorem callsOf_eq_flatMap (items : List Expr) : callsOf items = items.flatMap Expr.calls := by
  induction items with
  | nil => rfl
  | cons e es ih => rw [callsOf, ih, List.flatMap_cons]

theorem callsIn_eq_flatMap (entries : List (String × Expr)) :
    callsIn entries = entries.flatMap fun e => e.2.calls := by
  induction entries with
  | nil => rfl
  | cons e rest ih => rw [callsIn, ih, List.flatMap_cons]

namespace Site
variable {s : Site}

theorem rule?_eq_some (h : s.CallsFactory registered) {r : Rule}
    (hr : s.value registered = .ok (.rule r)) : s.rule? registered = some r := by
  obtain ⟨g, hg⟩ := h
  simp [rule?, hg, hr]

theorem rule?_eq_none (h : ¬ s.CallsFactory registered) : s.rule? registered = none := by
  unfold rule?
  split
  · rename_i hg _
    exact absurd ⟨_, hg⟩ h
  · rfl

end Site

/-! ## Evaluations -/

namespace Eval

variable {α β : Type}

/-- An evaluation that ends with a value has come by these calls: the first rule that one of them makes
is the root unless there was one. -/
def Visits (registered : String → Bool) (sites : List Site) (x : Eval α) : Prop :=
  ∀ root a after, x.run root = (.ok a, after) →
    after = root.or (sites.findSome? (Site.rule? registered)) ∧ ∀ s ∈ sites, s.Settled registered

theorem visits_fail {fault : EvalFault} {pos : Position} {sites : List Site} :
    Visits registered sites (fail fault pos : Eval α) := by
  rintro _ _ _ ⟨⟩

theorem visits_quiet {x : Eval α} (h : Quiet x) : Visits registered [] x := by
  intro root a after hx
  refine ⟨?_, by simp⟩
  rw [h.run hx]
  simp

theorem visits_bind {x : Eval α} {f : α → Eval β} {before rest : List Site}
    (hx : Visits registered before x) (hf : ∀ a, Visits registered rest (f a)) :
    Visits registered (before ++ rest) (x >>= f) := by
  intro root b after h
  obtain ⟨a, mid, ha, hb⟩ := run_bind_ok.1 h
  obtain ⟨rfl, hbefore⟩ := hx root a mid ha
  obtain ⟨rfl, hrest⟩ := hf a _ b after hb
  refine ⟨?_, ?_⟩
  · rw [List.findSome?_append, Option.or_assoc]
  · exact fun s hs => (List.mem_append.1 hs).elim (hbefore s) (hrest s)

theorem visits_bind_quiet {x : Eval α} {f : α → Eval β} {sites : List Site}
    (hx : Visits registered sites x) (hf : ∀ a, Quiet (f a)) :
    Visits registered sites (x >>= f) := by
  rw [← List.append_nil sites]
  exact visits_bind hx fun a => visits_quiet (hf a)

theorem visits_mapM {f : α → Eval β} {sites : α → List Site} (as : List α)
    (h : ∀ a, Visits registered (sites a) (f a)) :
    Visits registered (as.flatMap sites) (as.mapM f) := by
  induction as with
  | nil => exact visits_quiet (quiet_pure [])
  | cons a as ih =>
    rw [List.mapM_cons, List.flatMap_cons]
    exact visits_bind (h a) fun b => visits_bind_quiet ih fun bs => quiet_pure (b :: bs)

end Eval

theorem callValue_factory {eval : Frame → Scope → Expr → Eval Value} {pos : Position} {g : Factory}
    {args : List Value} {root after : Option Rule} {v : Value}
    (h : (callValue eval (.start true) pos (.factory g) args).run root = (.ok v, after)) :
    ∃ r, v = .rule r ∧ after = root.or (some r) := by
  unfold callValue at h
  obtain ⟨r, mid, hr, hrest⟩ := Eval.run_bind_ok.1 h
  obtain rfl : mid = root := (Eval.quiet_ofExcept _).run hr
  obtain ⟨_, offered, hoffer, hreturn⟩ := Eval.run_bind_ok.1 hrest
  cases hoffer
  cases hreturn
  exact ⟨r, rfl, rfl⟩

theorem evalAt_visits_call {left : Nat} (hleft : left + 1 ≤ maxEvals)
    (ih : ∀ scope e, Eval.Visits registered (e.sites scope)
      (evalAt registered left (.start true) scope e))
    (scope : Scope) (k : Call) :
    Eval.Visits registered (k.expr.sites scope)
      (evalAt registered (left + 1) (.start true) scope k.expr) := by
  intro root v after h
  have hvalue : Site.value registered ⟨scope, k⟩ = .ok v := valueOf_eq hleft h
  obtain ⟨c, mid, hc, h⟩ := Eval.run_bind_ok.1 h
  have hcallee : valueOf registered scope k.callee = .ok c := valueOf_eq (by omega) hc
  obtain ⟨rfl, hsettled⟩ := ih scope k.callee root c mid hc
  obtain ⟨vs, mid, hargs, h⟩ := Eval.run_bind_ok.1 h
  -- No rule may become the root in the arguments.
  have hquiet : (k.args.mapM (evalAt registered left (.inArguments (.start true)) scope)).Quiet :=
    Eval.quiet_mapM k.args fun e => evalAt_quiet left rfl scope e
  obtain rfl := hquiet.run hargs
  have hsites : k.expr.sites scope = k.callee.sites scope ++ [⟨scope, k⟩] := by
    simp [Expr.sites, Call.expr, Expr.calls]
  rw [hsites, List.findSome?_append, ← Option.or_assoc]
  by_cases hfactory : Site.CallsFactory registered ⟨scope, k⟩
  · -- The rule that is made comes after those of the callee.
    obtain ⟨g, hg⟩ := hfactory
    obtain rfl : c = .factory g := by simpa [hcallee] using hg
    obtain ⟨r, rfl, rfl⟩ := callValue_factory h
    have hrule := Site.rule?_eq_some ⟨g, hg⟩ hvalue
    refine ⟨by simp [hrule], ?_⟩
    intro s hs
    rcases List.mem_append.1 hs with hs | hs
    · exact hsettled s hs
    · rw [List.mem_singleton.1 hs]
      exact fun _ => ⟨r, hvalue⟩
  · -- What else can be called is a lambda, and its body leaves the root alone.
    have hne : ∀ g, c ≠ .factory g := by
      rintro g rfl
      exact hfactory ⟨g, hcallee⟩
    rw [(callValue_quiet left (.start true) k.pos vs hne).run h]
    refine ⟨by simp [Site.rule?_eq_none hfactory], ?_⟩
    intro s hs
    rcases List.mem_append.1 hs with hs | hs
    · exact hsettled s hs
    · rw [List.mem_singleton.1 hs]
      exact fun hcalls => absurd hcalls hfactory

theorem evalAt_visits {left : Nat} (hleft : left ≤ maxEvals) (scope : Scope) (e : Expr) :
    Eval.Visits registered (e.sites scope) (evalAt registered left (.start true) scope e) := by
  induction left generalizing scope e with
  | zero => exact Eval.visits_fail
  | succ left ih =>
    have ih := fun scope e => ih (by omega) scope e
    cases e with
    | null | bool | number | string | lambda => exact Eval.visits_quiet (Eval.quiet_pure _)
    | regex =>
      simp only [evalAt, evalStep]
      split
      · exact Eval.visits_quiet (Eval.quiet_pure _)
      · exact Eval.visits_fail
    | ident =>
      simp only [evalAt, evalStep]
      split
      · exact Eval.visits_quiet (Eval.quiet_pure _)
      · exact Eval.visits_fail
    | array pos items =>
      rw [Expr.sites, Expr.calls, callsOf_eq_flatMap, List.map_flatMap]
      exact Eval.visits_bind_quiet (Eval.visits_mapM items fun e => ih scope e) fun _ =>
        Eval.quiet_pure _
    | object pos entries =>
      rw [Expr.sites, Expr.calls, callsIn_eq_flatMap, List.map_flatMap]
      refine Eval.visits_bind_quiet (Eval.visits_mapM entries fun e => ?_) fun _ =>
        Eval.quiet_pure _
      exact Eval.visits_bind_quiet (ih scope e.2) fun _ => Eval.quiet_pure _
    | call pos callee args => exact evalAt_visits_call hleft ih scope ⟨pos, callee, args⟩
    | member pos object name =>
      exact Eval.visits_bind_quiet (ih scope object) fun _ => Eval.quiet_ofExcept _
    | index pos object subscript =>
      rw [Expr.sites, Expr.calls, List.map_append]
      refine Eval.visits_bind (ih scope object) fun _ => ?_
      exact Eval.visits_bind_quiet (ih scope subscript) fun _ => Eval.quiet_ofExcept _
    | neg pos operand =>
      refine Eval.visits_bind_quiet (ih scope operand) fun _ => ?_
      split
      · exact Eval.quiet_pure _
      · exact Eval.quiet_fail _ _

/-! ## Programs -/

/-- What has a value in the scope of a statement evaluates to it there, whatever the root. -/
theorem run_of_valueOf {scope : Scope} {e : Expr} {v : Value}
    (h : valueOf registered scope e = .ok v) (capturing : Bool) (root : Option Rule) :
    ∃ after, (evalAt registered maxEvals (.start capturing) scope e).run root = (.ok v, after) := by
  have hrefines : (evalAt registered maxEvals (.start false) scope e).Refines
      (evalAt registered maxEvals (.start capturing) scope e) :=
    evalAt_refines (Nat.le_refl maxEvals) (Nat.le_refl maxLambdas) scope e
  exact hrefines none root v _ (Prod.ext h rfl)

namespace Program

/-- Statements that evaluate make the rule of their first call of a factory the root, unless there was
one before. -/
theorem Evaluates.runStmts {p : Program} {scope : Scope} (h : p.Evaluates registered scope)
    (root : Option Rule) :
    runStmts registered p scope root =
        .ok (root.or ((p.sites registered scope).findSome? (Site.rule? registered))) ∧
      ∀ s ∈ p.sites registered scope, s.Settled registered := by
  induction p generalizing scope root with
  | nil => exact ⟨by simp [Rulebook.runStmts, sites], by simp [sites]⟩
  | cons stmt rest ih =>
    cases stmt with
    | bind pos name value =>
      obtain ⟨hname, v, hv, hrest⟩ := h
      obtain ⟨after, hrun⟩ := run_of_valueOf hv false root
      obtain rfl : after = root := (evalAt_quiet maxEvals rfl scope value).run hrun
      rw [Rulebook.runStmts, hrun, sites, hv]
      simpa [hname] using ih hrest after
    | expr e =>
      obtain ⟨⟨v, hv⟩, hrest⟩ := h
      obtain ⟨after, hrun⟩ := run_of_valueOf hv true root
      obtain ⟨rfl, hsettled⟩ := evalAt_visits (Nat.le_refl maxEvals) scope e root v after hrun
      obtain ⟨hroot, hsettledRest⟩ := ih hrest (root.or ((e.sites scope).findSome? _))
      rw [Rulebook.runStmts, hrun, sites, List.findSome?_append, ← Option.or_assoc]
      refine ⟨hroot, ?_⟩
      exact fun s hs => (List.mem_append.1 hs).elim (hsettled s) (hsettledRest s)

/-- The statements of a program evaluate exactly if it runs without an error. -/
theorem evaluates_iff {p : Program} {scope : Scope} (root : Option Rule) :
    p.Evaluates registered scope ↔
      ∃ after, Rulebook.runStmts registered p scope root = .ok after := by
  refine ⟨fun h => ⟨_, (h.runStmts root).1⟩, ?_⟩
  induction p generalizing scope root with
  | nil => exact fun _ => trivial
  | cons stmt rest ih =>
    rintro ⟨after, h⟩
    cases stmt with
    | bind pos name value =>
      unfold Rulebook.runStmts at h
      split at h
      · cases h
      · rename_i hname
        split at h
        · rename_i v mid hrun
          exact ⟨by simpa using hname, v, valueOf_eq (Nat.le_refl maxEvals) hrun, ih mid ⟨after, h⟩⟩
        · cases h
    | expr e =>
      unfold Rulebook.runStmts at h
      split at h
      · rename_i v mid hrun
        exact ⟨⟨v, valueOf_eq (Nat.le_refl maxEvals) hrun⟩, ih mid ⟨after, h⟩⟩
      · cases h

theorem Evaluates.root {p : Program} (hne : p ≠ []) (h : p.Evaluates registered []) :
    p.root registered =
      ((p.sites registered []).findSome? (Site.rule? registered)).elim (.error .noRoot) .ok := by
  have hrun := (h.runStmts none).1
  unfold Program.root
  rw [if_neg (by simpa using hne), hrun, Option.none_or]
  cases (p.sites registered []).findSome? (Site.rule? registered) <;> rfl

theorem sites_append {p : Program} (q : Program) {scope : Scope} (h : p.Evaluates registered scope) :
    ∃ after, (p ++ q).sites registered scope = p.sites registered scope ++ q.sites registered after := by
  induction p generalizing scope with
  | nil => exact ⟨scope, rfl⟩
  | cons stmt rest ih =>
    cases stmt with
    | bind pos name value =>
      obtain ⟨-, v, hv, hrest⟩ := h
      obtain ⟨after, hafter⟩ := ih hrest
      exact ⟨after, by simpa [sites, hv] using hafter⟩
    | expr e =>
      obtain ⟨after, hafter⟩ := ih h.2
      exact ⟨after, by simp [sites, hafter]⟩

/-- If the statements of a program evaluate, then it has no root exactly if none of the calls outside of
arguments and lambdas calls a factory; otherwise the root is what the first of those that do makes, and
no statement that is added replaces it. -/
theorem root_is_first_factory_call {p : Program} (hne : p ≠ []) (h : p.Evaluates registered []) :
    (p.root registered = .error .noRoot ↔
      ∀ s ∈ p.sites registered [], ¬ s.CallsFactory registered) ∧
    (∀ before s after, p.sites registered [] = before ++ s :: after →
      (∀ t ∈ before, ¬ t.CallsFactory registered) → s.CallsFactory registered →
      ∃ r, s.value registered = .ok (.rule r) ∧ p.root registered = .ok r) ∧
    ∀ (q : Program) (r : Rule), (p ++ q).Evaluates registered [] → p.root registered = .ok r →
      (p ++ q).root registered = .ok r := by
  have hsettled := (h.runStmts none).2
  have hroot := h.root hne
  refine ⟨?_, ?_, ?_⟩
  · have hnone : p.root registered = .error .noRoot ↔
        (p.sites registered []).findSome? (Site.rule? registered) = none := by
      rw [hroot]
      cases (p.sites registered []).findSome? (Site.rule? registered) <;> simp
    rw [hnone, List.findSome?_eq_none_iff]
    constructor
    -- A site that calls a factory has made its rule, for the statements evaluate.
    · intro hall s hs hcalls
      obtain ⟨r, hr⟩ := hsettled s hs hcalls
      have hrule := hall s hs
      rw [Site.rule?_eq_some hcalls hr] at hrule
      cases hrule
    · exact fun hall s hs => Site.rule?_eq_none (hall s hs)
  · intro before s after hsites hbefore hcalls
    obtain ⟨r, hr⟩ := hsettled s (by simp [hsites]) hcalls
    refine ⟨r, hr, ?_⟩
    have hnone : before.findSome? (Site.rule? registered) = none :=
      List.findSome?_eq_none_iff.2 fun t ht => Site.rule?_eq_none (hbefore t ht)
    rw [hroot, hsites, List.findSome?_append, hnone, List.findSome?_cons,
      Site.rule?_eq_some hcalls hr]
    rfl
  · intro q r hq hr
    obtain ⟨scope, hsites⟩ := sites_append q h
    -- The sites of what is added come behind those of `p`, so the first rule stays the first.
    rw [hq.root (by simp [hne]), hsites, List.findSome?_append]
    rw [hroot] at hr
    cases hfound : (p.sites registered []).findSome? (Site.rule? registered) with
    | none => simp [hfound] at hr
    | some found => simpa [hfound] using hr

/-- `let s = Str()`, then `(() => Num())()`, then `[s, Bool()]`. -/
def sample : Program :=
  [.bind default "s" (.call default (.ident default "Str") []),
    .expr (.call default (.lambda default none (.call default (.ident default "Num") [])) []),
    .expr (.array default [.ident default "s", .call default (.ident default "Bool") []])]

/-- Neither the rule of the name nor that of the lambda is the root. -/
theorem root_is_first_factory_call_sample :
    sample ≠ [] ∧ sample.Evaluates (fun _ => false) [] ∧
      sample.root (fun _ => false) = .ok .bool := by
  have hne : sample ≠ [] := by simp [sample]
  have h : sample.Evaluates (fun _ => false) [] :=
    ⟨rfl, _, rfl, ⟨_, rfl⟩, ⟨_, rfl⟩, trivial⟩
  refine ⟨hne, h, ?_⟩
  obtain ⟨r, hr, hroot⟩ := (root_is_first_factory_call hne h).2.1 [_] _ [] rfl
    (by
      rw [List.forall_mem_singleton]
      rintro ⟨g, ⟨⟩⟩)
    ⟨.builtin .bool, rfl⟩
  cases hr
  exact hroot

end Program

end Rulebook
