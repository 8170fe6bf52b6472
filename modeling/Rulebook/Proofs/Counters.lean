import Rulebook.Eval.Interpreter
import Rulebook.Proofs.Budget

/-!
# What an interpreter counts

An interpreter does what `evalAt` does with what its counters leave, and the counters are afterwards what
they were before. So to count more can only turn a value into a failure, and a root that is there stays.
-/

namespace Rulebook

namespace Nesting

/-- What may still be nested, and whether a rule may become the root. -/
def frame (n : Nesting) : Frame := ⟨maxLambdas - n.lambdaDepth, n.mayRoot⟩

@[simp] theorem frame_enterArguments (n : Nesting) : n.enterArguments.frame = n.frame.inArguments := by
  simp [frame, enterArguments, mayRoot, Frame.inArguments]

@[simp] theorem frame_enterLambda (n : Nesting) :
    n.enterLambda.frame = ⟨maxLambdas - (n.lambdaDepth + 1), false⟩ := by
  simp [frame, enterLambda, mayRoot]

@[simp] theorem frame_start (capturing : Bool) : (start.capture capturing).frame = .start capturing := by
  cases capturing <;> rfl

end Nesting

/-! ## Computations -/

namespace Interp

variable {α β : Type} {n : Nesting}

/-- Where `n` is nested, `x` ends as `y` and leaves the root that `y` leaves; what is nested is as before. -/
def Mirrors (n : Nesting) (x : Interp α) (y : Eval α) : Prop :=
  ∀ root, x.run ⟨n, root⟩ = ((y.run root).1, ⟨n, (y.run root).2⟩)

theorem mirrors_pure (a : α) : Mirrors n (pure a) (pure a) := fun _ => rfl

theorem mirrors_fail (fault : EvalFault) (pos : Position) :
    Mirrors n (fail fault pos : Interp α) (.fail fault pos) := fun _ => rfl

theorem mirrors_ofExcept (x : Except EvalError α) : Mirrors n (ofExcept x) (.ofExcept x) :=
  fun _ => rfl

theorem mirrors_get {f : Interpreter → Interp α} {y : Eval α}
    (h : ∀ root, Mirrors n (f ⟨n, root⟩) y) : Mirrors n (get >>= f) y := fun root => h root root

theorem mirrors_bind {x : Interp α} {y : Eval α} {f : α → Interp β} {g : α → Eval β}
    (h : Mirrors n x y) (hf : ∀ a, Mirrors n (f a) (g a)) : Mirrors n (x >>= f) (y >>= g) := by
  intro root
  rw [Eval.run_bind, Eval.run_bind, h root]
  generalize y.run root = out
  obtain ⟨_ | a, after⟩ := out
  · rfl
  · exact hf a after

theorem mirrors_mapM {f : α → Interp β} {g : α → Eval β} (as : List α)
    (h : ∀ a, Mirrors n (f a) (g a)) : Mirrors n (as.mapM f) (as.mapM g) := by
  induction as with
  | nil => exact mirrors_pure []
  | cons a as ih =>
    rw [List.mapM_cons, List.mapM_cons]
    exact mirrors_bind (h a) fun b => mirrors_bind ih fun bs => mirrors_pure (b :: bs)

theorem run_between (enter leave : Nesting → Nesting) (x : Interp α) (s : Interpreter) :
    (between enter leave x).run s =
      let (out, after) := x.run { s with toNesting := enter s.toNesting }
      (out, { after with toNesting := leave after.toNesting }) := rfl

/-- What is entered and left again does not show, whether or not `x` fails. -/
theorem mirrors_between {enter leave : Nesting → Nesting} (hleave : leave (enter n) = n)
    {x : Interp α} {y : Eval α} (h : Mirrors (enter n) x y) :
    Mirrors n (between enter leave x) y := by
  intro root
  rw [run_between, h root]
  simp only [hleave]

theorem mirrors_offer (g : Factory) (r : Rule) :
    Mirrors n (offer (.factory g) (.rule r)) (n.frame.offer r) := by
  intro root
  show (Except.ok (), Interpreter.offered ⟨n, root⟩ r) = _
  unfold Interpreter.offered Frame.offer
  cases hn : n.mayRoot <;> cases root <;> simp [Nesting.frame, hn]

/-- What a call comes to is not offered if no factory was called. -/
theorem mirrors_unoffered {callee : Value} (h : ∀ g, callee ≠ .factory g) {x : Interp Value}
    {y : Eval Value} (hx : Mirrors n x y) :
    Mirrors n
      (do
        let result ← x
        offer callee result
        return result) y := by
  rw [← bind_pure y]
  refine mirrors_bind hx fun result root => ?_
  cases callee with
  | factory g => exact absurd rfl (h g)
  | _ => rfl

end Interp

namespace Interpreter

/-! ## One step -/

section
variable {registered : String → Bool} {eval : Scope → Expr → Interp Value}
  {eval' : Frame → Scope → Expr → Eval Value} {n : Nesting}
  (heval : ∀ m scope e, m.evalDepth = n.evalDepth →
    Interp.Mirrors m (eval scope e) (eval' m.frame scope e))
include heval

theorem callLambda_mirrors (l : Lambda) (arg : Option Value) :
    Interp.Mirrors n (callLambda eval l arg) (Rulebook.callLambda eval' n.frame l arg) := by
  refine Interp.mirrors_get fun root => ?_
  unfold Rulebook.callLambda
  by_cases h : maxLambdas ≤ n.lambdaDepth
  · have hlambdas : n.frame.lambdas = 0 := Nat.sub_eq_zero_of_le h
    rw [if_pos h, hlambdas]
    exact Interp.mirrors_fail _ _
  · have hlambdas : n.frame.lambdas = maxLambdas - (n.lambdaDepth + 1) + 1 := by
      simp only [Nesting.frame]
      omega
    have hbody := heval n.enterLambda (l.bindArg arg) l.body rfl
    rw [n.frame_enterLambda] at hbody
    rw [if_neg h, hlambdas]
    exact Interp.mirrors_between rfl hbody

theorem call_mirrors (pos : Position) (callee : Value) (args : List Value) :
    Interp.Mirrors n
      (do
        let result ← callValue eval pos callee args
        Interp.offer callee result
        return result)
      (Rulebook.callValue eval' n.frame pos callee args) := by
  cases callee with
  | factory g =>
    -- `evalAt` offers the rule as it is built, an interpreter when the call is over.
    unfold callValue Rulebook.callValue
    dsimp only
    rw [bind_assoc]
    refine Interp.mirrors_bind (Interp.mirrors_ofExcept _) fun r => ?_
    rw [pure_bind]
    exact Interp.mirrors_bind (Interp.mirrors_offer g r) fun _ => Interp.mirrors_pure _
  | lambda l =>
    refine Interp.mirrors_unoffered (by simp) ?_
    unfold callValue Rulebook.callValue
    dsimp only
    obtain _ | ⟨arg, _ | ⟨_, _⟩⟩ := args
    · exact callLambda_mirrors heval l none
    · exact callLambda_mirrors heval l (some arg)
    · exact Interp.mirrors_fail _ _
  | _ => exact Interp.mirrors_fail _ _

theorem evalExpr_mirrors (scope : Scope) (e : Expr) :
    Interp.Mirrors n (evalExpr registered eval scope e)
      (Rulebook.evalStep registered eval' n.frame scope e) := by
  cases e with
  | null | bool | number | string | lambda => exact Interp.mirrors_pure _
  | regex pos pattern flags =>
    simp only [evalExpr, Rulebook.evalStep]
    cases Regex.compile pattern flags
    · exact Interp.mirrors_fail _ _
    · exact Interp.mirrors_pure _
  | ident pos name =>
    simp only [evalExpr, Rulebook.evalStep]
    cases lookup registered scope name
    · exact Interp.mirrors_fail _ _
    · exact Interp.mirrors_pure _
  | array pos items =>
    refine Interp.mirrors_bind (Interp.mirrors_mapM items fun e => heval n scope e rfl) fun vs => ?_
    exact Interp.mirrors_pure _
  | object pos entries =>
    refine Interp.mirrors_bind (Interp.mirrors_mapM entries fun e => ?_) fun vs => Interp.mirrors_pure _
    exact Interp.mirrors_bind (heval n scope e.2 rfl) fun v => Interp.mirrors_pure _
  | call pos callee args =>
    refine Interp.mirrors_bind (heval n scope callee rfl) fun callee => ?_
    -- The counter of arguments stands for the frame in which no rule may become the root.
    refine Interp.mirrors_bind (Interp.mirrors_between rfl ?_) fun args => call_mirrors heval pos callee args
    rw [← n.frame_enterArguments]
    exact Interp.mirrors_mapM args fun e => heval n.enterArguments scope e rfl
  | member pos object name =>
    exact Interp.mirrors_bind (heval n scope object rfl) fun v => Interp.mirrors_ofExcept _
  | index pos object subscript =>
    refine Interp.mirrors_bind (heval n scope object rfl) fun v => ?_
    exact Interp.mirrors_bind (heval n scope subscript rfl) fun i => Interp.mirrors_ofExcept _
  | neg pos operand =>
    refine Interp.mirrors_bind (heval n scope operand rfl) fun v => ?_
    cases v with
    | number => exact Interp.mirrors_pure _
    | _ => exact Interp.mirrors_fail _ _

end

section
variable {registered : String → Bool} {n : Nesting}

theorem evalStep_mirrors {eval : Scope → Expr → Interp Value}
    (heval : ∀ m scope e, m.evalDepth = n.evalDepth + 1 → Interp.Mirrors m (eval scope e)
      (evalAt registered (maxEvals - (n.evalDepth + 1)) m.frame scope e)) (scope : Scope) (e : Expr) :
    Interp.Mirrors n (evalStep registered eval scope e)
      (evalAt registered (maxEvals - n.evalDepth) n.frame scope e) := by
  refine Interp.mirrors_get fun root => ?_
  by_cases h : maxEvals ≤ n.evalDepth
  · rw [if_pos h, Nat.sub_eq_zero_of_le h]
    exact Interp.mirrors_fail _ _
  · have hleft : maxEvals - n.evalDepth = maxEvals - (n.evalDepth + 1) + 1 := by omega
    have hform : Interp.Mirrors n.enterEval (evalExpr registered eval scope e)
        (Rulebook.evalStep registered (evalAt registered _) n.frame scope e) :=
      evalExpr_mirrors (n := n.enterEval) heval scope e
    rw [if_neg h, hleft]
    exact Interp.mirrors_between rfl hform

/-! ## Whole evaluations -/

/-- The rounds do not show where the counter allows no more evaluations than there are rounds. -/
theorem evalWithin_mirrors {rounds : Nat} (h : maxEvals ≤ n.evalDepth + rounds) (scope : Scope)
    (e : Expr) :
    Interp.Mirrors n (evalWithin registered rounds scope e)
      (evalAt registered (maxEvals - n.evalDepth) n.frame scope e) := by
  induction rounds generalizing n scope e with
  | zero =>
    have hleft : maxEvals - n.evalDepth = 0 := Nat.sub_eq_zero_of_le h
    rw [hleft]
    exact Interp.mirrors_fail _ _
  | succ rounds ih =>
    refine evalStep_mirrors (fun m scope e hm => ?_) scope e
    rw [← hm]
    exact ih (by omega) scope e

theorem eval_mirrors (n : Nesting) (scope : Scope) (e : Expr) :
    Interp.Mirrors n (eval registered scope e)
      (evalAt registered (maxEvals - n.evalDepth) n.frame scope e) :=
  evalWithin_mirrors (Nat.le_add_left ..) scope e

/-- Evaluation is a step that evaluates the expressions inside in the same way. -/
theorem eval_eq_evalStep (scope : Scope) (e : Expr) :
    eval registered scope e = evalStep registered (eval registered) scope e := by
  funext ⟨n, root⟩
  have hstep : Interp.Mirrors n (evalStep registered (eval registered) scope e) _ :=
    evalStep_mirrors (fun m scope e hm => hm ▸ eval_mirrors m scope e) scope e
  exact (eval_mirrors n scope e root).trans (hstep root).symm

end

/-- An evaluation that ends with a value ends with it also where less is nested. However it ends, what is
nested is as before, and so is a root that was there. -/
theorem counters_only_fail (registered : String → Bool) (scope : Scope) (e : Expr) :
    (∀ s t : Interpreter, t.evalDepth ≤ s.evalDepth → t.lambdaDepth ≤ s.lambdaDepth →
      ∀ v, ((eval registered scope e).run s).1 = .ok v → ((eval registered scope e).run t).1 = .ok v) ∧
    ∀ s : Interpreter, ((eval registered scope e).run s).2.toNesting = s.toNesting ∧
      ∀ r, s.root = some r → ((eval registered scope e).run s).2.root = some r := by
  constructor
  · -- The budget that the counters of `t` leave is no smaller than that of `s`.
    rintro ⟨n, root⟩ ⟨m, root'⟩ hevals hlambdas v hv
    rw [eval_mirrors n scope e root] at hv
    rw [eval_mirrors m scope e root']
    have hleft : maxEvals - n.evalDepth ≤ maxEvals - m.evalDepth := Nat.sub_le_sub_left hevals _
    have hframe : n.frame.lambdas ≤ m.frame.lambdas := Nat.sub_le_sub_left hlambdas _
    obtain ⟨after, hafter⟩ := evalAt_refines hleft hframe scope e root root' v _ (Prod.ext hv rfl)
    rw [hafter]
  · rintro ⟨n, root⟩
    rw [eval_mirrors n scope e root]
    refine ⟨rfl, ?_⟩
    rintro r rfl
    exact evalAt_leaves _ (fun _ => rfl) scope e

/-- `(x) => x()` with the name `f`. -/
def applyingScope : Scope :=
  [("f", .lambda (.mk (some "x") (.call default (.ident default "x") []) []))]

/-- `f(Bool)` -/
def applyingCall : Expr := .call default (.ident default "f") [.ident default "Bool"]

/-- In two lists of arguments, with room for three evaluations and one call of a lambda. -/
def nearlyFull : Interpreter := ⟨⟨253, 63, 2, true⟩, none⟩

/-- With a root, and with no room for the call of a lambda. -/
def full : Interpreter := ⟨⟨253, 64, 2, true⟩, some (.literal .null)⟩

theorem counters_only_fail_full :
    start.evalDepth ≤ nearlyFull.evalDepth ∧ start.lambdaDepth ≤ nearlyFull.lambdaDepth ∧
      ((eval (fun _ => false) applyingScope applyingCall).run nearlyFull).1 = .ok (.rule .bool) ∧
      ((eval (fun _ => false) applyingScope applyingCall).run start).1 = .ok (.rule .bool) ∧
      ((eval (fun _ => false) applyingScope applyingCall).run full).1 = .error ⟨.lambdaDepth, default⟩ ∧
      ((eval (fun _ => false) applyingScope applyingCall).run full).2.toNesting = full.toNesting ∧
      ((eval (fun _ => false) applyingScope applyingCall).run full).2.root = some (.literal .null) := by
  obtain ⟨hless, hafter⟩ := counters_only_fail (fun _ => false) applyingScope applyingCall
  have hvalue : ((eval (fun _ => false) applyingScope applyingCall).run nearlyFull).1 =
      .ok (.rule .bool) := rfl
  obtain ⟨hnesting, hroot⟩ := hafter full
  exact ⟨by decide, by decide, hvalue, hless nearlyFull start (by decide) (by decide) _ hvalue, rfl,
    hnesting, hroot _ rfl⟩

/-! ## Programs and lambda groups -/

section
variable {registered : String → Bool}

theorem eval_mirrors_start (capturing : Bool) (scope : Scope) (e : Expr) :
    Interp.Mirrors (Nesting.start.capture capturing) (eval registered scope e)
      (evalAt registered maxEvals (.start capturing) scope e) := by
  rw [← Nesting.frame_start]
  exact eval_mirrors (Nesting.start.capture capturing) scope e

/-- A lambda is called for its group as by an interpreter that starts. -/
theorem callLambda_mirrors_start (l : Lambda) (arg : Option Value) :
    Interp.Mirrors .start (callLambda (eval registered) l arg)
      (Rulebook.callLambda (evalAt registered maxEvals) (.start false) l arg) := by
  rw [← Nesting.frame_start]
  refine callLambda_mirrors (n := .start) (fun m scope e hm => ?_) l arg
  have hbody : Interp.Mirrors m (eval registered scope e)
      (evalAt registered (maxEvals - m.evalDepth) m.frame scope e) := eval_mirrors m scope e
  rwa [hm] at hbody

theorem rootAfter_eval (capturing before : Bool) (scope : Scope) (e : Expr) (f : Value → Interp Unit)
    (root : Option Rule) :
    Interp.rootAfter
        (do
          Interp.nest (.capture capturing)
          let v ← eval registered scope e
          f v)
        ⟨Nesting.start.capture before, root⟩ =
      match (evalAt registered maxEvals (.start capturing) scope e).run root with
      | (.ok v, root) => Interp.rootAfter (f v) ⟨Nesting.start.capture capturing, root⟩
      | (.error e, _) => .error e := by
  show Interp.rootAfter (eval registered scope e >>= f) ⟨Nesting.start.capture capturing, root⟩ = _
  unfold Interp.rootAfter
  rw [Eval.run_bind, eval_mirrors_start capturing scope e root]
  generalize (evalAt registered maxEvals (.start capturing) scope e).run root = out
  obtain ⟨_ | v, after⟩ := out <;> rfl

theorem rootAfter_runStmts (p : List Stmt) (scope : Scope) (capturing : Bool) (root : Option Rule) :
    Interp.rootAfter (runStmts registered p scope) ⟨Nesting.start.capture capturing, root⟩ =
      Rulebook.runStmts registered p scope root := by
  induction p generalizing scope capturing root with
  | nil => rfl
  | cons stmt rest ih =>
    cases stmt with
    | bind pos name value =>
      unfold runStmts Rulebook.runStmts
      split
      · rfl
      rw [rootAfter_eval]
      generalize (evalAt registered maxEvals (.start false) scope value).run root = out
      obtain ⟨_ | v, after⟩ := out
      · rfl
      · exact ih ((name, v) :: scope) false after
    | expr e =>
      unfold runStmts Rulebook.runStmts
      rw [rootAfter_eval]
      generalize (evalAt registered maxEvals (.start true) scope e).run root = out
      obtain ⟨_ | v, after⟩ := out
      · rfl
      · exact ih scope false after

/-- A program has one root, whether what is nested is counted or it is told what may still be nested. -/
theorem run_eq_root (p : Program) : run registered p = p.root registered := by
  have hstmts : Interp.rootAfter (runStmts registered p []) start = Rulebook.runStmts registered p [] none :=
    rootAfter_runStmts p [] false none
  unfold run Program.root
  generalize Interp.rootAfter (runStmts registered p []) start = outcome at hstmts ⊢
  subst hstmts
  rfl

end

end Interpreter

end Rulebook
