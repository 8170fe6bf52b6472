import Rulebook.Eval.Expr

/-!
# What a value does not depend on

An evaluation that ends with a value ends with it also if more evaluations and lambda calls may be nested,
whatever the root is and whether or not one may be made. So an expression has one value in a scope. The root
is left alone wherever there is one or none may be made.
-/

namespace Rulebook

namespace Eval

variable {α β : Type}

theorem run_bind_ok {x : Eval α} {f : α → Eval β} {root after : Option Rule} {b : β} :
    (x >>= f).run root = (.ok b, after) ↔
      ∃ a mid, x.run root = (.ok a, mid) ∧ (f a).run mid = (.ok b, after) := by
  rw [run_bind]
  generalize x.run root = out
  obtain ⟨_ | a, mid⟩ := out
  · constructor
    · rintro ⟨⟩
    · rintro ⟨_, _, ⟨⟩, _⟩
  · constructor
    · intro h
      exact ⟨a, mid, rfl, h⟩
    · rintro ⟨_, _, ⟨⟩, h⟩
      exact h

/-! ## Relations of evaluations -/

/-- A relation of evaluations that goes through whatever they are put together with. -/
structure Congruence (S : ∀ α : Type, Eval α → Eval α → Prop) : Prop where
  ofExcept : ∀ {α : Type} (x : Except EvalError α), S α (ofExcept x) (ofExcept x)
  bind : ∀ {α β : Type} {x y : Eval α} {f g : α → Eval β},
    S α x y → (∀ a, S β (f a) (g a)) → S β (x >>= f) (y >>= g)

namespace Congruence

variable {S : ∀ α : Type, Eval α → Eval α → Prop} (h : Congruence S)
include h

theorem pure (a : α) : S α (pure a) (pure a) := h.ofExcept (.ok a)

theorem fail (fault : EvalFault) (pos : Position) : S α (fail fault pos) (fail fault pos) :=
  h.ofExcept (.error ⟨fault, pos⟩)

theorem mapM {f g : α → Eval β} (as : List α) (hf : ∀ a, S β (f a) (g a)) :
    S (List β) (as.mapM f) (as.mapM g) := by
  induction as with
  | nil => exact h.pure []
  | cons a as ih =>
    rw [List.mapM_cons, List.mapM_cons]
    exact h.bind (hf a) fun b => h.bind ih fun bs => h.pure (b :: bs)

end Congruence

/-! ## More evaluations -/

/-- A value that `x` may end with is the one that `y` always ends with. -/
def Refines (x y : Eval α) : Prop :=
  ∀ root root' a after, x.run root = (.ok a, after) → ∃ after', y.run root' = (.ok a, after')

theorem refines_fail {fault : EvalFault} {pos : Position} {y : Eval α} :
    Refines (fail fault pos) y := by
  rintro _ _ _ _ ⟨⟩

theorem refines_offer (f f' : Frame) (r : Rule) : Refines (f.offer r) (f'.offer r) := by
  rintro root root' ⟨⟩ _ -
  cases h : f'.capturing with
  | true => exact ⟨root'.or (some r), by simp [Frame.offer, h]⟩
  | false => exact ⟨root', by simp [Frame.offer, h]⟩

theorem congruence_refines : Congruence fun _ => Refines where
  ofExcept x := by
    rintro root root' _ _ ⟨⟩
    exact ⟨root', rfl⟩
  bind {_ _ x y f g} h hf := by
    intro root root' b after hb
    obtain ⟨a, mid, ha, hb⟩ := run_bind_ok.1 hb
    obtain ⟨mid', ha'⟩ := h root root' a mid ha
    obtain ⟨after', hb'⟩ := hf a mid mid' b after hb
    exact ⟨after', run_bind_ok.2 ⟨a, mid', ha', hb'⟩⟩

/-! ## Untouched roots -/

section
variable {root : Option Rule}

/-- Whatever the end, this root is left as it is. -/
def Leaves (root : Option Rule) (x : Eval α) : Prop := (x.run root).2 = root

theorem leaves_fail (fault : EvalFault) (pos : Position) : Leaves root (fail fault pos : Eval α) := rfl

theorem leaves_offer {f : Frame} (h : f.capturing = true → root.isSome) (r : Rule) :
    Leaves root (f.offer r) := by
  unfold Frame.offer
  split
  · rename_i hf
    obtain ⟨old, rfl⟩ := Option.isSome_iff_exists.1 (h hf)
    rfl
  · rfl

theorem leaves_bind {x : Eval α} {f : α → Eval β} (h : Leaves root x) (hf : ∀ a, Leaves root (f a)) :
    Leaves root (x >>= f) := by
  unfold Leaves at h ⊢
  rw [run_bind]
  generalize x.run root = out at h ⊢
  obtain ⟨_ | a, mid⟩ := out
  · exact h
  · obtain rfl : mid = root := h
    exact hf a

/-- Of one evaluation: the second is not looked at. -/
theorem congruence_leaves (root : Option Rule) : Congruence fun _ x _ => Leaves root x where
  ofExcept _ := rfl
  bind := leaves_bind

end

/-- Whatever the end, the root is the one from before. -/
def Quiet (x : Eval α) : Prop := ∀ root, (x.run root).2 = root

theorem quiet_pure (a : α) : Quiet (pure a) := fun _ => rfl

theorem quiet_fail (fault : EvalFault) (pos : Position) : Quiet (fail fault pos : Eval α) :=
  fun _ => rfl

theorem quiet_ofExcept (x : Except EvalError α) : Quiet (ofExcept x) := fun _ => rfl

theorem quiet_bind {x : Eval α} {f : α → Eval β} (h : Quiet x) (hf : ∀ a, Quiet (f a)) :
    Quiet (x >>= f) := fun root => leaves_bind (h root) fun a => hf a root

theorem quiet_mapM {f : α → Eval β} (as : List α) (h : ∀ a, Quiet (f a)) : Quiet (as.mapM f) :=
  fun root => (congruence_leaves root).mapM (g := f) as fun a => h a root

theorem Quiet.run {x : Eval α} (h : Quiet x) {root after : Option Rule} {a : α}
    (hx : x.run root = (.ok a, after)) : after = root := by
  rw [← h root, hx]

end Eval

/-! ## One step -/

section
variable {registered : String → Bool} {eval eval' : Frame → Scope → Expr → Eval Value}

section
variable {S : ∀ α : Type, Eval α → Eval α → Prop} (hS : Eval.Congruence S) {f f' : Frame}
  (hlambda : ∀ l arg, S Value (callLambda eval f l arg) (callLambda eval' f' l arg))
include hS hlambda

/-- Calls of a value are related if those of a lambda are, and what is offered when a factory is called. -/
theorem callValue_related (pos : Position) {callee : Value} (args : List Value)
    (hoffer : ∀ g, callee = .factory g → ∀ r, S Unit (f.offer r) (f'.offer r)) :
    S Value (callValue eval f pos callee args) (callValue eval' f' pos callee args) := by
  unfold callValue
  split
  · rename_i g
    refine hS.bind (hS.ofExcept _) fun r => ?_
    exact hS.bind (hoffer g rfl r) fun _ => hS.pure _
  · split
    · exact hlambda _ _
    · exact hlambda _ _
    · exact hS.fail _ _
  · exact hS.fail _ _

/-- Steps are related if the evaluations inside are, in arguments too. -/
theorem evalStep_related (hoffer : ∀ r, S Unit (f.offer r) (f'.offer r))
    (hhere : ∀ scope e, S Value (eval f scope e) (eval' f' scope e))
    (hargs : ∀ scope e, S Value (eval f.inArguments scope e) (eval' f'.inArguments scope e))
    (scope : Scope) (e : Expr) :
    S Value (evalStep registered eval f scope e) (evalStep registered eval' f' scope e) := by
  cases e with
  | null | bool | number | string | lambda => exact hS.pure _
  | regex =>
    simp only [evalStep]
    split
    · exact hS.pure _
    · exact hS.fail _ _
  | ident =>
    simp only [evalStep]
    split
    · exact hS.pure _
    · exact hS.fail _ _
  | array pos items => exact hS.bind (hS.mapM items fun e => hhere scope e) fun vs => hS.pure _
  | object pos entries =>
    refine hS.bind (hS.mapM entries fun e => ?_) fun vs => hS.pure _
    exact hS.bind (hhere scope e.2) fun v => hS.pure _
  | call pos callee args =>
    refine hS.bind (hhere scope callee) fun callee => ?_
    refine hS.bind (hS.mapM args fun e => hargs scope e) fun args => ?_
    exact callValue_related hS hlambda pos args fun _ _ => hoffer
  | member pos object name => exact hS.bind (hhere scope object) fun v => hS.ofExcept _
  | index pos object subscript =>
    refine hS.bind (hhere scope object) fun v => ?_
    exact hS.bind (hhere scope subscript) fun i => hS.ofExcept _
  | neg pos operand =>
    refine hS.bind (hhere scope operand) fun v => ?_
    split
    · exact hS.pure _
    · exact hS.fail _ _

end

theorem callLambda_refines
    (heval : ∀ f f' scope e, f.lambdas ≤ f'.lambdas → (eval f scope e).Refines (eval' f' scope e))
    {f f' : Frame} (hf : f.lambdas ≤ f'.lambdas) (l : Lambda) (arg : Option Value) :
    (callLambda eval f l arg).Refines (callLambda eval' f' l arg) := by
  unfold callLambda
  cases hn : f.lambdas with
  | zero => exact Eval.refines_fail
  | succ n =>
    obtain ⟨m, hm⟩ : ∃ m, f'.lambdas = m + 1 := Nat.exists_eq_add_one.2 (by omega)
    rw [hm]
    exact heval _ _ _ _ (show n ≤ m by omega)

theorem evalStep_refines
    (heval : ∀ f f' scope e, f.lambdas ≤ f'.lambdas → (eval f scope e).Refines (eval' f' scope e))
    {f f' : Frame} (hf : f.lambdas ≤ f'.lambdas) (scope : Scope) (e : Expr) :
    (evalStep registered eval f scope e).Refines (evalStep registered eval' f' scope e) :=
  evalStep_related Eval.congruence_refines (callLambda_refines heval hf) (Eval.refines_offer f f')
    (fun scope e => heval f f' scope e hf) (fun scope e => heval _ _ scope e hf) scope e

section
variable {root : Option Rule}
  (heval : ∀ f scope e, (f.capturing = true → root.isSome) → Eval.Leaves root (eval f scope e))
include heval

theorem callLambda_leaves (f : Frame) (l : Lambda) (arg : Option Value) :
    Eval.Leaves root (callLambda eval f l arg) := by
  unfold callLambda
  split
  · exact Eval.leaves_fail _ _
  · exact heval _ _ _ (by simp)

/-- A call leaves the root alone if there is one or none may be made, or if what is called is a lambda. -/
theorem callValue_leaves {f : Frame} (pos : Position) {callee : Value} (args : List Value)
    (h : (f.capturing = true → root.isSome) ∨ ∀ g, callee ≠ .factory g) :
    Eval.Leaves root (callValue eval f pos callee args) := by
  refine @callValue_related eval eval _ (Eval.congruence_leaves root) f f (callLambda_leaves heval f)
    pos callee args fun g hg r => ?_
  exact Eval.leaves_offer (h.resolve_right fun hne => hne g hg) r

theorem evalStep_leaves {f : Frame} (hf : f.capturing = true → root.isSome) (scope : Scope) (e : Expr) :
    Eval.Leaves root (evalStep registered eval f scope e) := by
  refine @evalStep_related registered eval eval _ (Eval.congruence_leaves root) f f
    (callLambda_leaves heval f) (Eval.leaves_offer hf) (fun scope e => heval f scope e hf) ?_ scope e
  exact fun scope e => heval _ scope e (by simp [Frame.inArguments])

end

/-! ## Whole evaluations -/

theorem evalAt_refines {left left' : Nat} (hle : left ≤ left') {f f' : Frame}
    (hf : f.lambdas ≤ f'.lambdas) (scope : Scope) (e : Expr) :
    (evalAt registered left f scope e).Refines (evalAt registered left' f' scope e) := by
  induction left generalizing left' f f' scope e with
  | zero => exact Eval.refines_fail
  | succ left ih =>
    obtain _ | left' := left'
    · omega
    · exact evalStep_refines (fun _ _ scope e h => ih (by omega) h scope e) hf scope e

/-- However much may be nested in them, two evaluations of an expression in a scope do not end with two
values. -/
theorem evalAt_unique {left left' : Nat} {f f' : Frame} {scope : Scope} {e : Expr}
    {root root' after after' : Option Rule} {v v' : Value}
    (h : (evalAt registered left f scope e).run root = (.ok v, after))
    (h' : (evalAt registered left' f' scope e).run root' = (.ok v', after')) : v = v' := by
  let roomy : Frame := ⟨max f.lambdas f'.lambdas, false⟩
  have hf : f.lambdas ≤ roomy.lambdas := Nat.le_max_left ..
  have hf' : f'.lambdas ≤ roomy.lambdas := Nat.le_max_right ..
  obtain ⟨_, hv⟩ := evalAt_refines (Nat.le_max_left left left') hf scope e root none v after h
  obtain ⟨_, hv'⟩ := evalAt_refines (Nat.le_max_right left left') hf' scope e root' none v' after' h'
  simpa using congrArg Prod.fst (hv.symm.trans hv')

/-- A root is never replaced, and none is made where none may be made. -/
theorem evalAt_leaves (left : Nat) {f : Frame} {root : Option Rule}
    (hf : f.capturing = true → root.isSome) (scope : Scope) (e : Expr) :
    Eval.Leaves root (evalAt registered left f scope e) := by
  induction left generalizing f scope e with
  | zero => exact Eval.leaves_fail _ _
  | succ left ih => exact evalStep_leaves (fun _ scope e h => ih h scope e) hf scope e

theorem evalAt_quiet (left : Nat) {f : Frame} (hf : f.capturing = false) (scope : Scope) (e : Expr) :
    (evalAt registered left f scope e).Quiet :=
  fun _ => evalAt_leaves left (by simp [hf]) scope e

theorem callValue_quiet (left : Nat) (f : Frame) (pos : Position) {callee : Value} (args : List Value)
    (h : ∀ g, callee ≠ .factory g) : (callValue (evalAt registered left) f pos callee args).Quiet :=
  fun _ => callValue_leaves (fun _ scope e hf => evalAt_leaves left hf scope e) pos args (.inr h)

end

/-- The value of an expression in the scope of a statement. -/
def valueOf (registered : String → Bool) (scope : Scope) (e : Expr) : Except EvalError Value :=
  ((evalAt registered maxEvals (.start false) scope e).run none).1

/-- An evaluation inside of a statement, not in a lambda, ends with the value of the expression. -/
theorem valueOf_eq {registered : String → Bool} {left : Nat} (hleft : left ≤ maxEvals)
    {capturing : Bool} {scope : Scope} {e : Expr} {root after : Option Rule} {v : Value}
    (h : (evalAt registered left (.start capturing) scope e).run root = (.ok v, after)) :
    valueOf registered scope e = .ok v := by
  have hrefines : (evalAt registered left (.start capturing) scope e).Refines
      (evalAt registered maxEvals (.start false) scope e) :=
    evalAt_refines hleft (Nat.le_refl maxLambdas) scope e
  obtain ⟨after', hv⟩ := hrefines root none v after h
  rw [valueOf, hv]

end Rulebook
