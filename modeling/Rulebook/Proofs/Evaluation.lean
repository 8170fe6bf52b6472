import Rulebook.Eval.Program
import Rulebook.Proofs.Factories
import Rulebook.Proofs.SyntaxTrees

/-!
# What evaluation keeps

A value is made of the values in scope and of what a call makes of its arguments, and an evaluation
stops at an expression of the text. So what holds of the text that is evaluated, and passes from values to
what is made of them, holds of whatever the text evaluates to and of whatever rules its lambdas build
later. A vocabulary is kept in this way if the kinds that a text may call are of it.
-/

namespace Rulebook

/-! ## Computations -/

namespace Eval

variable {α β : Type} {Q : EvalError → Prop} {R : Rule → Prop} {P : α → Prop} {P' : β → Prop}

/-- Every value that an evaluation ends with is as `P` says, every error as `Q` says, and every root as
`R` says if it was before. -/
def Ends (Q : EvalError → Prop) (R : Rule → Prop) (P : α → Prop) (x : Eval α) : Prop :=
  ∀ root : Option Rule, (∀ r ∈ root, R r) → Yields Q P (x.run root).1 ∧ ∀ r ∈ (x.run root).2, R r

/-- Every value that an evaluation ends with is as `P` says, and every root as `R` says if it was before. -/
abbrev Keeps (R : Rule → Prop) (P : α → Prop) (x : Eval α) : Prop := Ends (fun _ => True) R P x

theorem Ends.mono {P₁ : α → Prop} {x : Eval α} (hx : Ends Q R P x) (h : ∀ a, P a → P₁ a) :
    Ends Q R P₁ x := by
  intro root hroot
  obtain ⟨hvalue, hafter⟩ := hx root hroot
  refine ⟨?_, hafter⟩
  generalize (x.run root).1 = out at hvalue
  cases out with
  | ok a => exact h a hvalue
  | error e => exact hvalue

theorem ends_pure {a : α} (h : P a) : Ends Q R P (pure a) := fun _ hroot => ⟨h, hroot⟩

theorem ends_fail {fault : EvalFault} {pos : Position} (h : Q ⟨fault, pos⟩) :
    Ends Q R P (fail fault pos) := fun _ hroot => ⟨h, hroot⟩

theorem ends_ofExcept {x : Except EvalError α} (h : Yields Q P x) : Ends Q R P (ofExcept x) :=
  fun _ hroot => ⟨h, hroot⟩

theorem ends_offerRoot {r : Rule} (h : R r) : Ends Q R (fun _ => True) (offerRoot r) := by
  intro root hroot
  refine ⟨trivial, ?_⟩
  rintro r' hr'
  rw [run_offerRoot] at hr'
  rcases Option.or_eq_some_iff.1 hr' with hold | ⟨-, hnew⟩
  · exact hroot r' hold
  · cases hnew
    exact h

theorem ends_offer (f : Frame) {r : Rule} (h : R r) : Ends Q R (fun _ => True) (f.offer r) := by
  unfold Frame.offer
  split
  · exact ends_offerRoot h
  · exact ends_pure trivial

theorem ends_bind {x : Eval α} {f : α → Eval β} (hx : Ends Q R P x)
    (hf : ∀ a, P a → Ends Q R P' (f a)) : Ends Q R P' (x >>= f) := by
  intro root hroot
  obtain ⟨hvalue, hafter⟩ := hx root hroot
  rw [run_bind]
  generalize x.run root = out at hvalue hafter ⊢
  obtain ⟨e | a, after⟩ := out
  · exact ⟨hvalue, hafter⟩
  · exact hf a hvalue after hafter

theorem ends_mapM {f : α → Eval β} {as : List α} (h : ∀ a ∈ as, Ends Q R P' (f a)) :
    Ends Q R (fun bs => ∀ b ∈ bs, P' b) (as.mapM f) := by
  induction as with
  | nil => exact ends_pure (by simp)
  | cons a as ih =>
    rw [List.mapM_cons]
    refine ends_bind (h a List.mem_cons_self) fun b hb => ?_
    refine ends_bind (ih fun c hc => h c (List.mem_cons_of_mem a hc)) fun bs hbs => ?_
    exact ends_pure (List.forall_mem_cons.2 ⟨hb, hbs⟩)

end Eval

theorem yields_placed {α : Type} {Q : EvalError → Prop} {P : α → Prop} {pos : Position}
    {x : Except EvalFault α} (h : Yields (fun fault => Q ⟨fault, pos⟩) P x) :
    Yields Q P (placed pos x) := by
  cases x <;> exact h

/-! ## Properties that are kept -/

/-- A value that holds no others and is no registered kind. -/
def Value.IsPlain : Value → Prop
  | .null | .bool _ | .number _ | .string _ | .regex _ | .factory (.builtin _) | .space _ => True
  | .array _ | .object _ | .rule _ | .factory (.custom _) | .lambda _ => False

/-- Properties of values, of rules, of texts and of errors that evaluation keeps. -/
structure Kept (registered : String → Bool) (V : Value → Prop) (R : Rule → Prop) (T : Expr → Prop)
    (Q : EvalError → Prop) : Prop where
  inherits : Inherits V R
  plain : ∀ {v}, v.IsPlain → V v
  rule : ∀ {r}, R r → V (.rule r)
  array : ∀ {vs}, (∀ v ∈ vs, V v) → V (.array vs)
  object : ∀ {es}, (∀ e ∈ es, V e.2) → V (.object es)
  lambda : ∀ {param body scope},
    V (.lambda (.mk param body scope)) ↔ T body ∧ ∀ e ∈ scope, V e.2
  build : ∀ {f args}, V (.factory f) → (∀ v ∈ args, V v) → Gives R (Factory.build f args)
  named : ∀ {pos name v}, T (.ident pos name) → global registered name = some v → V v
  part : ∀ {e part}, T e → part ∈ e.parts → T part
  unknown : ∀ {pos name}, T (.ident pos name) → Q ⟨.unknownIdent name, pos⟩
  fault : ∀ {e fault}, T e → (∀ name, fault ≠ .unknownIdent name) → Q ⟨fault, e.pos⟩

theorem Value.member_eq_error {v : Value} {name : String} {fault : EvalFault}
    (h : v.member name = .error fault) : fault = .badMember name v.typeName := by
  unfold Value.member at h
  split at h <;> cases h
  rfl

theorem Value.index_eq_error {v i : Value} {fault : EvalFault} (h : v.index i = .error fault) :
    fault = .badIndex v.typeName i.typeName := by
  unfold Value.index at h
  split at h
  · split at h
    · split at h <;> cases h
      rfl
    · cases h
      rfl
  · cases h
  · cases h
    rfl

namespace Kept

variable {registered : String → Bool} {V : Value → Prop} {R : Rule → Prop} {T : Expr → Prop}
  {Q : EvalError → Prop} (k : Kept registered V R T Q)
include k

theorem null : V .null := k.plain trivial

theorem lookup {scope : Scope} (hscope : ∀ e ∈ scope, V e.2) {pos : Position} {name : String}
    (hname : T (.ident pos name)) {v : Value} (h : Rulebook.lookup registered scope name = some v) :
    V v := by
  rcases Option.or_eq_some_iff.1 h with hbound | ⟨-, hglobal⟩
  · obtain ⟨before, after, rfl, -⟩ := List.lookup_eq_some_iff.1 hbound
    exact hscope (name, v) (by simp)
  · exact k.named hname hglobal

theorem bindArg {l : Lambda} {arg : Option Value} (hl : V (.lambda l)) (harg : ∀ v ∈ arg, V v) :
    ∀ e ∈ l.bindArg arg, V e.2 := by
  obtain ⟨param, body, scope⟩ := l
  have hscope := (k.lambda.1 hl).2
  unfold Lambda.bindArg
  split
  · refine List.forall_mem_cons.2 ⟨?_, hscope⟩
    cases arg with
    | none => exact k.null
    | some v => exact harg v rfl
  · exact hscope

theorem member {v : Value} (hv : V v) {e : Expr} (he : T e) (name : String) :
    Eval.Ends Q R V (Eval.ofExcept (placed e.pos (v.member name))) := by
  have hgives : Gives V (v.member name) :=
    k.inherits.carries.member k.null (fun _ => k.plain trivial) (fun _ => k.plain trivial) hv
  refine Eval.ends_ofExcept (yields_placed ?_)
  cases hm : v.member name with
  | ok a => exact hgives a hm
  | error fault =>
    rw [Value.member_eq_error hm]
    exact k.fault he (by simp)

theorem index {v i : Value} (hv : V v) {e : Expr} (he : T e) :
    Eval.Ends Q R V (Eval.ofExcept (placed e.pos (v.index i))) := by
  have hgives := k.inherits.carries.index k.null (i := i) hv
  refine Eval.ends_ofExcept (yields_placed ?_)
  cases hi : v.index i with
  | ok a => exact hgives a hi
  | error fault =>
    rw [Value.index_eq_error hi]
    exact k.fault he (by simp)

/-! ## Expressions -/

section
variable {eval : Frame → Scope → Expr → Eval Value}
  (heval : ∀ f scope e, (∀ b ∈ scope, V b.2) → T e → Eval.Ends Q R V (eval f scope e))
include heval

theorem callLambda (f : Frame) {l : Lambda} {arg : Option Value} (hl : V (.lambda l))
    (harg : ∀ v ∈ arg, V v) : Eval.Ends Q R V (Rulebook.callLambda eval f l arg) := by
  have hbody : T l.body := by
    obtain ⟨param, body, scope⟩ := l
    exact (k.lambda.1 hl).1
  unfold Rulebook.callLambda
  split
  · exact Eval.ends_fail (k.fault hbody (by simp))
  · exact heval _ _ _ (k.bindArg hl harg) hbody

theorem callValue (f : Frame) {e : Expr} (he : T e) {callee : Value} {args : List Value}
    (hcallee : V callee) (hargs : ∀ v ∈ args, V v) :
    Eval.Ends Q R V (Rulebook.callValue eval f e.pos callee args) := by
  unfold Rulebook.callValue
  split
  · rename_i g
    have hbuild := k.build hcallee hargs
    refine Eval.ends_bind (P := R) (Eval.ends_ofExcept (yields_placed ?_)) fun r hr => ?_
    · cases hg : g.build args with
      | ok r => exact hbuild r hg
      | error fault => exact k.fault he (by simp)
    · exact Eval.ends_bind (Eval.ends_offer f hr) fun _ _ => Eval.ends_pure (k.rule hr)
  · split
    · exact k.callLambda heval f hcallee (by simp)
    · exact k.callLambda heval f hcallee (by simpa using hargs)
    · exact Eval.ends_fail (k.fault he (by simp))
  · exact Eval.ends_fail (k.fault he (by simp))

theorem evalStep (f : Frame) {scope : Scope} (hscope : ∀ b ∈ scope, V b.2) {e : Expr} (he : T e) :
    Eval.Ends Q R V (evalStep registered eval f scope e) := by
  have hpart : ∀ f part, part ∈ e.parts → Eval.Ends Q R V (eval f scope part) :=
    fun f part hp => heval f scope part hscope (k.part he hp)
  cases e with
  | null | bool | number | string => exact Eval.ends_pure (k.plain trivial)
  | regex =>
    simp only [Rulebook.evalStep]
    split
    · exact Eval.ends_pure (k.plain trivial)
    · exact Eval.ends_fail (k.fault he (by simp))
  | ident =>
    simp only [Rulebook.evalStep]
    split
    · rename_i v hv
      exact Eval.ends_pure (k.lookup hscope he hv)
    · exact Eval.ends_fail (k.unknown he)
  | array pos items =>
    exact Eval.ends_bind (Eval.ends_mapM fun e hmem => hpart f e hmem) fun vs hvs =>
      Eval.ends_pure (k.array hvs)
  | object pos entries =>
    refine Eval.ends_bind (P := fun es => ∀ e ∈ es, V e.2) (Eval.ends_mapM fun e hmem => ?_)
      fun es hes => Eval.ends_pure (k.object hes)
    exact Eval.ends_bind (hpart f e.2 (List.mem_map_of_mem hmem)) fun v hv => Eval.ends_pure hv
  | lambda pos param body =>
    exact Eval.ends_pure (k.lambda.2 ⟨k.part he (by simp [Expr.parts]), hscope⟩)
  -- The body of a lambda that is called is no part of the text, but of what the callee evaluates to.
  | call pos callee args =>
    refine Eval.ends_bind (hpart f callee (by simp [Expr.parts])) fun callee hcallee => ?_
    refine Eval.ends_bind (Eval.ends_mapM fun e hmem => hpart _ e (by simp [Expr.parts, hmem]))
      fun args hargs => ?_
    exact k.callValue heval f he hcallee hargs
  | member pos owner name =>
    exact Eval.ends_bind (hpart f owner (by simp [Expr.parts])) fun v hv => k.member hv he name
  | index pos owner subscript =>
    refine Eval.ends_bind (hpart f owner (by simp [Expr.parts])) fun v hv => ?_
    exact Eval.ends_bind (hpart f subscript (by simp [Expr.parts])) fun i _ => k.index hv he
  | neg pos operand =>
    refine Eval.ends_bind (hpart f operand (by simp [Expr.parts])) fun v _ => ?_
    split
    · exact Eval.ends_pure (k.plain trivial)
    · exact Eval.ends_fail (k.fault he (by simp))

end

theorem evalAt (left : Nat) (f : Frame) {scope : Scope} (hscope : ∀ b ∈ scope, V b.2) {e : Expr}
    (he : T e) : Eval.Ends Q R V (evalAt registered left f scope e) := by
  induction left generalizing f scope e with
  | zero => exact Eval.ends_fail (k.fault he (by simp))
  | succ left ih => exact k.evalStep (fun f scope e hs he => ih f hs he) f hscope he

end Kept

/-! ## Programs -/

section
variable {registered : String → Bool} {Q : EvalError → Prop} {R : Rule → Prop}

/-- What holds of the statements that are left and the bindings so far, and is kept by every statement,
lets every root be as `R` says and every error as `Q` says. -/
theorem runStmts_yields {S : Program → Scope → Prop}
    (hbound : ∀ pos name value rest scope, S (.bind pos name value :: rest) scope →
      (global registered name).isSome = true → Q ⟨.rebound name, pos⟩)
    (hbind : ∀ pos name value rest scope, S (.bind pos name value :: rest) scope →
      ¬ (global registered name).isSome = true → Eval.Ends Q R (fun v => S rest ((name, v) :: scope))
        (evalAt registered maxEvals (.start false) scope value))
    (hexpr : ∀ e rest scope, S (.expr e :: rest) scope →
      Eval.Ends Q R (fun _ => S rest scope) (evalAt registered maxEvals (.start true) scope e))
    {p : Program} {scope : Scope} {root : Option Rule} (hp : S p scope) (hroot : ∀ r ∈ root, R r) :
    Yields Q (fun after => ∀ r ∈ after, R r) (runStmts registered p scope root) := by
  induction p generalizing scope root with
  | nil => exact hroot
  | cons stmt rest ih =>
    cases stmt with
    | bind pos name value =>
      unfold runStmts
      split
      · exact hbound pos name value rest scope hp ‹_›
      rename_i hname
      have hvalue := hbind pos name value rest scope hp hname root hroot
      split
      all_goals
        rename_i hrun
        rw [hrun] at hvalue
      · exact ih hvalue.1 hvalue.2
      · exact hvalue.1
    | expr e =>
      have hvalue := hexpr e rest scope hp root hroot
      unfold runStmts
      split
      all_goals
        rename_i hrun
        rw [hrun] at hvalue
      · exact ih hvalue.1 hvalue.2
      · exact hvalue.1

/-- Why a program gives no rule: it does nothing, or it fails as `Q` says. -/
def SpecError.OfEval (Q : EvalError → Prop) (e : SpecError) : Prop :=
  e = .empty ∨ e = .noRoot ∨ ∃ cause, Q cause ∧ e = .ofEval cause

theorem Program.root_yields {p : Program}
    (h : Yields Q (fun after => ∀ r ∈ after, R r) (runStmts registered p [] none)) :
    Yields (SpecError.OfEval Q) R (p.root registered) := by
  unfold Program.root
  split
  · exact .inl rfl
  cases hrun : runStmts registered p [] none with
  | error e =>
    rw [hrun] at h
    exact .inr (.inr ⟨e, h, rfl⟩)
  | ok after =>
    rw [hrun] at h
    cases after with
    | none => exact .inr (.inl rfl)
    | some r => exact h r rfl

end

namespace Kept

variable {registered : String → Bool} {V : Value → Prop} {R : Rule → Prop} {T : Expr → Prop}
  {Q : EvalError → Prop} (k : Kept registered V R T Q)
include k

theorem runStmts {p : Program} (hp : ∀ s ∈ p, T s.body)
    (hbound : ∀ pos name value, .bind pos name value ∈ p → Q ⟨.rebound name, pos⟩) :
    Yields Q (fun after => ∀ r ∈ after, R r) (runStmts registered p [] none) := by
  have hstart : (∀ s ∈ p, s ∈ p) ∧ ∀ b ∈ ([] : Scope), V b.2 := ⟨fun _ h => h, by simp⟩
  refine runStmts_yields
    (S := fun rest scope => (∀ s ∈ rest, s ∈ p) ∧ ∀ b ∈ scope, V b.2) ?_ ?_ ?_ hstart (by simp)
  · rintro pos name value rest scope ⟨hmem, -⟩ -
    exact hbound pos name value (hmem _ List.mem_cons_self)
  · rintro pos name value rest scope ⟨hmem, hscope⟩ -
    have hbody : T value := hp _ (hmem _ List.mem_cons_self)
    refine (k.evalAt maxEvals (.start false) hscope hbody).mono fun v hv => ?_
    exact ⟨(List.forall_mem_cons.1 hmem).2, List.forall_mem_cons.2 ⟨hv, hscope⟩⟩
  · rintro e rest scope ⟨hmem, hscope⟩
    have hbody : T e := hp _ (hmem _ List.mem_cons_self)
    refine (k.evalAt maxEvals (.start true) hscope hbody).mono fun _ _ => ?_
    exact ⟨(List.forall_mem_cons.1 hmem).2, hscope⟩

theorem root {p : Program} (hp : ∀ s ∈ p, T s.body)
    (hbound : ∀ pos name value, .bind pos name value ∈ p → Q ⟨.rebound name, pos⟩) :
    Yields (SpecError.OfEval Q) R (p.root registered) := Program.root_yields (k.runStmts hp hbound)

/-! ## Lambda groups -/

omit k

mutual

theorem ofJson (k : Kept registered V R T Q) : ∀ v : Json, V (Value.ofJson v)
  | .null | .bool _ | .number _ | .string _ => k.plain trivial
  | .array items => k.array (ofItems k items)
  | .object members => k.object (ofMembers k members)

theorem ofItems (k : Kept registered V R T Q) : ∀ items : List Json, ∀ v ∈ Value.ofItems items, V v
  | [] => by simp [Value.ofItems]
  | v :: vs => List.forall_mem_cons.2 ⟨ofJson k v, ofItems k vs⟩

theorem ofMembers (k : Kept registered V R T Q) :
    ∀ members : List (String × Json), ∀ e ∈ Value.ofMembers members, V e.2
  | [] => by simp [Value.ofMembers]
  | (_, v) :: rest => List.forall_mem_cons.2 ⟨ofJson k v, ofMembers k rest⟩

end

include k

theorem snapshot (c : Context) : V c.snapshot := by
  have hpath : V (.array (c.path.map .string)) :=
    k.array (List.forall_mem_map.2 fun _ _ => k.plain trivial)
  have hjson : V (c.json?.elim .null .ofJson) := by
    cases c.json? with
    | none => exact k.null
    | some v => exact k.ofJson v
  have hname : V (c.entry?.elim .null fun p => .string ((Path.fileName p).getD "")) := by
    cases c.entry? <;> exact k.plain trivial
  exact k.object (by simpa [List.forall_mem_cons] using ⟨hpath, k.ofJson c.value, hjson, hname⟩)

theorem groupCall {l : Lambda} (hl : V (.lambda l)) (c : Context) : Eval.Ends Q R V
    (Rulebook.callLambda (Rulebook.evalAt registered maxEvals) (.start false) l (some c.snapshot)) := by
  refine k.callLambda (fun f _ e h he => k.evalAt maxEvals f h he) (.start false) hl ?_
  simpa using k.snapshot c

/-- The rules that a lambda builds are as the values in its scope are, and an error is as those of its body. -/
theorem lambdaRules_yields {l : Lambda} (hl : V (.lambda l)) (kind : String) (c : Context) :
    Yields Q (fun rules => ∀ r ∈ rules, R r) (l.rules registered kind c) := by
  have hbody : T l.body := by
    obtain ⟨param, body, scope⟩ := l
    exact (k.lambda.1 hl).1
  have hcall := (k.groupCall hl c none (by simp)).1
  unfold Lambda.rules
  dsimp only
  split
  all_goals
    rename_i hrun
    rw [hrun] at hcall
  · exact hcall
  refine yields_mapError ?_ fun fault => k.fault hbody (by simp)
  split
  · exact k.inherits.carries.toRules (k.inherits.items hcall)
  · exact gives_map fun rule hrule => by simpa using k.inherits.carries.rule hcall rule hrule

theorem lambdaRules {l : Lambda} (hl : V (.lambda l)) (kind : String) (c : Context) :
    Gives (fun rules => ∀ r ∈ rules, R r) (l.rules registered kind c) :=
  gives_of_yields (k.lambdaRules_yields hl kind c)

end Kept

/-! ## Vocabularies -/

section
variable {w : Vocabulary}

/-- Every kind that may be called by its name is of the vocabulary. -/
def Vocabulary.Covers (w : Vocabulary) (registered : String → Bool) : Prop :=
  ∀ kind, registered kind = true → kind ∉ structuralKinds → w.kinds kind

theorem covers_plain (registered : String → Bool) : Vocabulary.plain.Covers registered :=
  fun _ _ _ => trivial

variable {registered : String → Bool}

theorem global_in (hw : w.Covers registered) {name : String} {v : Value}
    (h : global registered name = some v) : v.In w := by
  unfold global at h
  split at h
  · cases h
    trivial
  · cases h
    trivial
  · split at h
    · cases h
      trivial
    · split at h
      · rename_i hname
        cases h
        simp only [Bool.and_eq_true, Bool.not_eq_true', List.contains_eq_mem,
          decide_eq_false_iff_not] at hname
        exact hw _ hname.1 hname.2
      · cases h

theorem kept_in (hw : w.Covers registered) :
    Kept registered (Value.In w) (Rule.In w) (fun _ => True) (fun _ => True) where
  inherits := inherits_in w
  plain {v} h := by
    unfold Value.IsPlain at h
    split at h <;> trivial
  rule h := h
  array h := (valuesIn_iff w _).2 h
  object h := (entriesIn_iff w _).2 h
  lambda := by simp [Value.In, Lambda.In, entriesIn_iff]
  build hf hargs := Factory.build_in hf ((valuesIn_iff w _).2 hargs)
  named _ h := global_in hw h
  part _ _ := trivial
  unknown _ := trivial
  fault _ _ := trivial

theorem ofText_in (hw : w.Covers registered) (text : String) :
    Gives (Rule.In w) (Rule.ofText registered text) := by
  unfold Rule.ofText
  split
  · exact gives_error
  · exact gives_of_yields ((kept_in hw).root (fun _ _ => trivial) fun _ _ _ _ => trivial)

/-- The rules that a lambda builds are of the vocabulary of its scope. -/
theorem Lambda.rules_in (hw : w.Covers registered) {l : Lambda} (hl : l.In w) (kind : String)
    (c : Context) : Gives (fun rules => ∀ r ∈ rules, r.In w) (l.rules registered kind c) :=
  (kept_in hw).lambdaRules hl kind c

end

end Rulebook
