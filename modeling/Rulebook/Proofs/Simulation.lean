import Rulebook.Eval.Program
import Rulebook.Proofs.Uniform

/-!
# Two evaluations side by side

Two texts of the same form, evaluated in scopes that are related, have values that are related: the same data,
with lambdas that are closures of such texts and rules that are made of them. So the two programs give
related rules or the same error, and so do the lambdas that they leave. The first program may be excused
from this by an error that it fails with.
-/

namespace Rulebook

/-- The first fails with an error that `E` excuses, or the two match. -/
def Matches {ε α β : Type} (E : ε → Prop) (V : α → β → Prop) (x : Except ε α) (y : Except ε β) :
    Prop := (∃ e, x = .error e ∧ E e) ∨ Match V x y

/-! ## Computations -/

namespace Eval

variable {α β α' β' : Type} {E : EvalError → Prop} {R : Rule → Rule → Prop}
  {V : α → β → Prop} {V' : α' → β' → Prop}

/-- From related roots, both evaluations end alike and with related roots, unless the first is excused. -/
def Alike (E : EvalError → Prop) (R : Rule → Rule → Prop) (V : α → β → Prop) (x : Eval α)
    (y : Eval β) : Prop :=
  ∀ root root', Option.Rel R root root' → (∃ e, (x.run root).1 = .error e ∧ E e) ∨
    Match V (x.run root).1 (y.run root').1 ∧ Option.Rel R (x.run root).2 (y.run root').2

theorem alike_pure {a : α} {b : β} (h : V a b) : Alike E R V (pure a) (pure b) :=
  fun _ _ hroot => .inr ⟨h, hroot⟩

theorem alike_fail (fault : EvalFault) (pos : Position) :
    Alike E R V (fail fault pos) (fail fault pos) := fun _ _ hroot => .inr ⟨rfl, hroot⟩

theorem alike_ofExcept {x : Except EvalError α} {y : Except EvalError β} (h : Matches E V x y) :
    Alike E R V (ofExcept x) (ofExcept y) := by
  obtain hexcused | h := h
  · exact fun _ _ _ => .inl hexcused
  · exact fun _ _ hroot => .inr ⟨h, hroot⟩

theorem alike_placed (pos : Position) {x : Except EvalFault α} {y : Except EvalFault β}
    (h : Match V x y) : Alike E R V (ofExcept (placed pos x)) (ofExcept (placed pos y)) :=
  alike_ofExcept (.inr (h.mapError _))

theorem alike_offer (f : Frame) {r r' : Rule} (h : R r r') : Alike E R Eq (f.offer r) (f.offer r') := by
  unfold Frame.offer
  split
  · rintro _ _ (hroot | _)
    · exact .inr ⟨rfl, .some hroot⟩
    · exact .inr ⟨rfl, .some h⟩
  · exact alike_pure rfl

theorem alike_bind {x : Eval α} {y : Eval β} {f : α → Eval α'} {g : β → Eval β'}
    (h : Alike E R V x y) (hf : ∀ a b, V a b → Alike E R V' (f a) (g b)) :
    Alike E R V' (x >>= f) (y >>= g) := by
  intro root root' hroot
  rw [run_bind, run_bind]
  obtain ⟨e, hfails, he⟩ | ⟨hvalue, hafter⟩ := h root root' hroot
  · refine .inl ⟨e, ?_, he⟩
    generalize x.run root = out at hfails ⊢
    obtain ⟨_ | _, _⟩ := out <;> cases hfails
    rfl
  generalize x.run root = out at hvalue hafter ⊢
  generalize y.run root' = out' at hvalue hafter ⊢
  obtain ⟨z, after⟩ := out
  obtain ⟨z', after'⟩ := out'
  dsimp only at hvalue hafter
  exact hvalue.elim (fun _ => .inr ⟨rfl, hafter⟩) fun a b hab => hf a b hab after after' hafter

theorem alike_mapM {S : α → β → Prop} {f : α → Eval α'} {g : β → Eval β'} {as : List α} {bs : List β}
    (h : List.Forall₂ S as bs) (hf : ∀ a b, S a b → Alike E R V' (f a) (g b)) :
    Alike E R (List.Forall₂ V') (as.mapM f) (bs.mapM g) := by
  induction h with
  | nil => exact alike_pure .nil
  | @cons a b as bs hab _ ih =>
    rw [List.mapM_cons, List.mapM_cons]
    refine alike_bind (hf a b hab) fun c d hcd => ?_
    exact alike_bind ih fun cs ds hcds => alike_pure (.cons hcd hcds)

end Eval

/-! ## Texts of one form -/

/-- Expressions of one form at the same place, with parts that are related; names may differ. -/
inductive Expr.Alike (S : Expr → Expr → Prop) : Expr → Expr → Prop
  | null (pos : Position) : Alike S (.null pos) (.null pos)
  | bool (pos : Position) (b : Bool) : Alike S (.bool pos b) (.bool pos b)
  | number (pos : Position) (n : Numeral) : Alike S (.number pos n) (.number pos n)
  | string (pos : Position) (s : String) : Alike S (.string pos s) (.string pos s)
  | regex (pos : Position) (pattern flags : String) :
      Alike S (.regex pos pattern flags) (.regex pos pattern flags)
  | ident (pos : Position) (name name' : String) : Alike S (.ident pos name) (.ident pos name')
  | array (pos : Position) {items items' : List Expr} (h : List.Forall₂ S items items') :
      Alike S (.array pos items) (.array pos items')
  | object (pos : Position) {entries entries' : List (String × Expr)} (h : Entries S entries entries') :
      Alike S (.object pos entries) (.object pos entries')
  | lambda (pos : Position) (param param' : Option String) (body body' : Expr) :
      Alike S (.lambda pos param body) (.lambda pos param' body')
  | call (pos : Position) {callee callee' : Expr} {args args' : List Expr} (hcallee : S callee callee')
      (hargs : List.Forall₂ S args args') : Alike S (.call pos callee args) (.call pos callee' args')
  | member (pos : Position) {owner owner' : Expr} (name : String) (h : S owner owner') :
      Alike S (.member pos owner name) (.member pos owner' name)
  | index (pos : Position) {owner owner' subscript subscript' : Expr} (howner : S owner owner')
      (hsubscript : S subscript subscript') :
      Alike S (.index pos owner subscript) (.index pos owner' subscript')
  | neg (pos : Position) {operand operand' : Expr} (h : S operand operand') :
      Alike S (.neg pos operand) (.neg pos operand')

theorem Expr.Alike.pos_eq {S : Expr → Expr → Prop} {e e' : Expr} (h : e.Alike S e') : e.pos = e'.pos := by
  cases h <;> rfl

/-! ## Simulations -/

/-- What a name stands for, or the error that there is nothing. -/
def resolve (registered : String → Bool) (scope : Scope) (pos : Position) (name : String) :
    Except EvalError Value :=
  match lookup registered scope name with
  | some v => .ok v
  | none => .error ⟨.unknownIdent name, pos⟩

theorem evalStep_ident (registered : String → Bool) (eval : Frame → Scope → Expr → Eval Value)
    (f : Frame) (scope : Scope) (pos : Position) (name : String) :
    evalStep registered eval f scope (.ident pos name) =
      Eval.ofExcept (resolve registered scope pos name) := by
  unfold resolve
  simp only [evalStep]
  cases lookup registered scope name <;> rfl

/-- Programs of the same statements, with texts that are related in whatever scopes they come to. -/
inductive Program.Alike (registered registered' : String → Bool) (V : Value → Value → Prop)
    (S : Scope → Scope → Expr → Expr → Prop) : Scope → Scope → Program → Program → Prop
  | nil (scope scope' : Scope) : Alike registered registered' V S scope scope' [] []
  | bind {scope scope' : Scope} (pos : Position) {name name' : String} {value value' : Expr}
      {rest rest' : Program} (hfree : global registered name = none)
      (hfree' : global registered' name' = none) (hvalue : S scope scope' value value')
      (hrest : ∀ v v', V v v' →
        Alike registered registered' V S ((name, v) :: scope) ((name', v') :: scope') rest rest') :
      Alike registered registered' V S scope scope' (.bind pos name value :: rest)
        (.bind pos name' value' :: rest')
  | rebind {scope scope' : Scope} (pos : Position) {name : String} (value value' : Expr)
      (rest rest' : Program) (hbound : (global registered name).isSome = true)
      (hbound' : (global registered' name).isSome = true) :
      Alike registered registered' V S scope scope' (.bind pos name value :: rest)
        (.bind pos name value' :: rest')
  | expr {scope scope' : Scope} {e e' : Expr} {rest rest' : Program} (h : S scope scope' e e')
      (hrest : Alike registered registered' V S scope scope' rest rest') :
      Alike registered registered' V S scope scope' (.expr e :: rest) (.expr e' :: rest')

/-- Relations of values, rules and lambdas, and `S` of texts in their scopes, by which one evaluation
follows the other. -/
structure Simulation (registered registered' : String → Bool) (E : EvalError → Prop)
    (V : Value → Value → Prop) (R : Rule → Rule → Prop) (L : Lambda → Lambda → Prop)
    (S : Scope → Scope → Expr → Expr → Prop) : Prop extends Uniform V R L where
  text : ∀ {scope scope' e e'}, S scope scope' e e' → e.Alike (S scope scope') e'
  name : ∀ {scope scope' pos name name'}, S scope scope' (.ident pos name) (.ident pos name') →
    Matches E V (resolve registered scope pos name) (resolve registered' scope' pos name')
  closure : ∀ {scope scope' pos param param' body body'},
    S scope scope' (.lambda pos param body) (.lambda pos param' body') →
      L (.mk param body scope) (.mk param' body' scope')
  body : ∀ {l l' arg arg'}, L l l' → Option.Rel V arg arg' →
    S (l.bindArg arg) (l'.bindArg arg') l.body l'.body

namespace Simulation

variable {registered registered' : String → Bool} {E : EvalError → Prop} {V : Value → Value → Prop}
  {R : Rule → Rule → Prop} {L : Lambda → Lambda → Prop} {S : Scope → Scope → Expr → Expr → Prop}
  (m : Simulation registered registered' E V R L S)
include m

theorem snapshot (c : Context) : V c.snapshot c.snapshot := by
  have hpath : V (.array (c.path.map .string)) (.array (c.path.map .string)) :=
    m.value.2 (.array (List.forall₂_same.2 (List.forall_mem_map.2 fun s _ => m.value.2 (.string s))))
  have hjson : V (c.json?.elim .null .ofJson) (c.json?.elim .null .ofJson) := by
    cases c.json? with
    | none => exact m.null
    | some v => exact m.ofJson v
  have hname : V (c.entry?.elim .null fun p => .string ((Path.fileName p).getD ""))
      (c.entry?.elim .null fun p => .string ((Path.fileName p).getD "")) := by
    cases c.entry? with
    | none => exact m.null
    | some p => exact m.value.2 (.string _)
  exact m.value.2 (.object
    (.cons ⟨_, hpath⟩ (.cons ⟨_, m.ofJson c.value⟩ (.cons ⟨_, hjson⟩ (.cons ⟨_, hname⟩ .nil)))))

section
variable {eval eval' : Frame → Scope → Expr → Eval Value}
  (heval : ∀ f scope scope' e e', S scope scope' e e' →
    Eval.Alike E R V (eval f scope e) (eval' f scope' e'))
include heval

theorem callLambda (f : Frame) {l l' : Lambda} {arg arg' : Option Value} (hl : L l l')
    (harg : Option.Rel V arg arg') :
    Eval.Alike E R V (Rulebook.callLambda eval f l arg) (Rulebook.callLambda eval' f l' arg') := by
  have hbody := m.body hl harg
  unfold Rulebook.callLambda
  split
  · rw [(m.text hbody).pos_eq]
    exact Eval.alike_fail _ _
  · exact heval _ _ _ _ _ hbody

theorem callValue (f : Frame) (pos : Position) {callee callee' : Value} {args args' : List Value}
    (hcallee : V callee callee') (hargs : List.Forall₂ V args args') :
    Eval.Alike E R V (Rulebook.callValue eval f pos callee args)
      (Rulebook.callValue eval' f pos callee' args') := by
  have hform := m.value.1 hcallee
  cases hform with
  | factory g =>
    refine Eval.alike_bind (Eval.alike_placed pos ((m.build g hargs).mapError _)) fun r r' hr => ?_
    exact Eval.alike_bind (Eval.alike_offer f hr) fun _ _ _ => Eval.alike_pure (m.value.2 (.rule hr))
  | lambda hl =>
    cases hargs with
    | nil => exact m.callLambda heval f hl .none
    | cons harg hargs =>
      cases hargs with
      | nil => exact m.callLambda heval f hl (.some harg)
      | cons _ hargs =>
        unfold Rulebook.callValue
        dsimp only
        rw [List.length_cons, List.length_cons, hargs.length_eq]
        exact Eval.alike_fail _ _
  | _ => exact Eval.alike_fail _ _

theorem evalStep (f : Frame) {scope scope' : Scope} {e e' : Expr} (h : S scope scope' e e') :
    Eval.Alike E R V (evalStep registered eval f scope e) (evalStep registered' eval' f scope' e') := by
  have hform := m.text h
  cases hform with
  | null => exact Eval.alike_pure m.null
  | bool => exact Eval.alike_pure (m.value.2 (.bool _))
  | number => exact Eval.alike_pure (m.value.2 (.number _))
  | string => exact Eval.alike_pure (m.value.2 (.string _))
  | regex =>
    simp only [Rulebook.evalStep]
    split
    · exact Eval.alike_pure (m.value.2 (.regex _))
    · exact Eval.alike_fail _ _
  -- The names may differ: what they stand for is compared where the scopes are.
  | ident pos name name' =>
    rw [evalStep_ident, evalStep_ident]
    exact Eval.alike_ofExcept (m.name h)
  | array pos hitems =>
    exact Eval.alike_bind (Eval.alike_mapM hitems fun e e' he => heval f scope scope' e e' he)
      fun vs vs' hvs => Eval.alike_pure (m.value.2 (.array hvs))
  | object pos hentries =>
    refine Eval.alike_bind (V := Entries V) (Eval.alike_mapM hentries fun e e' he => ?_)
      fun es es' hes => Eval.alike_pure (m.value.2 (.object hes))
    obtain ⟨key, he⟩ := he
    exact Eval.alike_bind (heval f scope scope' _ _ he) fun v v' hv => Eval.alike_pure ⟨key, hv⟩
  | lambda => exact Eval.alike_pure (m.value.2 (.lambda (m.closure h)))
  | call pos hcallee hargs =>
    refine Eval.alike_bind (heval f _ _ _ _ hcallee) fun callee callee' hc => ?_
    refine Eval.alike_bind (Eval.alike_mapM hargs fun e e' he => heval _ _ _ _ _ he)
      fun args args' hargs => ?_
    exact m.callValue heval f pos hc hargs
  | member pos name howner =>
    exact Eval.alike_bind (heval f _ _ _ _ howner) fun v v' hv =>
      Eval.alike_placed pos (m.member hv name)
  | index pos howner hsubscript =>
    refine Eval.alike_bind (heval f _ _ _ _ howner) fun v v' hv => ?_
    exact Eval.alike_bind (heval f _ _ _ _ hsubscript) fun i i' hi =>
      Eval.alike_placed pos (m.index hv hi)
  | neg pos hoperand =>
    refine Eval.alike_bind (heval f _ _ _ _ hoperand) fun v v' hv => ?_
    have hform := m.value.1 hv
    cases hform with
    | number => exact Eval.alike_pure (m.value.2 (.number _))
    | _ => exact Eval.alike_fail _ _

end

theorem evalAt (left : Nat) (f : Frame) {scope scope' : Scope} {e e' : Expr}
    (h : S scope scope' e e') :
    Eval.Alike E R V (evalAt registered left f scope e) (evalAt registered' left f scope' e') := by
  induction left generalizing f scope scope' e e' with
  | zero =>
    unfold Rulebook.evalAt
    rw [(m.text h).pos_eq]
    exact Eval.alike_fail _ _
  | succ left ih => exact m.evalStep (fun f _ _ _ _ h => ih f h) f h

/-! ## Lambda groups -/

theorem rules {l l' : Lambda} (h : L l l') (kind : String) (c : Context) :
    Matches E (List.Forall₂ R) (l.rules registered kind c) (l'.rules registered' kind c) := by
  have hbody : l.body.pos = l'.body.pos := (m.text (m.body h .none)).pos_eq
  have hcall := m.callLambda (fun f _ _ _ _ h => m.evalAt maxEvals f h) (.start false) h
    (.some (m.snapshot c)) none none .none
  unfold Lambda.rules
  dsimp only
  obtain ⟨e, hfails, he⟩ | ⟨hvalue, -⟩ := hcall
  · rw [hfails]
    exact .inl ⟨e, rfl, he⟩
  refine .inr ?_
  refine hvalue.elim (fun _ => rfl) fun v v' hv => ?_
  dsimp only
  rw [hbody]
  refine Match.mapError ?_ _
  have hform := m.value.1 hv
  cases hform with
  | array hvs => exact m.alignment.toRules hvs
  | _ => exact Match.map (m.alignment.toRule hv) fun r r' hr => .cons hr .nil

/-! ## Programs -/

/-- An evaluation with what follows from its value and its root. -/
theorem andThen {f : Frame} {scope scope' : Scope} {e e' : Expr} (h : S scope scope' e e')
    {root root' : Option Rule} (hroot : Option.Rel R root root')
    {next next' : Value → Option Rule → Except EvalError (Option Rule)}
    (hnext : ∀ v v' after after', V v v' → Option.Rel R after after' →
      Matches E (Option.Rel R) (next v after) (next' v' after')) :
    Matches E (Option.Rel R)
      (match (Rulebook.evalAt registered maxEvals f scope e).run root with
        | (.ok v, after) => next v after
        | (.error e, _) => .error e)
      (match (Rulebook.evalAt registered' maxEvals f scope' e').run root' with
        | (.ok v, after) => next' v after
        | (.error e, _) => .error e) := by
  have halike := m.evalAt maxEvals f h root root' hroot
  generalize (Rulebook.evalAt registered maxEvals f scope e).run root = out at halike ⊢
  generalize (Rulebook.evalAt registered' maxEvals f scope' e').run root' = out' at halike ⊢
  obtain ⟨x, after⟩ := out
  obtain ⟨x', after'⟩ := out'
  obtain ⟨e, rfl, he⟩ | ⟨hvalue, hafter⟩ := halike
  · exact .inl ⟨e, rfl, he⟩
  · dsimp only at hvalue hafter
    exact hvalue.elim (fun _ => .inr rfl) fun v v' hv => hnext v v' after after' hv hafter

theorem runStmts {scope scope' : Scope} {p p' : Program}
    (h : Program.Alike registered registered' V S scope scope' p p') {root root' : Option Rule}
    (hroot : Option.Rel R root root') :
    Matches E (Option.Rel R) (runStmts registered p scope root)
      (runStmts registered' p' scope' root') := by
  induction h generalizing root root' with
  | nil => exact .inr hroot
  | bind pos hfree hfree' hvalue _ ih =>
    unfold Rulebook.runStmts
    rw [if_neg (by simp [hfree]), if_neg (by simp [hfree'])]
    exact m.andThen hvalue hroot fun v v' _ _ hv hafter => ih v v' hv hafter
  | rebind pos _ _ _ _ h h' =>
    unfold Rulebook.runStmts
    rw [if_pos h, if_pos h']
    exact .inr rfl
  | expr h _ ih =>
    unfold Rulebook.runStmts
    exact m.andThen h hroot fun _ _ _ _ _ hafter => ih hafter

/-- Two such programs give related rules, or the same error, if the first is not excused. -/
theorem root {p p' : Program} (h : Program.Alike registered registered' V S [] [] p p')
    (hE : ∀ e, Rulebook.runStmts registered p [] none = .error e → ¬ E e) :
    Match R (p.root registered) (p'.root registered') := by
  have hempty : p.isEmpty = p'.isEmpty := by cases h <;> rfl
  have hmatch := (m.runStmts h (.none : Option.Rel R none none)).resolve_left
    fun ⟨e, hfails, he⟩ => hE e hfails he
  unfold Program.root
  rw [← hempty]
  split
  · rfl
  refine hmatch.elim (fun _ => rfl) fun root root' hroot => ?_
  cases hroot with
  | some h => exact h
  | none => rfl

end Simulation

end Rulebook
