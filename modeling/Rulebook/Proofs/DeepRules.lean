import Rulebook.Proofs.Lexing
import Rulebook.Proofs.RoundTrip
import Rulebook.Proofs.RuleDepth

/-!
# Rules in rules without end

The limits on nesting are limits of one evaluation. A statement may put the rule that was bound before it
into a new one, and each statement is evaluated afresh, so rules get as deep as there are statements.
-/

namespace Rulebook

/-! ## The texts -/

/-- `let r=Is.Not(r);` -/
def wrapping : List Char :=
  ['l', 'e', 't', ' ', 'r', '=', 'I', 's', '.', 'N', 'o', 't', '(', 'r', ')', ';']

/-- `let r=null;`, then `let r=Is.Not(r);` any number of times, and then `Is.Not(r);` -/
def deepening (n : Nat) : List Char :=
  ['l', 'e', 't', ' ', 'r', '=', 'n', 'u', 'l', 'l', ';'] ++ (List.replicate n wrapping).flatten ++
    ['I', 's', '.', 'N', 'o', 't', '(', 'r', ')', ';']

/-- `Is.Not(r)` -/
def wrapped : Expr :=
  .call default (.member default (.ident default "Is") "Not") [.ident default "r"]

def deepeningProgram (n : Nat) : Program :=
  .bind default "r" (.null default) ::
    (List.replicate n (.bind default "r" wrapped) ++ [.expr wrapped])

theorem spells_deepening (n : Nat) : Spells (deepening n) (deepeningProgram n).render := by
  have hfirst : Spells ['l', 'e', 't', ' ', 'r', '=', 'n', 'u', 'l', 'l', ';']
      (Stmt.bind default "r" (.null default)).render := fun _ _ =>
    .token rfl rfl <| .token rfl rfl <| .token rfl rfl <| .token rfl rfl <| .token rfl rfl <| .refl _
  have hwrapping : Spells wrapping (Stmt.bind default "r" wrapped).render := fun _ _ =>
    .token rfl rfl <| .token rfl rfl <| .token rfl rfl <| .token rfl rfl <| .token rfl rfl <|
    .token rfl rfl <| .token rfl rfl <| .token rfl rfl <| .token rfl rfl <| .token rfl rfl <| .refl _
  have hlast : Spells ['I', 's', '.', 'N', 'o', 't', '(', 'r', ')', ';'] (Stmt.expr wrapped).render :=
    fun _ _ => .token rfl rfl <| .token rfl rfl <| .token rfl rfl <| .token rfl rfl <|
      .token rfl rfl <| .token rfl rfl <| .token rfl rfl <| .refl _
  have hall := (hfirst.append (hwrapping.replicate n)).append hlast
  have hrender : (deepeningProgram n).render =
      (Stmt.bind default "r" (.null default)).render ++
        (List.replicate n (Stmt.bind default "r" wrapped).render).flatten ++
        (Stmt.expr wrapped).render := by
    simp [deepeningProgram, Program.render, List.flatMap_def]
  rw [hrender]
  exact hall

theorem eq_wrapped_of_bare {e : Expr} (h : e.bare = wrapped) :
    ∃ p p' p'' q, e = .call p (.member p' (.ident p'' "Is") "Not") [.ident q "r"] := by
  obtain ⟨p, callee, args, rfl⟩ : ∃ p callee args, e = .call p callee args := by
    cases e <;> first | exact ⟨_, _, _, rfl⟩ | cases h
  obtain ⟨-, hcallee, hargs⟩ := Expr.call.inj h
  obtain ⟨p', object, name, rfl⟩ : ∃ p' object name, callee = .member p' object name := by
    cases callee <;> first | exact ⟨_, _, _, rfl⟩ | cases hcallee
  obtain ⟨-, hobject, rfl⟩ := Expr.member.inj hcallee
  obtain ⟨p'', rfl⟩ : ∃ p'', object = .ident p'' "Is" := by
    cases object <;> first | (cases hobject; exact ⟨_, rfl⟩) | cases hobject
  rw [bareItems_eq_map] at hargs
  obtain ⟨arg, rfl, harg⟩ := List.map_eq_singleton_iff.1 hargs
  obtain ⟨q, rfl⟩ : ∃ q, arg = .ident q "r" := by
    cases arg <;> first | (cases harg; exact ⟨_, rfl⟩) | cases harg
  exact ⟨p, p', p'', q, rfl⟩

section
variable {registered : String → Bool} {scope : Scope} {rule : Rule}

theorem eval_ident {name : String} {v : Value} (h : lookup registered scope name = some v)
    (left : Nat) (f : Frame) (pos : Position) :
    evalAt registered (left + 1) f scope (.ident pos name) = pure v := by
  rw [evalAt, evalStep, h]

/-- The name `r` stands for the rule, and `Is` is not bound. -/
def Scope.Holds (scope : Scope) (rule : Rule) : Prop :=
  scope.lookup "Is" = none ∧ ∃ v, scope.lookup "r" = some v ∧ v.toRule = .ok rule

/-- At whatever places, it makes a rule of what `r` stands for, one deeper. -/
theorem eval_wrapped (h : scope.Holds rule) {e : Expr} (he : e.bare = wrapped) (left : Nat) (f : Frame)
    (root : Option Rule) :
    (evalAt registered (left + 3) f scope e).run root =
      (.ok (.rule (.not .is rule)), if f.capturing then root.or (some (.not .is rule)) else root) := by
  obtain ⟨p, p', p'', q, rfl⟩ := eq_wrapped_of_bare he
  obtain ⟨hIs, v, hr, hrule⟩ := h
  have hspace : lookup registered scope "Is" = some (.space .is) := by
    rw [lookup, hIs]
    rfl
  have harg : lookup registered scope "r" = some v := by
    rw [lookup, hr]
    rfl
  have hcallee : evalAt registered (left + 2) f scope (.member p' (.ident p'' "Is") "Not") =
      pure (.factory (.builtin .isNot)) := by
    rw [evalAt, evalStep, eval_ident hspace, pure_bind]
    rfl
  have hargs : [Expr.ident q "r"].mapM (evalAt registered (left + 2) f.inArguments scope) =
      pure [v] := by
    rw [List.mapM_cons, eval_ident harg]
    rfl
  have hbuild : Factory.build (.builtin .isNot) [v] = .ok (.not .is rule) := by
    show Except.map (Rule.not .is) v.toRule = _
    rw [hrule]
    rfl
  rw [evalAt, evalStep, hcallee, pure_bind, hargs, pure_bind, callValue, hbuild]
  obtain ⟨lambdas, _ | _⟩ := f <;> rfl

theorem not_global_r (hname : registered "r" = false) : ¬ (global registered "r").isSome = true := by
  simp [global, Builtin.ofWord, hname]

theorem runStmts_wrapping (hname : registered "r" = false) (h : scope.Holds rule) {s : Stmt}
    (hs : s.bare = .bind default "r" wrapped) (rest : Program) :
    runStmts registered (s :: rest) scope none =
      runStmts registered rest (("r", .rule (.not .is rule)) :: scope) none := by
  obtain ⟨pos, e, rfl⟩ : ∃ pos e, s = .bind pos "r" e := by
    cases s <;> first | (obtain ⟨-, rfl, -⟩ := Stmt.bind.inj hs; exact ⟨_, _, rfl⟩) | cases hs
  have hrun : (evalAt registered maxEvals (.start false) scope e).run none =
      (.ok (.rule (.not .is rule)), none) := eval_wrapped h (Stmt.bind.inj hs).2.2 253 _ none
  rw [runStmts, if_neg (not_global_r hname), hrun]

theorem runStmts_wrapped (h : scope.Holds rule) {s : Stmt} (hs : s.bare = .expr wrapped) :
    runStmts registered [s] scope none = .ok (some (.not .is rule)) := by
  obtain ⟨e, rfl⟩ : ∃ e, s = .expr e := by
    cases s <;> first | exact ⟨_, rfl⟩ | cases hs
  have hrun : (evalAt registered maxEvals (.start true) scope e).run none =
      (.ok (.rule (.not .is rule)), some (.not .is rule)) :=
    eval_wrapped h (Stmt.expr.inj hs) 253 _ none
  rw [runStmts, hrun]
  rfl

theorem runStmts_deepening (hname : registered "r" = false) {n : Nat} {q : Program}
    (hq : q.bare = List.replicate n (.bind default "r" wrapped) ++ [.expr wrapped])
    (h : scope.Holds rule) :
    ∃ r, runStmts registered q scope none = .ok (some r) ∧ r.depth = rule.depth + n + 1 := by
  induction n generalizing q scope rule with
  | zero =>
    obtain ⟨s, rfl, hs⟩ := List.map_eq_singleton_iff.1 hq
    exact ⟨.not .is rule, runStmts_wrapped h hs, rfl⟩
  -- Each statement binds `r` to a rule that is one deeper than the one before.
  | succ n ih =>
    rw [List.replicate_succ, List.cons_append] at hq
    obtain ⟨s, q, rfl, hs, hrest⟩ := List.map_eq_cons_iff.1 hq
    have hnext : Scope.Holds (("r", .rule (.not .is rule)) :: scope) (.not .is rule) :=
      ⟨h.1, _, rfl, rfl⟩
    obtain ⟨r, hr, hdepth⟩ := ih hrest hnext
    refine ⟨r, (runStmts_wrapping hname h hs q).trans hr, ?_⟩
    rw [hdepth, Rule.depth]
    omega

end

theorem levels_deepening (n : Nat) : ∀ s ∈ deepeningProgram n, s.body.levels ≤ maxDepth := by
  intro s hs
  have hs : s = .bind default "r" (.null default) ∨ s = .bind default "r" wrapped ∨
      s = .expr wrapped := by
    simp only [deepeningProgram, List.mem_cons, List.mem_append, List.mem_replicate] at hs
    tauto
  obtain rfl | rfl | rfl := hs <;> decide +kernel

/-- There are rules of every depth from two on. -/
theorem load_deepening (n : Nat) :
    ∃ rule, Registry.standard.load (String.ofList (deepening n)) = .ok rule ∧ rule.depth = n + 2 := by
  have hname : Registry.standard.contains "r" = false := by decide +kernel
  obtain ⟨ts, hts, hkinds⟩ := (spells_deepening n).ofText
  obtain ⟨p, hp, hbare⟩ := (Program.ofTokens_decides hkinds).1 (levels_deepening n)
  obtain ⟨s, q, rfl, hs, hq⟩ := List.map_eq_cons_iff.1 hbare
  obtain ⟨pos, pos', rfl⟩ : ∃ pos pos', s = .bind pos "r" (.null pos') := by
    cases s with
    | bind pos name e =>
      obtain ⟨-, rfl, he⟩ := Stmt.bind.inj hs
      cases e <;> first | exact ⟨_, _, rfl⟩ | cases he
    | expr => cases hs
  have hrest : Program.bare q = List.replicate n (.bind default "r" wrapped) ++ [.expr wrapped] := by
    rw [Program.bare, hq, List.map_append, List.map_replicate]
    rfl
  obtain ⟨rule, hrule, hdepth⟩ := runStmts_deepening hname hrest
    (⟨rfl, .null, rfl, rfl⟩ : Scope.Holds [("r", .null)] (.literal .null))
  have hroot : runStmts Registry.standard.contains (.bind pos "r" (.null pos') :: q) [] none =
      .ok (some rule) := by
    rw [runStmts, if_neg (not_global_r hname)]
    exact hrule
  refine ⟨rule, ?_, by rw [hdepth, Rule.depth]; omega⟩
  rw [Registry.load, Rule.ofText, Program.ofText, hts]
  dsimp only [Except.bind]
  rw [hp]
  dsimp only
  rw [Program.root, if_neg (by simp), hroot]

/-- No bound holds for the depth of all rules that are loaded. -/
theorem depth_unbounded (n : Nat) :
    ∃ text rule, Registry.standard.load text = .ok rule ∧ n < rule.depth := by
  obtain ⟨rule, hrule, hdepth⟩ := load_deepening n
  exact ⟨_, rule, hrule, by omega⟩

theorem not_forall_depth_le_maxEvals :
    ¬ ∀ text rule, Registry.standard.load text = .ok rule → rule.depth ≤ maxEvals := by
  intro h
  obtain ⟨rule, hrule, hdepth⟩ := load_deepening 255
  have hle := h _ rule hrule
  rw [hdepth, maxEvals] at hle
  omega

end Rulebook
