import Mathlib.Order.MinMax
import Rulebook.Engine.Basic
import Rulebook.Proofs.Evaluation
import Rulebook.Proofs.SyntaxTrees

/-!
# How deep rules get

A factory puts the rules that its arguments stand for one level deeper. In a program that calls nothing
but factories, a value is thus no higher than the evaluation was nested, above what was bound before.
-/

namespace Rulebook

/-! ## Depth -/

mutual

/-- The number of rules on the longest path down, those that lambdas build later left out. -/
def Rule.depth : Rule → Nat
  | .object required optional => max (depthOfRules required) (depthOfRules optional) + 1
  | .oneOf options => depthOfRules options + 1
  | .listOf item _ _ => item.depth + 1
  | .not _ inner => inner.depth + 1
  | .contains d => d.depth + 1
  | .str .. | .num .. | .bool | .literal _ | .pattern _ | .host _ => 1

def Descriptor.depth : Descriptor → Nat
  | .field _ _ value => depthOfRule? value
  | .file _ _ content => depthOfRules content
  | .directory _ required optional | .jsonFile _ required optional =>
    max (depthOfRules required) (depthOfRules optional)
  | .package _ group => group.depth
  | .custom .. => 0

def Group.depth : Group → Nat
  | .rules rules => depthOfRules rules
  | .lazy .. => 0

def depthOfRules : List Rule → Nat
  | [] => 0
  | r :: rs => max r.depth (depthOfRules rs)

def depthOfRule? : Option Rule → Nat
  | none => 0
  | some r => r.depth

end

theorem depthOfRules_le_iff {rules : List Rule} {d : Nat} :
    depthOfRules rules ≤ d ↔ ∀ r ∈ rules, r.depth ≤ d := by
  induction rules with
  | nil => simp [depthOfRules]
  | cons r rs ih => rw [depthOfRules, Nat.max_le, ih, List.forall_mem_cons]

/-! ## Height -/

mutual

/-- How deep a rule may be that a value stands for. -/
def Value.height : Value → Nat
  | .array items => heightOf items + 1
  | .object entries => heightIn entries + 1
  | .rule r => r.depth
  | .null | .bool _ | .number _ | .string _ | .regex _ | .factory _ | .space _ | .lambda _ => 1

def heightOf : List Value → Nat
  | [] => 0
  | v :: vs => max v.height (heightOf vs)

def heightIn : List (String × Value) → Nat
  | [] => 0
  | (_, v) :: rest => max v.height (heightIn rest)

end

theorem heightOf_le_iff {values : List Value} {d : Nat} :
    heightOf values ≤ d ↔ ∀ v ∈ values, v.height ≤ d := by
  induction values with
  | nil => simp [heightOf]
  | cons v vs ih => rw [heightOf, Nat.max_le, ih, List.forall_mem_cons]

theorem heightIn_le_iff {entries : List (String × Value)} {d : Nat} :
    heightIn entries ≤ d ↔ ∀ e ∈ entries, e.2.height ≤ d := by
  induction entries with
  | nil => simp [heightIn]
  | cons e rest ih => rw [heightIn, Nat.max_le, ih, List.forall_mem_cons]

/-! ## What is made of values -/

mutual

theorem toRule_depth_le : ∀ v : Value, Gives (fun r => r.depth ≤ v.height) v.toRule
  | .rule r => by
    rw [Value.toRule]
    exact gives_ok.2 (Nat.le_refl _)
  | .object entries => by
    have hrequired := memberRules_depth_le "required" entries
    have hoptional := memberRules_depth_le "optional" entries
    rw [Value.toRule]
    split
    · exact gives_error
    split
    · exact gives_error
    rename_i required hr
    split
    · exact gives_error
    rename_i optional ho
    exact gives_ok.2 (Nat.succ_le_succ (max_le (hrequired required hr) (hoptional optional ho)))
  | .regex _ | .factory _ | .space _ | .lambda _ => by
    simp [Value.toRule, Rule.depth, Value.height]
  | .null | .bool _ | .number _ | .string _ => by
    simp only [Value.toRule]
    exact gives_map fun _ _ => Nat.le_refl 1
  | .array items => by
    simp only [Value.toRule]
    exact gives_map fun _ _ => Nat.succ_le_succ (Nat.zero_le _)

theorem toRules_depth_le :
    ∀ vs : List Value, Gives (fun rules => depthOfRules rules ≤ heightOf vs) (Value.toRules vs)
  | [] => gives_ok.2 (Nat.le_refl 0)
  | v :: vs => by
    rw [Value.toRules]
    split
    · exact gives_error
    rename_i r hr
    exact gives_map fun rs hrs => max_le_max (toRule_depth_le v r hr) (toRules_depth_le vs rs hrs)

theorem ruleList_depth_le (key : String) :
    ∀ v : Value, Gives (fun rules => depthOfRules rules ≤ v.height) (v.ruleList key)
  | .null => gives_ok.2 (Nat.zero_le 1)
  | .array items => fun rules hrules => Nat.le_succ_of_le (toRules_depth_le items rules hrules)
  | .bool _ | .number _ | .string _ | .regex _ | .object _ | .rule _ | .factory _ | .space _
  | .lambda _ => gives_error

theorem memberRules_depth_le (key : String) : ∀ entries : List (String × Value),
    Gives (fun rules => depthOfRules rules ≤ heightIn entries)
      ((Value.memberRules key entries).getD (.ok []))
  | [] => gives_ok.2 (Nat.le_refl 0)
  | (k, v) :: rest => by
    have hrest := memberRules_depth_le key rest
    rw [Value.memberRules]
    cases hm : Value.memberRules key rest with
    | some rules =>
      rw [hm] at hrest
      exact fun rs hrs => (hrest rs hrs).trans (le_max_right ..)
    | none =>
      by_cases hk : k = key
      · simp only [hk, if_pos]
        exact fun rs hrs => (ruleList_depth_le key v rs hrs).trans (le_max_left ..)
      · simp [hk, depthOfRules]

end

section
variable {d : Nat}

theorem carries_height (d : Nat) : Carries (fun v => v.height ≤ d) (fun r => r.depth ≤ d) where
  items {_} h := heightOf_le_iff.1 (Nat.le_of_succ_le h)
  entries {_} h := heightIn_le_iff.1 (Nat.le_of_succ_le h)
  rule {v} h r hr := (toRule_depth_le v r hr).trans h

theorem Group.Made.depth_le {group : Group}
    (h : group.Made (fun v => v.height ≤ d) (fun r => r.depth ≤ d)) : group.depth ≤ d := by
  cases group with
  | rules rs => exact depthOfRules_le_iff.2 h
  | lazy => exact Nat.zero_le d

theorem Descriptor.Made.depth_le {descriptor : Descriptor}
    (h : descriptor.Made (fun v => v.height ≤ d) (fun r => r.depth ≤ d)) : descriptor.depth ≤ d := by
  cases descriptor with
  | field key isOptional value =>
    cases value with
    | none => exact Nat.zero_le d
    | some r => exact h r rfl
  | file path ext content => exact depthOfRules_le_iff.2 h
  | directory path required optional | jsonFile path required optional =>
    exact max_le (depthOfRules_le_iff.2 h.1) (depthOfRules_le_iff.2 h.2)
  | package name group => exact Group.Made.depth_le h
  | custom kind params => exact h.elim

theorem Rule.Made.depth_le {r : Rule} (h : r.Made (fun v => v.height ≤ d) (fun r => r.depth ≤ d)) :
    r.depth ≤ d + 1 := by
  cases r with
  | object required optional =>
    exact Nat.succ_le_succ (max_le (depthOfRules_le_iff.2 h.1) (depthOfRules_le_iff.2 h.2))
  | oneOf options => exact Nat.succ_le_succ (depthOfRules_le_iff.2 h)
  | listOf item min max => exact Nat.succ_le_succ h
  | not flavor inner => exact Nat.succ_le_succ h
  | contains descriptor => exact Nat.succ_le_succ (Descriptor.Made.depth_le h)
  | host rule => exact h.elim
  | str | num | bool | literal | pattern => exact Nat.succ_le_succ (Nat.zero_le d)

/-- The rule that a factory makes is at most one deeper than its arguments are high. -/
theorem Factory.build_depth_le (f : Factory) {args : List Value} (h : ∀ v ∈ args, v.height ≤ d) :
    Gives (fun r => r.depth ≤ d + 1) (f.build args) := by
  cases f with
  | builtin b =>
    exact fun r hr => ((carries_height d).build b h r hr).elim Rule.Made.depth_le Nat.le_succ_of_le
  | custom kind =>
    unfold Factory.build buildCustom
    refine gives_bind fun _ _ => ?_
    split
    · exact gives_pure.2 (Nat.succ_le_succ (Nat.zero_le d))
    · exact gives_bind fun params _ => gives_pure.2 (Nat.succ_le_succ (Nat.zero_le d))

end

/-! ## Evaluation -/

section
variable (registered : String → Bool)

/-- A name that no binding takes, or a member of one, and so on. -/
def Expr.isPath : Expr → Bool
  | .ident _ name => (global registered name).isSome
  | .member _ owner _ => owner.isPath
  | _ => false

mutual

/-- What is called, but for the calls in lambdas, are paths, so that no lambda is. -/
def Expr.CallsPaths : Expr → Prop
  | .call _ callee args => callee.isPath registered = true ∧ callPaths args
  | .array _ items => callPaths items
  | .object _ entries => callPathsIn entries
  | .member _ owner _ => owner.CallsPaths
  | .index _ owner subscript => owner.CallsPaths ∧ subscript.CallsPaths
  | .neg _ operand => operand.CallsPaths
  | .null _ | .bool .. | .number .. | .string .. | .regex .. | .ident .. | .lambda .. => True

def callPaths : List Expr → Prop
  | [] => True
  | e :: es => e.CallsPaths ∧ callPaths es

def callPathsIn : List (String × Expr) → Prop
  | [] => True
  | (_, e) :: rest => e.CallsPaths ∧ callPathsIn rest

end

end

variable {registered : String → Bool}

theorem callPaths_iff {items : List Expr} :
    callPaths registered items ↔ ∀ e ∈ items, e.CallsPaths registered := by
  induction items with
  | nil => simp [callPaths]
  | cons e es ih => rw [callPaths, ih, List.forall_mem_cons]

theorem callPathsIn_iff {entries : List (String × Expr)} :
    callPathsIn registered entries ↔ ∀ e ∈ entries, e.2.CallsPaths registered := by
  induction entries with
  | nil => simp [callPathsIn]
  | cons e rest ih => rw [callPathsIn, ih, List.forall_mem_cons]

/-- Bindings that take no global name, of values up to a height. -/
def Scope.Within (registered : String → Bool) (d : Nat) (scope : Scope) : Prop :=
  ∀ e ∈ scope, global registered e.1 = none ∧ e.2.height ≤ d

/-- What is not bound: a factory or a namespace. -/
def Value.IsWord : Value → Prop
  | .factory _ | .space _ => True
  | _ => False

theorem global_isWord {name : String} {v : Value} (h : global registered name = some v) : v.IsWord := by
  unfold global at h
  split at h
  · cases h
    trivial
  · cases h
    trivial
  · split at h
    · cases h
      trivial
    · split at h
      · cases h
        trivial
      · cases h

theorem member_isWord {v : Value} {name : String} (h : v.IsWord) :
    Gives Value.IsWord (v.member name) := by
  unfold Value.member
  split
  · exact gives_ok.2 trivial
  · exact gives_ok.2 trivial
  · exact gives_ok.2 trivial
  · exact h.elim
  · exact gives_error

section
variable {d : Nat} {scope : Scope}

theorem Scope.Within.mono {d' : Nat} (h : scope.Within registered d) (hd : d ≤ d') :
    scope.Within registered d' :=
  fun e he => ⟨(h e he).1, (h e he).2.trans hd⟩

theorem Scope.Within.cons {name : String} {v : Value} (h : scope.Within registered d)
    (hname : ¬ (global registered name).isSome = true) {m : Nat} (hv : v.height ≤ d + m) :
    Scope.Within registered (d + m) ((name, v) :: scope) :=
  List.forall_mem_cons.2 ⟨⟨by simpa using hname, hv⟩, h.mono (Nat.le_add_right d m)⟩

theorem Scope.Within.lookup_height_le (h : scope.Within registered d) {name : String} {v : Value}
    (hv : lookup registered scope name = some v) : v.height ≤ max d 1 := by
  obtain hbound | ⟨-, hglobal⟩ := Option.or_eq_some_iff.1 hv
  · obtain ⟨before, after, rfl, -⟩ := List.lookup_eq_some_iff.1 hbound
    exact (h (name, v) (by simp)).2.trans (le_max_left ..)
  · have hword := global_isWord hglobal
    cases v <;> first | exact le_max_right .. | exact hword.elim

theorem Scope.Within.lookup_isWord (h : scope.Within registered d) {name : String} {v : Value}
    (hname : (global registered name).isSome = true) (hv : lookup registered scope name = some v) :
    v.IsWord := by
  obtain hbound | ⟨-, hglobal⟩ := Option.or_eq_some_iff.1 hv
  · obtain ⟨before, after, rfl, -⟩ := List.lookup_eq_some_iff.1 hbound
    rw [(h (name, v) (by simp)).1] at hname
    cases hname
  · exact global_isWord hglobal

variable {R : Rule → Prop}

theorem evalAt_isWord (h : scope.Within registered d) (left : Nat) (f : Frame) {e : Expr}
    (he : e.isPath registered = true) :
    Eval.Keeps R Value.IsWord (evalAt registered left f scope e) := by
  induction left generalizing e with
  | zero => exact Eval.ends_fail trivial
  | succ left ih =>
    cases e with
    | ident pos name =>
      rw [evalAt, evalStep]
      split
      · rename_i v hv
        exact Eval.ends_pure (h.lookup_isWord he hv)
      · exact Eval.ends_fail trivial
    | member pos object name =>
      refine Eval.ends_bind (ih he) fun v hv => ?_
      exact Eval.ends_ofExcept (yields_of_gives (gives_mapError (member_isWord hv)))
    | _ => cases he

section
variable {eval : Frame → Scope → Expr → Eval Value} {m n : Nat}

theorem callValue_height_le (hn : d + 1 ≤ n) (f : Frame) (pos : Position) {callee : Value}
    {args : List Value} (hcallee : callee.IsWord) (hargs : ∀ v ∈ args, v.height ≤ d) :
    Eval.Keeps (fun r => r.depth ≤ n) (fun v => v.height ≤ d + 1)
      (callValue eval f pos callee args) := by
  unfold callValue
  split
  · rename_i factory
    have hbuild := factory.build_depth_le hargs
    refine Eval.ends_bind (Eval.ends_ofExcept
      (yields_of_gives (gives_mapError (gives_mapError hbuild)))) fun r hr => ?_
    exact Eval.ends_bind (Eval.ends_offer f (hr.trans hn)) fun _ _ => Eval.ends_pure hr
  · exact hcallee.elim
  · exact Eval.ends_fail trivial

/-- One step adds at most one to the heights of the parts. -/
theorem evalStep_height_le (h : scope.Within registered d) (hn : d + m + 1 ≤ n) (f : Frame) {e : Expr}
    (hword : ∀ f e, e.isPath registered = true →
      Eval.Keeps (fun r => r.depth ≤ n) Value.IsWord (eval f scope e))
    (hpart : ∀ f part, part.CallsPaths registered → part.depth < e.depth →
      Eval.Keeps (fun r => r.depth ≤ n) (fun v => v.height ≤ d + m) (eval f scope part))
    (he : e.CallsPaths registered) :
    Eval.Keeps (fun r => r.depth ≤ n) (fun v => v.height ≤ d + m + 1)
      (evalStep registered eval f scope e) := by
  have leaf : 1 ≤ d + m + 1 := Nat.succ_pos (d + m)
  cases e with
  | null | bool | number | string => exact Eval.ends_pure leaf
  -- A lambda is not called, so nothing is asked of its body.
  | lambda => exact Eval.ends_pure leaf
  | regex =>
    simp only [evalStep]
    split
    · exact Eval.ends_pure leaf
    · exact Eval.ends_fail trivial
  | ident =>
    simp only [evalStep]
    split
    · rename_i v hv
      exact Eval.ends_pure ((h.lookup_height_le hv).trans (max_le (by omega) leaf))
    · exact Eval.ends_fail trivial
  | array pos items =>
    have hitems := callPaths_iff.1 he
    have hdepth := depthOf_le_iff.1 (Nat.le_refl (depthOf items))
    refine Eval.ends_bind (Eval.ends_mapM fun e he =>
      hpart f e (hitems e he) (Nat.lt_succ_of_le (hdepth e he))) fun vs hvs => ?_
    exact Eval.ends_pure (Nat.succ_le_succ (heightOf_le_iff.2 hvs))
  | object pos entries =>
    have hentries := callPathsIn_iff.1 he
    have hdepth := depthIn_le_iff.1 (Nat.le_refl (depthIn entries))
    refine Eval.ends_bind (P := fun es => ∀ e ∈ es, e.2.height ≤ d + m)
      (Eval.ends_mapM fun e he => ?_) fun es hes => ?_
    · refine Eval.ends_bind (hpart f e.2 (hentries e he) (Nat.lt_succ_of_le (hdepth e he))) ?_
      exact fun v hv => Eval.ends_pure hv
    · exact Eval.ends_pure (Nat.succ_le_succ (heightIn_le_iff.2 hes))
  | call pos callee args =>
    have hargs := callPaths_iff.1 he.2
    have hdepth := depthOf_le_iff.1 (le_max_right callee.depth (depthOf args))
    refine Eval.ends_bind (hword f callee he.1) fun g hg => ?_
    refine Eval.ends_bind (Eval.ends_mapM fun e he =>
      hpart _ e (hargs e he) (Nat.lt_succ_of_le (hdepth e he))) fun args hargs => ?_
    exact callValue_height_le hn f pos hg hargs
  | member pos object name =>
    refine Eval.ends_bind (hpart f object he (Nat.lt_succ_self _)) fun v hv => ?_
    refine Eval.ends_ofExcept (yields_of_gives (gives_mapError ?_))
    exact (carries_height (d + m + 1)).member leaf (fun _ => leaf) (fun _ => leaf)
      (Nat.le_succ_of_le hv)
  | index pos object subscript =>
    have hobject := Nat.lt_succ_of_le (le_max_left object.depth subscript.depth)
    have hsubscript := Nat.lt_succ_of_le (le_max_right object.depth subscript.depth)
    refine Eval.ends_bind (hpart f object he.1 hobject) fun v hv => ?_
    refine Eval.ends_bind (hpart f subscript he.2 hsubscript) fun i _ => ?_
    refine Eval.ends_ofExcept (yields_of_gives (gives_mapError ?_))
    exact (carries_height (d + m + 1)).index leaf (Nat.le_succ_of_le hv)
  | neg pos operand =>
    refine Eval.ends_bind (hpart f operand he (Nat.lt_succ_self _)) fun v _ => ?_
    split
    · exact Eval.ends_pure leaf
    · exact Eval.ends_fail trivial

/-- Where no lambda is called, one level of evaluation adds at most one to the height of what is bound. -/
theorem evalAt_height_le (h : scope.Within registered d) {left : Nat} (hn : d + m ≤ n) (f : Frame)
    {e : Expr} (he : e.CallsPaths registered) (hm : min left e.depth ≤ m) :
    Eval.Keeps (fun r => r.depth ≤ n) (fun v => v.height ≤ d + m)
      (evalAt registered left f scope e) := by
  induction left generalizing f e m with
  | zero => exact Eval.ends_fail trivial
  | succ left ih =>
    have hpos := e.depth_pos
    obtain ⟨m, rfl⟩ : ∃ k, m = k + 1 := ⟨m - 1, by omega⟩
    refine evalStep_height_le h hn f (fun f e => evalAt_isWord h left f) ?_ he
    exact fun f part hpart hlt => ih (by omega) f hpart (by omega)

end

end

/-! ## Programs -/

/-- How many levels a program's evaluations may go down, those of bindings on top of each other. -/
def Program.evalDepth : Program → Nat
  | [] => 0
  | .bind _ _ value :: rest => min maxEvals value.depth + Program.evalDepth rest
  | .expr e :: rest => max (min maxEvals e.depth) (Program.evalDepth rest)

/-- The bindings so far, and what the statements that are left may put on top of them. -/
def Program.EndsWithin (registered : String → Bool) (n : Nat) (p : Program) (scope : Scope) : Prop :=
  ∃ d, scope.Within registered d ∧ d + p.evalDepth ≤ n ∧ ∀ s ∈ p, s.body.CallsPaths registered

/-- Where no lambda is called, a rule is no deeper than the evaluations of its program. -/
theorem Program.root_depth_le {p : Program} (hp : ∀ s ∈ p, s.body.CallsPaths registered) :
    Gives (fun r => r.depth ≤ p.evalDepth) (p.root registered) := by
  have hstart : p.EndsWithin registered p.evalDepth [] :=
    ⟨0, List.forall_mem_nil _, (Nat.zero_add _).le, hp⟩
  refine gives_of_yields (Program.root_yields (Q := fun _ => True)
    (runStmts_yields (fun _ _ _ _ _ _ _ => trivial) ?_ ?_ hstart (by simp)))
  · rintro pos name value rest scope ⟨d, hscope, hd, hpaths⟩ hname
    obtain ⟨hbody, hrest⟩ := List.forall_mem_cons.1 hpaths
    rw [Program.evalDepth, ← Nat.add_assoc] at hd
    have hhere : d + min maxEvals value.depth ≤ p.evalDepth := by omega
    refine (evalAt_height_le hscope hhere (.start false) hbody (Nat.le_refl _)).mono fun v hv => ?_
    exact ⟨d + min maxEvals value.depth, hscope.cons hname hv, hd, hrest⟩
  · rintro e rest scope ⟨d, hscope, hd, hpaths⟩
    obtain ⟨hbody, hrest⟩ := List.forall_mem_cons.1 hpaths
    rw [Program.evalDepth] at hd
    have hhere : d + min maxEvals e.depth ≤ p.evalDepth := by omega
    refine (evalAt_height_le hscope hhere (.start true) hbody (Nat.le_refl _)).mono fun _ _ => ?_
    exact ⟨d, hscope, by omega, hrest⟩

theorem Program.evalDepth_le_of_no_bindings {p : Program} (hp : ∀ s ∈ p, ∃ e, s = .expr e) :
    p.evalDepth ≤ maxEvals := by
  induction p with
  | nil => exact Nat.zero_le _
  | cons stmt rest ih =>
    obtain ⟨⟨e, rfl⟩, hrest⟩ := List.forall_mem_cons.1 hp
    exact max_le (Nat.min_le_left ..) (ih hrest)

/-- Where no lambda is called and the bindings leave room, no rule is deeper than evaluations may nest. -/
theorem Registry.depth_le_maxEvals {r : Registry} {text : String} {p : Program} {rule : Rule}
    (hp : Program.ofText text = .ok p) (hpaths : ∀ s ∈ p, s.body.CallsPaths r.contains)
    (hroom : p.evalDepth ≤ maxEvals) (h : r.load text = .ok rule) : rule.depth ≤ maxEvals := by
  rw [Registry.load, Rule.ofText, hp] at h
  exact (Program.root_depth_le hpaths rule h).trans hroom

/-- `let r=Str();Is.Not(r)` -/
def boundProgram : Program :=
  [.bind ⟨0, 1, 1⟩ "r" (.call ⟨9, 1, 10⟩ (.ident ⟨6, 1, 7⟩ "Str") []),
    .expr (.call ⟨18, 1, 19⟩ (.member ⟨14, 1, 15⟩ (.ident ⟨12, 1, 13⟩ "Is") "Not")
      [.ident ⟨19, 1, 20⟩ "r"])]

def boundRule : Rule := .not .is (.str none none none)

theorem Registry.depth_le_maxEvals_bound :
    Program.ofText "let r=Str();Is.Not(r)" = .ok boundProgram ∧
      (∀ s ∈ boundProgram, s.body.CallsPaths Registry.standard.contains) ∧
      boundProgram.evalDepth ≤ maxEvals ∧
      Registry.standard.load "let r=Str();Is.Not(r)" = .ok boundRule ∧ boundRule.depth ≤ maxEvals := by
  have hp : Program.ofText "let r=Str();Is.Not(r)" = .ok boundProgram := by with_unfolding_all rfl
  have hpaths : ∀ s ∈ boundProgram, s.body.CallsPaths Registry.standard.contains :=
    List.forall_mem_cons.2 ⟨⟨rfl, trivial⟩, List.forall_mem_singleton.2 ⟨rfl, trivial, trivial⟩⟩
  have hroom : boundProgram.evalDepth ≤ maxEvals := by decide
  have hload : Registry.standard.load "let r=Str();Is.Not(r)" = .ok boundRule := by
    with_unfolding_all rfl
  exact ⟨hp, hpaths, hroom, hload, Registry.depth_le_maxEvals hp hpaths hroom hload⟩

end Rulebook
