import Rulebook.Source.Syntax

/-!
# Syntax trees

Induction over expressions, where the parts in lists may be assumed to have the property, trees without
the places in them, the expressions that a tree is made of, and how deep it is.
-/

namespace Rulebook

@[elab_as_elim]
theorem Expr.induct {P : Expr → Prop}
    (null : ∀ pos, P (.null pos))
    (bool : ∀ pos b, P (.bool pos b))
    (number : ∀ pos n, P (.number pos n))
    (string : ∀ pos s, P (.string pos s))
    (regex : ∀ pos pattern flags, P (.regex pos pattern flags))
    (ident : ∀ pos name, P (.ident pos name))
    (array : ∀ pos items, (∀ e ∈ items, P e) → P (.array pos items))
    (object : ∀ pos entries, (∀ e ∈ entries, P e.2) → P (.object pos entries))
    (lambda : ∀ pos param body, P body → P (.lambda pos param body))
    (call : ∀ pos callee args, P callee → (∀ e ∈ args, P e) → P (.call pos callee args))
    (member : ∀ pos object name, P object → P (.member pos object name))
    (index : ∀ pos object subscript, P object → P subscript → P (.index pos object subscript))
    (neg : ∀ pos operand, P operand → P (.neg pos operand)) (e : Expr) : P e := by
  refine Expr.rec (motive_1 := P) (motive_2 := fun items => ∀ e ∈ items, P e)
    (motive_3 := fun entries => ∀ e ∈ entries, P e.2) (motive_4 := fun entry => P entry.2)
    null bool number string regex ident array object lambda call member index neg
    ?_ ?_ ?_ ?_ ?_ e
  case refine_1 | refine_3 => simp
  case refine_2 | refine_4 =>
    intro head tail hhead htail
    exact List.forall_mem_cons.2 ⟨hhead, htail⟩
  case refine_5 => exact fun _ _ h => h

/-- The expression of a statement. -/
def Stmt.body : Stmt → Expr
  | .bind _ _ value => value
  | .expr e => e

/-! ## Trees without places -/

mutual

/-- The same tree with every place at the default. -/
def Expr.bare : Expr → Expr
  | .null _ => .null default
  | .bool _ b => .bool default b
  | .number _ n => .number default n
  | .string _ s => .string default s
  | .regex _ pattern flags => .regex default pattern flags
  | .ident _ name => .ident default name
  | .array _ items => .array default (bareItems items)
  | .object _ entries => .object default (bareEntries entries)
  | .lambda _ param body => .lambda default param body.bare
  | .call _ callee args => .call default callee.bare (bareItems args)
  | .member _ object name => .member default object.bare name
  | .index _ object subscript => .index default object.bare subscript.bare
  | .neg _ operand => .neg default operand.bare

def bareItems : List Expr → List Expr
  | [] => []
  | e :: es => e.bare :: bareItems es

def bareEntries : List (String × Expr) → List (String × Expr)
  | [] => []
  | (key, e) :: rest => (key, e.bare) :: bareEntries rest

end

def Stmt.bare : Stmt → Stmt
  | .bind _ name value => .bind default name value.bare
  | .expr e => .expr e.bare

def Program.bare (p : Program) : Program := p.map Stmt.bare

theorem bareItems_eq_map (items : List Expr) : bareItems items = items.map Expr.bare := by
  induction items with
  | nil => rfl
  | cons e es ih => rw [bareItems, ih, List.map_cons]

theorem bareEntries_eq_map (entries : List (String × Expr)) :
    bareEntries entries = entries.map fun e => (e.1, e.2.bare) := by
  induction entries with
  | nil => rfl
  | cons e rest ih => rw [bareEntries, ih, List.map_cons]

/-! ## Nodes -/

/-- The expressions directly in an expression. -/
def Expr.parts : Expr → List Expr
  | .array _ items => items
  | .object _ entries => entries.map Prod.snd
  | .lambda _ _ body => [body]
  | .call _ callee args => callee :: args
  | .member _ owner _ => [owner]
  | .index _ owner subscript => [owner, subscript]
  | .neg _ operand => [operand]
  | .null _ | .bool .. | .number .. | .string .. | .regex .. | .ident .. => []

mutual

/-- An expression, and those in it at any depth. -/
def Expr.nodes : Expr → List Expr
  | e@(.array _ items) => e :: nodesOf items
  | e@(.object _ entries) => e :: nodesIn entries
  | e@(.lambda _ _ body) => e :: body.nodes
  | e@(.call _ callee args) => e :: (callee.nodes ++ nodesOf args)
  | e@(.member _ object _) => e :: object.nodes
  | e@(.index _ object subscript) => e :: (object.nodes ++ subscript.nodes)
  | e@(.neg _ operand) => e :: operand.nodes
  | e@(.null _) | e@(.bool ..) | e@(.number ..) | e@(.string ..) | e@(.regex ..) | e@(.ident ..) => [e]

def nodesOf : List Expr → List Expr
  | [] => []
  | e :: es => e.nodes ++ nodesOf es

def nodesIn : List (String × Expr) → List Expr
  | [] => []
  | (_, e) :: rest => e.nodes ++ nodesIn rest

end

theorem nodesOf_eq_flatMap (items : List Expr) : nodesOf items = items.flatMap Expr.nodes := by
  induction items with
  | nil => rfl
  | cons e es ih => rw [nodesOf, ih, List.flatMap_cons]

theorem nodesIn_eq_flatMap (entries : List (String × Expr)) :
    nodesIn entries = entries.flatMap fun e => e.2.nodes := by
  induction entries with
  | nil => rfl
  | cons e rest ih => rw [nodesIn, ih, List.flatMap_cons]

theorem Expr.nodes_eq (e : Expr) : e.nodes = e :: e.parts.flatMap nodes := by
  cases e <;> simp [nodes, parts, nodesOf_eq_flatMap, nodesIn_eq_flatMap, List.flatMap_map]

/-- Every expression in an expression, itself included, is as `P` says. -/
def Expr.Every (P : Expr → Prop) (e : Expr) : Prop := ∀ n ∈ e.nodes, P n

theorem Expr.every_iff {P : Expr → Prop} {e : Expr} :
    e.Every P ↔ P e ∧ ∀ part ∈ e.parts, part.Every P := by
  simp only [Every, nodes_eq e, List.forall_mem_cons, List.forall_mem_flatMap]

/-! ## Depth -/

mutual

/-- The number of expressions on the longest path down. -/
def Expr.depth : Expr → Nat
  | .null _ | .bool .. | .number .. | .string .. | .regex .. | .ident .. => 1
  | .array _ items => depthOf items + 1
  | .object _ entries => depthIn entries + 1
  | .lambda _ _ body => body.depth + 1
  | .call _ callee args => max callee.depth (depthOf args) + 1
  | .member _ object _ => object.depth + 1
  | .index _ object subscript => max object.depth subscript.depth + 1
  | .neg _ operand => operand.depth + 1

def depthOf : List Expr → Nat
  | [] => 0
  | e :: es => max e.depth (depthOf es)

def depthIn : List (String × Expr) → Nat
  | [] => 0
  | (_, e) :: rest => max e.depth (depthIn rest)

end

theorem depthOf_le_iff {items : List Expr} {d : Nat} :
    depthOf items ≤ d ↔ ∀ e ∈ items, e.depth ≤ d := by
  induction items with
  | nil => simp [depthOf]
  | cons e es ih => rw [depthOf, Nat.max_le, ih, List.forall_mem_cons]

theorem depthIn_le_iff {entries : List (String × Expr)} {d : Nat} :
    depthIn entries ≤ d ↔ ∀ e ∈ entries, e.2.depth ≤ d := by
  induction entries with
  | nil => simp [depthIn]
  | cons e rest ih => rw [depthIn, Nat.max_le, ih, List.forall_mem_cons]

theorem Expr.depth_pos (e : Expr) : 0 < e.depth := by
  cases e <;> exact Nat.succ_pos _

theorem depthOf_bare {items : List Expr} (h : ∀ e ∈ items, e.bare.depth = e.depth) :
    depthOf (bareItems items) = depthOf items := by
  induction items with
  | nil => rfl
  | cons e es ih =>
    rw [List.forall_mem_cons] at h
    rw [bareItems, depthOf, depthOf, h.1, ih h.2]

theorem depthIn_bare {entries : List (String × Expr)} (h : ∀ e ∈ entries, e.2.bare.depth = e.2.depth) :
    depthIn (bareEntries entries) = depthIn entries := by
  induction entries with
  | nil => rfl
  | cons e rest ih =>
    rw [List.forall_mem_cons] at h
    rw [bareEntries, depthIn, depthIn, h.1, ih h.2]

theorem Expr.depth_bare (e : Expr) : e.bare.depth = e.depth := by
  induction e using Expr.induct with
  | array pos items h => rw [bare, depth, depth, depthOf_bare h]
  | object pos entries h => rw [bare, depth, depth, depthIn_bare h]
  | lambda pos param body h => rw [bare, depth, depth, h]
  | call pos callee args h hargs => rw [bare, depth, depth, h, depthOf_bare hargs]
  | member pos object name h => rw [bare, depth, depth, h]
  | index pos object subscript h hsubscript => rw [bare, depth, depth, h, hsubscript]
  | neg pos operand h => rw [bare, depth, depth, h]
  | _ => rfl

theorem Stmt.depth_body_bare (s : Stmt) : s.bare.body.depth = s.body.depth := by
  cases s <;> exact Expr.depth_bare _

end Rulebook
