import Rulebook.Proofs.SyntaxTrees

/-!
# Rendering

A program is written with the fewest tokens, except that every statement ends in a semicolon. How deep
the reader counts on the way is given by the tree alone.
-/

namespace Rulebook

/-! ## Rendering -/

/-- A sign or a lambda takes in the links after it, so before links it stands in parentheses. -/
def Expr.isOpen : Expr → Bool
  | .neg .. | .lambda .. => true
  | _ => false

def enclosed (opening : TokenKind) (kinds : List TokenKind) (closing : TokenKind) : List TokenKind :=
  opening :: kinds ++ [closing]

mutual

def Expr.render : Expr → List TokenKind
  | .null _ => [.nullWord]
  | .bool _ b => [if b then .trueWord else .falseWord]
  | .number _ n => [.number n]
  | .string _ s => [.string s]
  | .regex _ pattern flags => [.regex pattern flags]
  | .ident _ name => [.ident name]
  | .array _ items => enclosed .lbracket ([.comma].intercalate (renderItems items)) .rbracket
  | .object _ entries => enclosed .lbrace ([.comma].intercalate (renderEntries entries)) .rbrace
  | .lambda _ param body =>
    enclosed .lparen (param.toList.map .ident) .rparen ++ .arrow :: body.render
  | .call _ callee args =>
    (if callee.isOpen then enclosed .lparen callee.render .rparen else callee.render) ++
      enclosed .lparen ([.comma].intercalate (renderItems args)) .rparen
  | .member _ object name =>
    (if object.isOpen then enclosed .lparen object.render .rparen else object.render) ++
      [.dot, .ident name]
  | .index _ object subscript =>
    (if object.isOpen then enclosed .lparen object.render .rparen else object.render) ++
      enclosed .lbracket subscript.render .rbracket
  | .neg _ operand => .minus :: operand.render

def renderItems : List Expr → List (List TokenKind)
  | [] => []
  | e :: es => e.render :: renderItems es

def renderEntries : List (String × Expr) → List (List TokenKind)
  | [] => []
  | (key, e) :: rest => (.string key :: .colon :: e.render) :: renderEntries rest

end

/-- An expression that has links after it. -/
def Expr.renderObject (e : Expr) : List TokenKind :=
  if e.isOpen then enclosed .lparen e.render .rparen else e.render

def renderEntry (entry : String × Expr) : List TokenKind :=
  .string entry.1 :: .colon :: entry.2.render

def Stmt.render : Stmt → List TokenKind
  | .bind _ name value => .letWord :: .ident name :: .eq :: value.render ++ [.semi]
  | .expr e => e.render ++ [.semi]

def Program.render (p : Program) : List TokenKind := p.flatMap Stmt.render

theorem renderItems_eq_map (items : List Expr) : renderItems items = items.map Expr.render := by
  induction items with
  | nil => rfl
  | cons e es ih => rw [renderItems, ih, List.map_cons]

theorem renderEntries_eq_map (entries : List (String × Expr)) :
    renderEntries entries = entries.map renderEntry := by
  induction entries with
  | nil => rfl
  | cons e rest ih => rw [renderEntries, ih, List.map_cons, renderEntry]

/-! ## Levels -/

/-- The links that an expression ends in. -/
def Expr.links : Expr → Nat
  | .call _ e _ | .member _ e _ | .index _ e _ => e.links + 1
  | _ => 0

mutual

/-- How far the count of levels rises while an expression is read, once its own is counted: one level
for each nested expression, parenthesis or sign, and one for each link of a chain that is not ended. -/
def Expr.rise : Expr → Nat
  | .null _ | .bool .. | .number .. | .string .. | .regex .. | .ident .. => 0
  | .array _ items => levelsOf items
  | .object _ entries => levelsIn entries
  | .lambda _ _ body => body.rise + 1
  | .call _ callee args =>
    max (callee.rise + if callee.isOpen then 1 else 0) (callee.links + 1 + levelsOf args)
  | .member _ object _ => max (object.rise + if object.isOpen then 1 else 0) (object.links + 1)
  | .index _ object subscript =>
    max (object.rise + if object.isOpen then 1 else 0) (object.links + 1 + (subscript.rise + 1))
  | .neg _ operand => operand.rise + 1

def levelsOf : List Expr → Nat
  | [] => 0
  | e :: es => max (e.rise + 1) (levelsOf es)

def levelsIn : List (String × Expr) → Nat
  | [] => 0
  | (_, e) :: rest => max (e.rise + 1) (levelsIn rest)

end

/-- The highest count of levels while an expression is read. -/
def Expr.levels (e : Expr) : Nat := e.rise + 1

/-- How far the count rises while an expression is read that has links after it. -/
def Expr.objectRise (e : Expr) : Nat := e.rise + if e.isOpen then 1 else 0

theorem levelsOf_le_iff {items : List Expr} {n : Nat} :
    levelsOf items ≤ n ↔ ∀ e ∈ items, e.levels ≤ n := by
  induction items with
  | nil => simp [levelsOf]
  | cons e es ih => rw [levelsOf, Nat.max_le, ih, List.forall_mem_cons, Expr.levels]

theorem levelsIn_le_iff {entries : List (String × Expr)} {n : Nat} :
    levelsIn entries ≤ n ↔ ∀ e ∈ entries, e.2.levels ≤ n := by
  induction entries with
  | nil => simp [levelsIn]
  | cons e rest ih => rw [levelsIn, Nat.max_le, ih, List.forall_mem_cons, Expr.levels]

end Rulebook
