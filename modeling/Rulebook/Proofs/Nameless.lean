import Mathlib.Data.List.Forall2
import Rulebook.Eval.Expr
import Rulebook.Proofs.SyntaxTrees

/-!
# Texts without the names of their binders

The nameless form of a text says of each name which binding it refers to, and leaves out what the bindings are
called. A binder may be renamed, with all that it binds, to a name that the text does not have: the
nameless form stays the same.
-/

namespace Rulebook

/-! ## References -/

/-- What a name refers to: the binding below so many others, or what bears the name itself. -/
inductive Reference where
  | bound (i : Nat)
  | free (name : String)
  deriving DecidableEq, Repr

namespace Reference

/-- Under bindings of the given names, the innermost first. -/
def of (names : List String) (name : String) : Reference :=
  match names.idxOf? name with
  | some i => .bound i
  | none => .free name

/-- The same reference below one more binding. -/
def lift : Reference → Reference
  | bound i => bound (i + 1)
  | free name => free name

theorem of_cons (binder : String) (names : List String) (name : String) :
    of (binder :: names) name = if binder = name then bound 0 else (of names name).lift := by
  unfold of
  rw [List.idxOf?_cons]
  by_cases h : binder = name
  · simp [h]
  · cases hi : names.idxOf? name <;> simp [h, lift]

/-- Names that are the same binder, or both another, refer to the same below it. -/
theorem of_cons_congr {binder binder' name name' : String} {names names' : List String}
    (hbinder : binder = name ↔ binder' = name') (h : of names name = of names' name') :
    of (binder :: names) name = of (binder' :: names') name' := by
  rw [of_cons, of_cons, h]
  simp only [hbinder]

end Reference

/-- Names refer to the same under both bindings, where `x` is called `y` under the second. -/
structure Renames (x y : String) (names names' : List String) : Prop where
  self : Reference.of names x = Reference.of names' y
  other : ∀ z, z ≠ x → z ≠ y → Reference.of names z = Reference.of names' z

namespace Renames

variable {x y : String} {names names' : List String}

theorem binder (x y : String) (names : List String) : Renames x y (x :: names) (y :: names) where
  self := by rw [Reference.of_cons, Reference.of_cons, if_pos rfl, if_pos rfl]
  other z hx hy := Reference.of_cons_congr (by simp [hx.symm, hy.symm]) rfl

theorem cons (h : Renames x y names names') {z : String} (hx : z ≠ x) (hy : z ≠ y) :
    Renames x y (z :: names) (z :: names') where
  self := Reference.of_cons_congr (by simp [hx, hy]) h.self
  other w hwx hwy := Reference.of_cons_congr Iff.rfl (h.other w hwx hwy)

/-- Below another binding of `x` nothing is renamed. -/
theorem shadow (h : Renames x y names names') {z : String} (hy : z ≠ y) :
    Reference.of (x :: names) z = Reference.of (x :: names') z := by
  by_cases hx : z = x
  · rw [Reference.of_cons, Reference.of_cons, if_pos hx.symm, if_pos hx.symm]
  · exact Reference.of_cons_congr Iff.rfl (h.other z hx hy)

end Renames

/-! ## Nameless forms -/

inductive Nameless where
  /-- What has no names. -/
  | leaf (e : Expr)
  | ident (pos : Position) (r : Reference)
  | array (pos : Position) (items : List Nameless)
  | object (pos : Position) (entries : List (String × Nameless))
  | lambda (pos : Position) (binds : Bool) (body : Nameless)
  | call (pos : Position) (callee : Nameless) (args : List Nameless)
  | member (pos : Position) (owner : Nameless) (name : String)
  | index (pos : Position) (owner subscript : Nameless)
  | neg (pos : Position) (operand : Nameless)

mutual

/-- The nameless form of an expression under bindings of the given names. -/
def Expr.nameless (names : List String) : Expr → Nameless
  | e@(.null _) | e@(.bool ..) | e@(.number ..) | e@(.string ..) | e@(.regex ..) => .leaf e
  | .ident pos name => .ident pos (.of names name)
  | .array pos items => .array pos (namelessItems names items)
  | .object pos entries => .object pos (namelessEntries names entries)
  | .lambda pos param body => .lambda pos param.isSome (body.nameless (param.toList ++ names))
  | .call pos callee args => .call pos (callee.nameless names) (namelessItems names args)
  | .member pos owner name => .member pos (owner.nameless names) name
  | .index pos owner subscript => .index pos (owner.nameless names) (subscript.nameless names)
  | .neg pos operand => .neg pos (operand.nameless names)

def namelessItems (names : List String) : List Expr → List Nameless
  | [] => []
  | e :: es => e.nameless names :: namelessItems names es

def namelessEntries (names : List String) : List (String × Expr) → List (String × Nameless)
  | [] => []
  | (key, e) :: rest => (key, e.nameless names) :: namelessEntries names rest

end

theorem namelessItems_eq_map (names : List String) (items : List Expr) :
    namelessItems names items = items.map (·.nameless names) := by
  induction items with
  | nil => rfl
  | cons e es ih => rw [namelessItems, ih, List.map_cons]

theorem namelessEntries_eq_map (names : List String) (entries : List (String × Expr)) :
    namelessEntries names entries = entries.map fun e => (e.1, e.2.nameless names) := by
  induction entries with
  | nil => rfl
  | cons e rest ih => rw [namelessEntries, ih, List.map_cons]

/-- The nameless form of a statement. -/
inductive NamelessStmt where
  /-- A name is kept if no binding may have it. -/
  | bind (pos : Position) (taken : Option String) (value : Nameless)
  | expr (e : Nameless)

/-- The name, if it has a meaning of its own. -/
def taken? (registered : String → Bool) (name : String) : Option String :=
  (global registered name).map fun _ => name

def Program.nameless (registered : String → Bool) (names : List String) : Program → List NamelessStmt
  | [] => []
  | .expr e :: rest => .expr (e.nameless names) :: Program.nameless registered names rest
  | .bind pos name value :: rest =>
    .bind pos (taken? registered name) (value.nameless names) ::
      Program.nameless registered (name :: names) rest

/-! ## Names that a text does not have -/

/-- The name that an expression is, or that it binds. -/
def Expr.name? : Expr → Option String
  | .ident _ name => some name
  | .lambda _ param _ => param
  | _ => none

def Expr.Lacks (y : String) (e : Expr) : Prop := e.Every (·.name? ≠ some y)

theorem Expr.lacks_iff {y : String} {e : Expr} :
    e.Lacks y ↔ e.name? ≠ some y ∧ ∀ part ∈ e.parts, part.Lacks y := every_iff

theorem Expr.Lacks.name {y : String} {e : Expr} (h : e.Lacks y) : e.name? ≠ some y := (lacks_iff.1 h).1

theorem Expr.Lacks.part {y : String} {e part : Expr} (h : e.Lacks y) (hpart : part ∈ e.parts) :
    part.Lacks y := (lacks_iff.1 h).2 part hpart

/-- The name that a statement binds. -/
def Stmt.name? : Stmt → Option String
  | .bind _ name _ => some name
  | .expr _ => none

/-- No statement binds the name, and none has it in its expression. -/
def Program.Lacks (y : String) (p : Program) : Prop := ∀ s ∈ p, s.name? ≠ some y ∧ s.body.Lacks y

theorem Program.lacks_expr {y : String} {e : Expr} {p : Program} :
    Program.Lacks y (.expr e :: p) ↔ e.Lacks y ∧ p.Lacks y := by
  simp [Lacks, Stmt.name?, Stmt.body]

theorem Program.lacks_bind {y name : String} {pos : Position} {value : Expr} {p : Program} :
    Program.Lacks y (.bind pos name value :: p) ↔ name ≠ y ∧ value.Lacks y ∧ p.Lacks y := by
  simp [Lacks, Stmt.name?, Stmt.body, and_assoc]

/-- What a name refers to matters only where the text has it. -/
theorem Expr.nameless_congr {y : String} {e : Expr} (hy : e.Lacks y) {names names' : List String}
    (h : ∀ z, z ≠ y → Reference.of names z = Reference.of names' z) :
    e.nameless names = e.nameless names' := by
  induction e using Expr.induct generalizing names names' with
  | null | bool | number | string | regex => simp only [nameless]
  | ident pos name =>
    have hname : name ≠ y := by simpa [name?] using hy.name
    simp only [nameless, h name hname]
  | array pos items hitems =>
    simp only [nameless, namelessItems_eq_map]
    rw [List.map_congr_left fun e he => hitems e he (hy.part he) h]
  | object pos entries hentries =>
    have hparts := List.forall_mem_map.1 (lacks_iff.1 hy).2
    simp only [nameless, namelessEntries_eq_map]
    rw [List.map_congr_left fun e he => congrArg (e.1, ·) (hentries e he (hparts e he) h)]
  | lambda pos param body hbody =>
    simp only [nameless]
    rw [hbody (hy.part List.mem_cons_self)]
    -- A parameter comes in front of both lists.
    cases param with
    | none => exact h
    | some p => exact fun z hz => Reference.of_cons_congr Iff.rfl (h z hz)
  | call pos callee args hcallee hargs =>
    obtain ⟨hc, ha⟩ := List.forall_mem_cons.1 (lacks_iff.1 hy).2
    simp only [nameless, namelessItems_eq_map]
    rw [hcallee hc h, List.map_congr_left fun e he => hargs e he (ha e he) h]
  | member pos owner name howner =>
    simp only [nameless, howner (hy.part List.mem_cons_self) h]
  | index pos owner subscript howner hsubscript =>
    obtain ⟨ho, hs⟩ := List.forall_mem_cons.1 (lacks_iff.1 hy).2
    simp only [nameless, howner ho h, hsubscript (hs subscript List.mem_cons_self) h]
  | neg pos operand hoperand =>
    simp only [nameless, hoperand (hy.part List.mem_cons_self) h]

theorem Program.nameless_congr {y : String} {registered : String → Bool} {p : Program} (hy : p.Lacks y)
    {names names' : List String} (h : ∀ z, z ≠ y → Reference.of names z = Reference.of names' z) :
    p.nameless registered names = p.nameless registered names' := by
  induction p generalizing names names' with
  | nil => rfl
  | cons s rest ih =>
    cases s with
    | expr e =>
      obtain ⟨he, hrest⟩ := lacks_expr.1 hy
      rw [nameless, nameless, Expr.nameless_congr he h, ih hrest h]
    | bind pos name value =>
      obtain ⟨-, hvalue, hrest⟩ := lacks_bind.1 hy
      rw [nameless, nameless, Expr.nameless_congr hvalue h, ih hrest]
      exact fun z hz => Reference.of_cons_congr Iff.rfl (h z hz)

/-! ## Renaming what is not bound inside -/

mutual

/-- Every `x` that is not bound by a lambda inside becomes `y`. -/
def Expr.rename (x y : String) : Expr → Expr
  | e@(.null _) | e@(.bool ..) | e@(.number ..) | e@(.string ..) | e@(.regex ..) => e
  | .ident pos name => .ident pos (if name = x then y else name)
  | .array pos items => .array pos (renameItems x y items)
  | .object pos entries => .object pos (renameEntries x y entries)
  | .lambda pos param body => .lambda pos param (if param = some x then body else body.rename x y)
  | .call pos callee args => .call pos (callee.rename x y) (renameItems x y args)
  | .member pos owner name => .member pos (owner.rename x y) name
  | .index pos owner subscript => .index pos (owner.rename x y) (subscript.rename x y)
  | .neg pos operand => .neg pos (operand.rename x y)

def renameItems (x y : String) : List Expr → List Expr
  | [] => []
  | e :: es => e.rename x y :: renameItems x y es

def renameEntries (x y : String) : List (String × Expr) → List (String × Expr)
  | [] => []
  | (key, e) :: rest => (key, e.rename x y) :: renameEntries x y rest

end

/-- Every `x` becomes `y`, up to where a statement binds `x` anew. -/
def Program.rename (x y : String) : Program → Program
  | [] => []
  | .expr e :: rest => .expr (e.rename x y) :: Program.rename x y rest
  | .bind pos name value :: rest =>
    .bind pos name (value.rename x y) :: if name = x then rest else Program.rename x y rest

theorem renameItems_eq_map (x y : String) (items : List Expr) :
    renameItems x y items = items.map (·.rename x y) := by
  induction items with
  | nil => rfl
  | cons e es ih => rw [renameItems, ih, List.map_cons]

theorem renameEntries_eq_map (x y : String) (entries : List (String × Expr)) :
    renameEntries x y entries = entries.map fun e => (e.1, e.2.rename x y) := by
  induction entries with
  | nil => rfl
  | cons e rest ih => rw [renameEntries, ih, List.map_cons]

theorem Expr.nameless_rename {x y : String} {e : Expr} (hy : e.Lacks y) {names names' : List String}
    (h : Renames x y names names') : (e.rename x y).nameless names' = e.nameless names := by
  induction e using Expr.induct generalizing names names' with
  | null | bool | number | string | regex => simp only [rename, nameless]
  | ident pos name =>
    have hname : name ≠ y := by simpa [name?] using hy.name
    simp only [rename, nameless]
    split
    · rename_i hx
      rw [hx, h.self]
    · rename_i hx
      rw [h.other name hx hname]
  | array pos items hitems =>
    simp only [rename, nameless, renameItems_eq_map, namelessItems_eq_map, List.map_map]
    rw [← List.map_congr_left fun e he => hitems e he (hy.part he) h]
    rfl
  | object pos entries hentries =>
    have hparts := List.forall_mem_map.1 (lacks_iff.1 hy).2
    simp only [rename, nameless, renameEntries_eq_map, namelessEntries_eq_map, List.map_map]
    rw [← List.map_congr_left fun e he => congrArg (e.1, ·) (hentries e he (hparts e he) h)]
    rfl
  | lambda pos param body hbody =>
    have hbodyLacks : body.Lacks y := hy.part List.mem_cons_self
    simp only [rename, nameless]
    cases param with
    | none => exact congrArg _ (hbody hbodyLacks h)
    | some p =>
      have hpy : p ≠ y := by simpa [name?] using hy.name
      by_cases hpx : p = x
      -- The parameter binds the name anew, so the body is kept; as `y` does not occur in it, that the
      -- outer binding is now called `y` does not show.
      · subst hpx
        rw [if_pos rfl]
        exact congrArg _ (nameless_congr hbodyLacks fun z hz => (h.shadow hz).symm)
      · rw [if_neg (by simpa using hpx)]
        exact congrArg _ (hbody hbodyLacks (h.cons hpx hpy))
  | call pos callee args hcallee hargs =>
    obtain ⟨hc, ha⟩ := List.forall_mem_cons.1 (lacks_iff.1 hy).2
    simp only [rename, nameless, renameItems_eq_map, namelessItems_eq_map, List.map_map]
    rw [hcallee hc h, ← List.map_congr_left fun e he => hargs e he (ha e he) h]
    rfl
  | member pos owner name howner =>
    simp only [rename, nameless, howner (hy.part List.mem_cons_self) h]
  | index pos owner subscript howner hsubscript =>
    obtain ⟨ho, hs⟩ := List.forall_mem_cons.1 (lacks_iff.1 hy).2
    simp only [rename, nameless, howner ho h, hsubscript (hs subscript List.mem_cons_self) h]
  | neg pos operand hoperand =>
    simp only [rename, nameless, hoperand (hy.part List.mem_cons_self) h]

theorem Program.nameless_rename {x y : String} {registered : String → Bool} {p : Program}
    (hy : p.Lacks y) {names names' : List String} (h : Renames x y names names') :
    (p.rename x y).nameless registered names' = p.nameless registered names := by
  induction p generalizing names names' with
  | nil => rfl
  | cons s rest ih =>
    cases s with
    | expr e =>
      obtain ⟨he, hrest⟩ := lacks_expr.1 hy
      rw [rename, nameless, nameless, Expr.nameless_rename he h, ih hrest h]
    | bind pos name value =>
      obtain ⟨hname, hvalue, hrest⟩ := lacks_bind.1 hy
      rw [rename, nameless, nameless, Expr.nameless_rename hvalue h]
      split
      · rename_i hx
        subst hx
        rw [nameless_congr hrest fun z hz => h.shadow hz]
      · rename_i hx
        rw [ih hrest (h.cons hx hname)]

/-! ## Renaming a binder -/

/-- One lambda's parameter is `y` in the second, and so is every name that it binds. -/
inductive Expr.Rebound (y : String) : Expr → Expr → Prop
  | param (pos : Position) (x : String) (body : Expr) :
      Rebound y (.lambda pos (some x) body) (.lambda pos (some y) (body.rename x y))
  | body (pos : Position) (param : Option String) {body body' : Expr} (h : body.Rebound y body') :
      Rebound y (.lambda pos param body) (.lambda pos param body')
  | item (pos : Position) (before after : List Expr) {e e' : Expr} (h : e.Rebound y e') :
      Rebound y (.array pos (before ++ e :: after)) (.array pos (before ++ e' :: after))
  | entry (pos : Position) (before after : List (String × Expr)) (key : String) {e e' : Expr}
      (h : e.Rebound y e') :
      Rebound y (.object pos (before ++ (key, e) :: after)) (.object pos (before ++ (key, e') :: after))
  | callee (pos : Position) (args : List Expr) {callee callee' : Expr} (h : callee.Rebound y callee') :
      Rebound y (.call pos callee args) (.call pos callee' args)
  | arg (pos : Position) (callee : Expr) (before after : List Expr) {e e' : Expr} (h : e.Rebound y e') :
      Rebound y (.call pos callee (before ++ e :: after)) (.call pos callee (before ++ e' :: after))
  | memberOf (pos : Position) (name : String) {owner owner' : Expr} (h : owner.Rebound y owner') :
      Rebound y (.member pos owner name) (.member pos owner' name)
  | itemOf (pos : Position) (subscript : Expr) {owner owner' : Expr} (h : owner.Rebound y owner') :
      Rebound y (.index pos owner subscript) (.index pos owner' subscript)
  | subscript (pos : Position) (owner : Expr) {subscript subscript' : Expr}
      (h : subscript.Rebound y subscript') :
      Rebound y (.index pos owner subscript) (.index pos owner subscript')
  | operand (pos : Position) {operand operand' : Expr} (h : operand.Rebound y operand') :
      Rebound y (.neg pos operand) (.neg pos operand')

/-- One binder, of a statement or of a lambda, is `y` in the second, and so is every name that it binds. -/
inductive Program.Rebound (registered : String → Bool) (y : String) : Program → Program → Prop
  | binder (pos : Position) {x : String} (value : Expr) (rest : Program)
      (hx : global registered x = none) :
      Rebound registered y (.bind pos x value :: rest) (.bind pos y value :: rest.rename x y)
  | value (pos : Position) (name : String) (rest : Program) {value value' : Expr}
      (h : value.Rebound y value') :
      Rebound registered y (.bind pos name value :: rest) (.bind pos name value' :: rest)
  | expr (rest : Program) {e e' : Expr} (h : e.Rebound y e') :
      Rebound registered y (.expr e :: rest) (.expr e' :: rest)
  | later (s : Stmt) {rest rest' : Program} (h : Program.Rebound registered y rest rest') :
      Rebound registered y (s :: rest) (s :: rest')

theorem Expr.Rebound.nameless_eq {y : String} {e e' : Expr} (h : e.Rebound y e') (hy : e.Lacks y)
    (names : List String) : e'.nameless names = e.nameless names := by
  induction h generalizing names with
  | param pos x body =>
    simp only [nameless]
    exact congrArg _ (nameless_rename (hy.part List.mem_cons_self) (.binder x y names))
  | body pos param _ ih =>
    simp only [nameless, ih (hy.part List.mem_cons_self)]
  | item pos before after _ ih =>
    simp only [nameless, namelessItems_eq_map, List.map_append, List.map_cons,
      ih (hy.part (List.mem_append_right _ List.mem_cons_self))]
  | entry pos before after key _ ih =>
    have hparts := List.forall_mem_map.1 (lacks_iff.1 hy).2
    simp only [nameless, namelessEntries_eq_map, List.map_append, List.map_cons,
      ih (hparts _ (List.mem_append_right _ List.mem_cons_self))]
  | callee pos args _ ih =>
    simp only [nameless, ih (hy.part List.mem_cons_self)]
  | arg pos callee before after _ ih =>
    obtain ⟨-, hargs⟩ := List.forall_mem_cons.1 (lacks_iff.1 hy).2
    simp only [nameless, namelessItems_eq_map, List.map_append, List.map_cons,
      ih (hargs _ (List.mem_append_right _ List.mem_cons_self))]
  | memberOf pos name _ ih =>
    simp only [nameless, ih (hy.part List.mem_cons_self)]
  | itemOf pos subscript _ ih =>
    simp only [nameless, ih (hy.part List.mem_cons_self)]
  | subscript pos owner _ ih =>
    obtain ⟨-, hsubscript⟩ := List.forall_mem_cons.1 (lacks_iff.1 hy).2
    simp only [nameless, ih (hsubscript _ List.mem_cons_self)]
  | operand pos _ ih =>
    simp only [nameless, ih (hy.part List.mem_cons_self)]

/-- Renaming a binder to a name that is free to use leaves the nameless form as it is. -/
theorem Program.Rebound.nameless_eq {registered : String → Bool} {y : String} {p p' : Program}
    (h : p.Rebound registered y p') (hy : p.Lacks y) (hfree : global registered y = none)
    (names : List String) : p'.nameless registered names = p.nameless registered names := by
  induction h generalizing names with
  | binder pos value rest hx =>
    obtain ⟨-, -, hrest⟩ := lacks_bind.1 hy
    rw [nameless, nameless, taken?, taken?, hx, hfree, nameless_rename hrest (.binder _ y names)]
    rfl
  | value pos name rest h =>
    obtain ⟨-, hvalue, -⟩ := lacks_bind.1 hy
    rw [nameless, nameless, h.nameless_eq hvalue]
  | expr rest h =>
    obtain ⟨he, -⟩ := lacks_expr.1 hy
    rw [nameless, nameless, h.nameless_eq he]
  | later s _ ih =>
    have hrest := (List.forall_mem_cons.1 hy).2
    cases s <;> rw [nameless, nameless, ih hrest]

end Rulebook
