import Rulebook.Eval.Factory

/-!
# Evaluation

`evalAt left` evaluates an expression that may nest `left` more evaluations, those of lambda bodies
included. While a statement that is an expression is evaluated, the first rule that a factory call
makes becomes the root: not in arguments of a call, nor in the body of a lambda.
-/

namespace Rulebook

/-- How many evaluations may be nested. -/
def maxEvals : Nat := 256

/-- Kinds that have a factory of their own and are not called by their registered name. -/
def structuralKinds : List String := ["Field", "File", "Directory", "JsonFile", "Package"]

/-- Bindings, the innermost first. -/
abbrev Scope := List (String × Value)

/-- What is fixed while an expression is evaluated. -/
structure Frame where
  /-- How many more lambda calls may be nested. -/
  lambdas : Nat
  /-- Whether a rule made here may become the root. -/
  capturing : Bool
  deriving DecidableEq, Repr

namespace Frame

def start (capturing : Bool) : Frame := ⟨maxLambdas, capturing⟩

/-- Inside the arguments of a call. -/
def inArguments (f : Frame) : Frame := { f with capturing := false }

end Frame

/-- Evaluation may set the root; it is kept when evaluation fails. -/
abbrev Eval := ExceptT EvalError (StateM (Option Rule))

namespace Eval

def fail {α : Type} (fault : EvalFault) (pos : Position) : Eval α := throw ⟨fault, pos⟩

def ofExcept {α : Type} (x : Except EvalError α) : Eval α := ExceptT.mk (pure x)

/-- Makes a rule the root unless there is one. -/
def offerRoot (r : Rule) : Eval Unit := modify fun root => root.or (some r)

section
variable {α : Type} (root : Option Rule)

@[simp] theorem run_pure (a : α) : (pure a : Eval α).run root = (.ok a, root) := rfl

@[simp] theorem run_offerRoot (r : Rule) :
    (offerRoot r).run root = (.ok (), root.or (some r)) := rfl

end

theorem run_bind {α β σ : Type} (s : σ) (x : ExceptT EvalError (StateM σ) α)
    (f : α → ExceptT EvalError (StateM σ) β) :
    (x >>= f).run s =
      match x.run s with
      | (.ok a, s) => (f a).run s
      | (.error e, s) => (.error e, s) := by
  simp only [bind, ExceptT.bind, ExceptT.mk, ExceptT.run, ExceptT.bindCont, StateT.bind]
  rcases x s with ⟨_ | _, _⟩ <;> rfl

end Eval

/-- Offers a rule as root where one may be made. -/
def Frame.offer (f : Frame) (r : Rule) : Eval Unit :=
  if f.capturing then Eval.offerRoot r else pure ()

/-- The value of a name that no binding has. -/
def global (registered : String → Bool) (name : String) : Option Value :=
  match name with
  | "Is" => some (.space .is)
  | "Does" => some (.space .does)
  | name =>
    match Builtin.ofWord name with
    | some b => some (.factory (.builtin b))
    | none =>
      if registered name && !structuralKinds.contains name then some (.factory (.custom name))
      else none

def lookup (registered : String → Bool) (scope : Scope) (name : String) : Option Value :=
  (scope.lookup name).or (global registered name)

/-- A member; a key that an object lacks is null. -/
def Value.member (v : Value) (name : String) : Except EvalFault Value :=
  match v, name with
  | .space .is, "Not" => .ok (.factory (.builtin .isNot))
  | .space .does, "Not" => .ok (.space .doesNot)
  | .space .doesNot, "Contain" => .ok (.factory (.builtin .doesNotContain))
  | .object entries, name => .ok ((Value.entry? name entries).getD .null)
  | v, name => .error (.badMember name v.typeName)

/-- An item of an array or a member of an object; one that is not there is null. -/
def Value.index (v i : Value) : Except EvalFault Value :=
  match v, i with
  | .array items, .number x =>
    match x.toInt? with
    | some n => if 0 ≤ n then .ok (items[n.toNat]?.getD .null) else .error (.badIndex v.typeName i.typeName)
    | none => .error (.badIndex v.typeName i.typeName)
  | .object entries, .string key => .ok ((Value.entry? key entries).getD .null)
  | v, i => .error (.badIndex v.typeName i.typeName)

def placed {α : Type} (pos : Position) (x : Except EvalFault α) : Except EvalError α :=
  x.mapError fun f => ⟨f, pos⟩

/-- The scope of a lambda's body. -/
def Lambda.bindArg (l : Lambda) (arg : Option Value) : Scope :=
  match l.param with
  | some p => (p, arg.getD .null) :: l.scope
  | none => l.scope

/-- Calls a lambda whose body is evaluated by `body`. -/
def callLambda (body : Frame → Scope → Expr → Eval Value) (f : Frame) (l : Lambda)
    (arg : Option Value) : Eval Value :=
  match f.lambdas with
  | 0 => Eval.fail .lambdaDepth l.body.pos
  | n + 1 => body ⟨n, false⟩ (l.bindArg arg) l.body

/-- Calls a value, with lambda bodies evaluated by `body`. -/
def callValue (body : Frame → Scope → Expr → Eval Value) (f : Frame) (pos : Position) (callee : Value)
    (args : List Value) : Eval Value :=
  match callee with
  | .factory g => do
    let r ← Eval.ofExcept (placed pos ((g.build args).mapError (.factory g.name)))
    f.offer r
    return .rule r
  | .lambda l =>
    match args with
    | [] => callLambda body f l none
    | [arg] => callLambda body f l (some arg)
    | args => Eval.fail (.lambdaArity args.length) pos
  | v => Eval.fail (.notCallable v.typeName) pos

/-- One step of evaluation; `eval` evaluates the expressions inside. -/
def evalStep (registered : String → Bool) (eval : Frame → Scope → Expr → Eval Value) (f : Frame)
    (scope : Scope) : Expr → Eval Value
  | .null _ => return .null
  | .bool _ b => return .bool b
  | .number _ n => return .number n.value
  | .string _ s => return .string s
  | .regex pos pattern flags =>
    match Regex.compile pattern flags with
    | .ok r => return .regex r
    | .error e => Eval.fail (.badRegex pattern e.message) pos
  | .ident pos name =>
    match lookup registered scope name with
    | some v => return v
    | none => Eval.fail (.unknownIdent name) pos
  | .array _ items => return .array (← items.mapM (eval f scope))
  | .object _ entries =>
    return .object (← entries.mapM fun (k, e) => do return (k, ← eval f scope e))
  | .lambda _ param body => return .lambda (.mk param body scope)
  | .call pos callee args => do
    let callee ← eval f scope callee
    let args ← args.mapM (eval f.inArguments scope)
    callValue eval f pos callee args
  | .member pos object name => do
    let object ← eval f scope object
    Eval.ofExcept (placed pos (object.member name))
  | .index pos object subscript => do
    let object ← eval f scope object
    let i ← eval f scope subscript
    Eval.ofExcept (placed pos (object.index i))
  | .neg pos operand => do
    match ← eval f scope operand with
    | .number x => return .number x.neg
    | v => Eval.fail (.badNegation v.typeName) pos

/-- Evaluates an expression that may nest `left` evaluations, its own included. -/
def evalAt (registered : String → Bool) : Nat → Frame → Scope → Expr → Eval Value
  | 0, _, _, e => Eval.fail .tooDeep e.pos
  | left + 1, f, scope, e => evalStep registered (evalAt registered left) f scope e

end Rulebook
