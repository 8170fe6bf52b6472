import Rulebook.Eval.Program

/-!
# An interpreter that counts

`evalAt` is told what may still be nested. An interpreter counts what is nested, in a state that all
evaluations share: a counter is raised before a part is evaluated and lowered after it, also if the part
fails. Whether a rule may become the root is part of the state as well.
-/

namespace Rulebook

/-- What the expression that is evaluated stands in. -/
structure Nesting where
  /-- How many evaluations. -/
  evalDepth : Nat
  /-- How many calls of lambdas. -/
  lambdaDepth : Nat
  /-- How many lists of arguments. -/
  callDepth : Nat
  /-- Whether a statement that is an expression, and no body of a lambda. -/
  capturing : Bool
  deriving DecidableEq, Repr

namespace Nesting

def start : Nesting := ⟨0, 0, 0, false⟩

def enterEval (n : Nesting) : Nesting := { n with evalDepth := n.evalDepth + 1 }

def leaveEval (n : Nesting) : Nesting := { n with evalDepth := n.evalDepth - 1 }

def enterArguments (n : Nesting) : Nesting := { n with callDepth := n.callDepth + 1 }

def leaveArguments (n : Nesting) : Nesting := { n with callDepth := n.callDepth - 1 }

def enterLambda (n : Nesting) : Nesting :=
  { n with lambdaDepth := n.lambdaDepth + 1, capturing := false }

/-- Leaves a lambda that was called with `capturing`. -/
def leaveLambda (capturing : Bool) (n : Nesting) : Nesting :=
  { n with lambdaDepth := n.lambdaDepth - 1, capturing := capturing }

def capture (capturing : Bool) (n : Nesting) : Nesting := { n with capturing := capturing }

/-- Whether a rule that is made here may become the root. -/
def mayRoot (n : Nesting) : Bool := n.capturing && n.callDepth == 0

end Nesting

/-- The state of an interpreter. -/
structure Interpreter extends Nesting where
  root : Option Rule

/-- A rule becomes the root where one may be made and there is none. -/
def Interpreter.offered (s : Interpreter) (r : Rule) : Interpreter :=
  if s.mayRoot && s.root.isNone then { s with root := some r } else s

/-- The state is kept when evaluation fails. -/
abbrev Interp := ExceptT EvalError (StateM Interpreter)

namespace Interp

variable {α : Type}

def fail (fault : EvalFault) (pos : Position) : Interp α := throw ⟨fault, pos⟩

def ofExcept (x : Except EvalError α) : Interp α := ExceptT.mk (pure x)

def nest (change : Nesting → Nesting) : Interp Unit :=
  modify fun s => { s with toNesting := change s.toNesting }

/-- Does `x` between two changes of the nesting; the second one is made also if `x` fails. -/
def between (enter leave : Nesting → Nesting) (x : Interp α) : Interp α := do
  nest enter
  let outcome ← ExceptT.lift x.run
  nest leave
  ofExcept outcome

/-- Offers what a call came to as root, if a factory was called. -/
def offer (callee result : Value) : Interp Unit :=
  match callee, result with
  | .factory _, .rule r => modify (·.offered r)
  | _, _ => pure ()

/-- The root that is there in the end, if `x` does not fail. -/
def rootAfter (x : Interp Unit) (s : Interpreter) : Except EvalError (Option Rule) :=
  match x.run s with
  | (.ok (), s) => .ok s.root
  | (.error e, _) => .error e

end Interp

namespace Interpreter

def start : Interpreter := ⟨.start, none⟩

/-- Calls a lambda whose body is evaluated by `eval`. -/
def callLambda (eval : Scope → Expr → Interp Value) (l : Lambda) (arg : Option Value) :
    Interp Value := do
  let s ← get
  if maxLambdas ≤ s.lambdaDepth then Interp.fail .lambdaDepth l.body.pos
  else Interp.between .enterLambda (.leaveLambda s.capturing) (eval (l.bindArg arg) l.body)

def callValue (eval : Scope → Expr → Interp Value) (pos : Position) (callee : Value)
    (args : List Value) : Interp Value :=
  match callee with
  | .factory g => do
    let r ← Interp.ofExcept (placed pos ((g.build args).mapError (.factory g.name)))
    return .rule r
  | .lambda l =>
    match args with
    | [] => callLambda eval l none
    | [arg] => callLambda eval l (some arg)
    | args => Interp.fail (.lambdaArity args.length) pos
  | v => Interp.fail (.notCallable v.typeName) pos

/-- An expression by its form; `eval` evaluates the expressions inside. -/
def evalExpr (registered : String → Bool) (eval : Scope → Expr → Interp Value) (scope : Scope) :
    Expr → Interp Value
  | .null _ => return .null
  | .bool _ b => return .bool b
  | .number _ n => return .number n.value
  | .string _ s => return .string s
  | .regex pos pattern flags =>
    match Regex.compile pattern flags with
    | .ok r => return .regex r
    | .error e => Interp.fail (.badRegex pattern e.message) pos
  | .ident pos name =>
    match lookup registered scope name with
    | some v => return v
    | none => Interp.fail (.unknownIdent name) pos
  | .array _ items => return .array (← items.mapM (eval scope))
  | .object _ entries =>
    return .object (← entries.mapM fun (k, e) => do return (k, ← eval scope e))
  | .lambda _ param body => return .lambda (.mk param body scope)
  | .call pos callee args => do
    let callee ← eval scope callee
    let args ← Interp.between .enterArguments .leaveArguments (args.mapM (eval scope))
    let result ← callValue eval pos callee args
    Interp.offer callee result
    return result
  | .member pos object name => do
    let object ← eval scope object
    Interp.ofExcept (placed pos (object.member name))
  | .index pos object subscript => do
    let object ← eval scope object
    let i ← eval scope subscript
    Interp.ofExcept (placed pos (object.index i))
  | .neg pos operand => do
    match ← eval scope operand with
    | .number x => return .number x.neg
    | v => Interp.fail (.badNegation v.typeName) pos

/-- An expression, one evaluation deeper; `eval` evaluates the expressions inside. -/
def evalStep (registered : String → Bool) (eval : Scope → Expr → Interp Value) (scope : Scope)
    (e : Expr) : Interp Value := do
  if maxEvals ≤ (← get).evalDepth then Interp.fail .tooDeep e.pos
  else Interp.between .enterEval .leaveEval (evalExpr registered eval scope e)

/-- An expression whose evaluations are nested at most `rounds` deep. -/
def evalWithin (registered : String → Bool) : (rounds : Nat) → Scope → Expr → Interp Value
  | 0, _, e => Interp.fail .tooDeep e.pos
  | rounds + 1, scope, e => evalStep registered (evalWithin registered rounds) scope e

/-- An expression. The rounds are not over before the counter is at its limit (`eval_eq_evalStep`). -/
def eval (registered : String → Bool) (scope : Scope) (e : Expr) : Interp Value :=
  evalWithin registered maxEvals scope e

/-! ## Programs -/

def runStmts (registered : String → Bool) : List Stmt → Scope → Interp Unit
  | [], _ => return
  | .bind pos name value :: rest, scope =>
    if (global registered name).isSome then Interp.fail (.rebound name) pos
    else do
      Interp.nest (.capture false)
      let v ← eval registered scope value
      runStmts registered rest ((name, v) :: scope)
  | .expr e :: rest, scope => do
    Interp.nest (.capture true)
    let _ ← eval registered scope e
    Interp.nest (.capture false)
    runStmts registered rest scope

/-- The root rule of a program. -/
def run (registered : String → Bool) (p : Program) : Except SpecError Rule :=
  if p.isEmpty then .error .empty
  else
    match Interp.rootAfter (runStmts registered p []) .start with
    | .error e => .error (.ofEval e)
    | .ok none => .error .noRoot
    | .ok (some r) => .ok r

end Interpreter

end Rulebook
