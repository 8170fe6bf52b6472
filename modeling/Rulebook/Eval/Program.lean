import Rulebook.Eval.Expr
import Rulebook.Issue
import Rulebook.Source.Parser

/-!
# From a text to its rule

A program's statements are evaluated in order. A `let` adds a binding; the first rule made in the other
statements is the root.
-/

namespace Rulebook

/-- Why a text gives no rule. -/
inductive SpecError where
  | malformed (message : String) (pos : Position)
  | eval (message : String) (pos : Position)
  | crash (message : String)
  | empty
  | noRoot
  deriving DecidableEq, Repr, Inhabited

namespace SpecError

def message : SpecError → String
  | malformed message pos => "Syntax error at " ++ pos.text ++ ": " ++ message
  | eval message pos => "Spec evaluation failed at " ++ pos.text ++ ": " ++ message
  | crash message => "Spec evaluation crashed: " ++ message
  | empty => "Spec is empty"
  | noRoot => "Spec did not produce a root rule"

def code : SpecError → String
  | malformed .. => Code.specSyntaxError
  | eval .. | crash _ => Code.specCrash
  | empty => Code.specEmpty
  | noRoot => Code.specNoRoot

def pos? : SpecError → Option Position
  | malformed _ p | eval _ p => some p
  | _ => none

/-- The report of a run whose rules could not be loaded. -/
def report (e : SpecError) : Report := .failure e.code e.message

def ofSyntax (e : SyntaxError) : SpecError := malformed e.fault.message e.pos

def ofEval (e : EvalError) : SpecError := eval e.fault.message e.pos

end SpecError

/-- Evaluates statements under a scope, with the root so far. -/
def runStmts (registered : String → Bool) :
    List Stmt → Scope → Option Rule → Except EvalError (Option Rule)
  | [], _, root => .ok root
  | .bind pos name value :: rest, scope, root =>
    if (global registered name).isSome then .error ⟨.rebound name, pos⟩
    else
      match (evalAt registered maxEvals (.start false) scope value).run root with
      | (.ok v, root) => runStmts registered rest ((name, v) :: scope) root
      | (.error e, _) => .error e
  | .expr e :: rest, scope, root =>
    match (evalAt registered maxEvals (.start true) scope e).run root with
    | (.ok _, root) => runStmts registered rest scope root
    | (.error e, _) => .error e

/-- The root rule of a program. -/
def Program.root (registered : String → Bool) (p : Program) : Except SpecError Rule :=
  if p.isEmpty then .error .empty
  else
    match runStmts registered p [] none with
    | .error e => .error (.ofEval e)
    | .ok none => .error .noRoot
    | .ok (some r) => .ok r

/-- The root rule of a text. -/
def Rule.ofText (registered : String → Bool) (text : String) : Except SpecError Rule :=
  match Program.ofText text with
  | .error e => .error (.ofSyntax e)
  | .ok p => p.root registered

/-! ## Lambda groups -/

/-- What a lambda sees of the context it builds rules for. -/
def Context.snapshot (c : Context) : Value :=
  .object [
    ("path", .array (c.path.map .string)),
    ("value", .ofJson c.value),
    ("json", c.json?.elim .null .ofJson),
    ("name", c.entry?.elim .null fun p => .string ((Path.fileName p).getD ""))]

/-- The rules that a lambda builds in a context: an array of rules, or a single one. -/
def Lambda.rules (registered : String → Bool) (l : Lambda) (kind : String) (c : Context) :
    Except EvalError (List Rule) :=
  let call := callLambda (evalAt registered maxEvals) (.start false) l (some c.snapshot)
  match (call.run none).1 with
  | .error e => .error e
  | .ok produced =>
    let rules := match produced with
      | .array items => Value.toRules items
      | v => v.toRule.map fun r => [r]
    rules.mapError fun f => ⟨.factory kind f, l.body.pos⟩

end Rulebook
