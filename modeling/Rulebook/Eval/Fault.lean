import Rulebook.Number.Shortest
import Rulebook.Source.Position

/-! # Why a program has no value -/

namespace Rulebook

/-- How many lambda calls may be nested. -/
def maxLambdas : Nat := 64

/-- What a factory cannot use. Values are told by the names of their types. -/
inductive FactoryFault where
  | arity (min max got : Nat)
  | notOptions (type : String)
  | unknownOption (key : String) (allowed : List String)
  | missingOption (key : String)
  | notNumber (key type : String)
  | notCount (key : String) (x : Binary64)
  | notFlag (key type : String)
  | notString (key type : String)
  | notRules (key type : String)
  | notContent (type : String)
  | notData (type : String)
  | notRegex (type : String)
  | badPattern (pattern reason : String)
  | notRule (type : String)
  | uncalledFactory (name : String)
  | notDescriptor (type : String)
  | notGroup (type : String)
  | noOptions
  deriving DecidableEq, Repr

def FactoryFault.message : FactoryFault → String
  | arity min max got =>
    let expected := if min = max then s!"{min}" else s!"{min} to {max}"
    s!"expects {expected} arguments, got {got}"
  | notOptions type => "expects an options object, got " ++ type
  | unknownOption key allowed =>
    "unknown option '" ++ key ++ "' (expected one of: " ++ String.intercalate ", " allowed ++ ")"
  | missingOption key => "missing required option '" ++ key ++ "'"
  | notNumber key type => key ++ " must be a number, got " ++ type
  | notCount key x => key ++ " must be a non-negative integer, got " ++ x.plain
  | notFlag key type => key ++ " must be a boolean, got " ++ type
  | notString key type => key ++ " must be a string, got " ++ type
  | notRules key type => key ++ " must be an array of rules, got " ++ type
  | notContent type => "content must be an array or \x7brequired, optional\x7d, got " ++ type
  | notData type => "expects a data value, got " ++ type
  | notRegex type => "expects a regex or pattern string, got " ++ type
  | badPattern pattern reason => "invalid pattern '" ++ pattern ++ "': " ++ reason
  | notRule type => "expects a rule, got " ++ type
  | uncalledFactory name => "expects a rule, got factory " ++ name ++ " (missing '()'?)"
  | notDescriptor type => "expects a structural descriptor, got " ++ type
  | notGroup type => "spec must be a lambda or an array, got " ++ type
  | noOptions => "expects at least one option"

inductive EvalFault where
  | tooDeep
  | lambdaDepth
  | lambdaArity (got : Nat)
  | rebound (name : String)
  | unknownIdent (name : String)
  | badRegex (pattern reason : String)
  | badMember (name type : String)
  | badIndex (type subscript : String)
  | badNegation (type : String)
  | notCallable (type : String)
  | factory (name : String) (fault : FactoryFault)
  deriving DecidableEq, Repr

def EvalFault.message : EvalFault → String
  | tooDeep => "Expression evaluation nested too deeply"
  | lambdaDepth => s!"Lambda recursion too deep (limit {maxLambdas})"
  | lambdaArity got => s!"Lambda takes at most one argument, got {got}"
  | rebound name => "Cannot rebind built-in name '" ++ name ++ "'"
  | unknownIdent name => "Unknown identifier '" ++ name ++ "'"
  | badRegex pattern reason => "Invalid regex /" ++ pattern ++ "/: " ++ reason
  | badMember name type => "Cannot read member '" ++ name ++ "' of " ++ type
  | badIndex type subscript => "Cannot index " ++ type ++ " with " ++ subscript
  | badNegation type => "Cannot negate " ++ type
  | notCallable type => type ++ " is not callable"
  | factory name fault => name ++ ": " ++ fault.message

structure EvalError where
  fault : EvalFault
  pos : Position
  deriving DecidableEq, Repr

end Rulebook
