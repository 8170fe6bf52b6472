/-!
# Why a check cannot be done

A failed constraint is an issue; these are errors of the engine, of a rule or of a host's validator.
-/

namespace Rulebook

inductive EngineError where
  | unregisteredKind (kind : String)
  | descriptorMismatch (expected found : String)
  | notImplemented (kind operation : String)
  | specGroup (kind message : String)
  | invalidArgument (kind message : String)
  | validator (kind source : String)
  deriving DecidableEq, Repr, Inhabited

def EngineError.message : EngineError → String
  | unregisteredKind kind => "No validator registered for descriptor kind '" ++ kind ++ "'"
  | descriptorMismatch expected found =>
    "Validator for '" ++ expected ++ "' received a '" ++ found ++ "' descriptor"
  | notImplemented kind operation => kind ++ " must implement " ++ operation
  | specGroup kind message => "Spec group for '" ++ kind ++ "' failed: " ++ message
  | invalidArgument kind message => "Invalid argument for " ++ kind ++ ": " ++ message
  | validator kind source => "Validator '" ++ kind ++ "' failed: " ++ source

/-- A crash of a host's code, with the message it left, if any. -/
inductive Crash where
  | message (text : String)
  | silent
  deriving DecidableEq, Repr, Inhabited

def Crash.text : Crash → String
  | message text => text
  | silent => "unknown panic"

end Rulebook
