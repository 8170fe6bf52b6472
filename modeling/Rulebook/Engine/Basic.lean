import Rulebook.Engine.Check

/-!
# Runs

A registry loads rules from texts and checks what they are run on. A run always ends in a report: if the
check could not be done, the report says so and nothing else.
-/

namespace Rulebook

/-- The report that a walk leaves. -/
def Walk.report (w : Walk Unit) : Report :=
  match w.ending with
  | .done _ => .ofIssues w.issues
  | .failed e => .failure Code.engineError e.message
  | .crashed crash =>
    .failure Code.executorCrash ("Rule crashed during validation: " ++ crash.text)

namespace Registry

/-- The root rule of a text whose names the registry knows. -/
def load (r : Registry) (text : String) : Except SpecError Rule := Rule.ofText r.contains text

/-- Checks a subject against a rule. -/
def validate (r : Registry) (rule : Rule) (disk : Disk) (subject : Subject) : Report :=
  ((rule.check r).validate (.root disk subject)).report

/-- Checks a subject against the rule of a text. -/
def run (r : Registry) (text : String) (disk : Disk) (subject : Subject) : Report :=
  match r.load text with
  | .error e => e.report
  | .ok rule => r.validate rule disk subject

/-- Every name that can be called in a text, those of members after the words. -/
def factoryNames (r : Registry) : List String :=
  Builtin.words ++ [Builtin.isNot.name, Builtin.doesNotContain.name] ++
    r.kinds.filter fun kind => !structuralKinds.contains kind && !Builtin.words.contains kind

end Registry

end Rulebook
