import Rulebook.Session

/-!
# Histories of sessions

A session comes about by roots that are opened and by steps on contexts that are there. A history lists these
events, the last one first.
-/

namespace Rulebook

namespace Session

def empty : Session := ⟨[], []⟩

/-- A root with a list of its own. -/
def addRoot (s : Session) (disk : Disk) (subject : Subject) : Session :=
  ⟨s.scenes ++ [⟨.root disk subject, s.lists.length⟩], s.lists ++ [[]]⟩

inductive Event where
  | root (disk : Disk) (subject : Subject)
  | on (id : Nat) (step : Step)

/-- The session after an event, if the context that it is about is there. -/
def after? (s : Session) : Event → Option Session
  | .root disk subject => some (s.addRoot disk subject)
  | .on id step => (s.scene? id).map (s.step · step)

abbrev History := List Event

def History.session? : History → Option Session
  | [] => some .empty
  | e :: h => (session? h).bind (·.after? e)

end Session

end Rulebook
