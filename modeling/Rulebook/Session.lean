import Rulebook.Session.Acts

/-!
# Contexts that share lists

A session holds contexts and the lists they record into. A context that is derived from another records
into the same list, unless it is a probe, which starts a list of its own.
-/

namespace Rulebook

structure Session where
  scenes : List Scene
  lists : List (List Issue)
  deriving Inhabited

namespace Session

/-- What may be done with a context. -/
inductive Step where
  | child (segment : String) (subject : Subject)
  | withSubject (subject : Subject)
  | probe
  | enterGroup
  /-- Another root that records into the list of this context. -/
  | root (subject : Subject)
  | record (level : Level) (code message : String)
  | take

/-- A session with one context. -/
def start (disk : Disk) (subject : Subject) : Session := ⟨[⟨.root disk subject, 0⟩], [[]]⟩

def scene? (s : Session) (id : Nat) : Option Scene := s.scenes[id]?

def issues (s : Session) (x : Scene) : List Issue := s.lists[x.list]?.getD []

def addScene (s : Session) (x : Scene) : Session := { s with scenes := s.scenes ++ [x] }

def setList (s : Session) (list : Nat) (issues : List Issue) : Session :=
  { s with lists := s.lists.set list issues }

/-- Adds what was found to the list of a context. -/
def append (s : Session) (x : Scene) (found : List Issue) : Session :=
  s.setList x.list (s.issues x ++ found)

/-- The session after a step on one of its contexts. -/
def step (s : Session) (x : Scene) : Step → Session
  | .child segment subject => s.addScene { x with context := x.context.child segment subject }
  | .withSubject subject => s.addScene { x with context := x.context.withSubject subject }
  | .probe => { s with scenes := s.scenes ++ [{ x with list := s.lists.length }],
                       lists := s.lists ++ [[]] }
  | .enterGroup => s.addScene { x with context := x.context.enterGroup }
  | .root subject => s.addScene { x with context := .root x.context.disk subject }
  | .record level code message => s.append x [⟨level, code, message, x.context.path⟩]
  | .take => s.setList x.list []

/-- Does something on the lists. -/
def perform {α : Type} (s : Session) (act : Act α) : Session × Ending α :=
  let (lists, ending) := act.run s.lists
  ({ s with lists }, ending)

/-- Walks a rule in a context, which adds what is found to its list. -/
def validate (s : Session) (x : Scene) (r : Registry) (rule : Rule) : Session × Ending Unit :=
  s.perform ((rule.acts r).validate x)

/-- Whether a rule accepts what a context looks at. -/
def accepts (s : Session) (x : Scene) (r : Registry) (rule : Rule) : Session × Ending Bool :=
  s.perform ((rule.acts r).accepts x)

/-- Whether what a rule looks at is there. -/
def present (s : Session) (x : Scene) (r : Registry) (rule : Rule) : Session × Ending Bool :=
  s.perform ((rule.acts r).present x)

end Session

end Rulebook
