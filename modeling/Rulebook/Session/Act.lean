import Rulebook.Check.Walk

/-!
# Acts on shared lists

Contexts record into lists, and several may record into one. An act is a walk done on such lists: what
it finds is added to the list of the context it is done in, and what is asked in private is recorded
into a new list.
-/

namespace Rulebook

/-- A context and the number of its list. -/
structure Scene where
  context : Context
  list : Nat
  deriving Inhabited

/-- Another context that records into the same list. -/
def Scene.to (x : Scene) (c : Context) : Scene := { x with context := c }

/-- What is done on lists; what was recorded before an error or a crash stays. -/
structure Act (α : Type) where
  run : List (List Issue) → List (List Issue) × Ending α

namespace Act

variable {α β : Type}

def done (a : α) : Act α := ⟨fun ls => (ls, .done a)⟩

def fail (e : EngineError) : Act α := ⟨fun ls => (ls, .failed e)⟩

def bind (act : Act α) (f : α → Act β) : Act β := ⟨fun ls =>
  match act.run ls with
  | (ls, .done a) => (f a).run ls
  | (ls, .failed e) => (ls, .failed e)
  | (ls, .crashed c) => (ls, .crashed c)⟩

/-- One act after another. -/
def all : List (Act Unit) → Act Unit
  | [] => done ()
  | act :: acts => act.bind fun _ => all acts

def when (b : Bool) (act : Act Unit) : Act Unit := if b then act else done ()

def into (act : Act (Option α)) (f : α → Act Unit) : Act Unit :=
  act.bind fun
    | some a => f a
    | none => done ()

/-- Adds what a walk found to the list of a scene and ends as the walk did. -/
def record (x : Scene) (w : Walk α) : Act α :=
  ⟨fun ls => (ls.modify x.list (· ++ w.issues), w.ending)⟩

/-- Acts on a scene with a new list; whether no error was recorded there. -/
def probe (x : Scene) (act : Scene → Act Unit) : Act Bool := ⟨fun ls =>
  match (act { x with list := ls.length }).run (ls ++ [[]]) with
  | (after, .done _) => (after, .done (isClean (after[ls.length]?.getD [])))
  | (after, .failed e) => (after, .failed e)
  | (after, .crashed c) => (after, .crashed c)⟩

theorem run_bind (act : Act α) (f : α → Act β) (ls : List (List Issue)) :
    (act.bind f).run ls =
      match act.run ls with
      | (ls, .done a) => (f a).run ls
      | (ls, .failed e) => (ls, .failed e)
      | (ls, .crashed c) => (ls, .crashed c) := rfl

theorem run_probe (x : Scene) (act : Scene → Act Unit) (ls : List (List Issue)) :
    (probe x act).run ls =
      match (act { x with list := ls.length }).run (ls ++ [[]]) with
      | (after, .done _) => (after, .done (isClean (after[ls.length]?.getD [])))
      | (after, .failed e) => (after, .failed e)
      | (after, .crashed c) => (after, .crashed c) := rfl

end Act

/-- The three walks of a rule on shared lists. -/
structure Acts where
  validate : Scene → Act Unit
  accepts : Scene → Act Bool
  present : Scene → Act Bool

end Rulebook
