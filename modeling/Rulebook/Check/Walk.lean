import Rulebook.Check.Context
import Rulebook.EngineError
import Rulebook.Issue

/-!
# Walks

A walk over a rule finds issues and ends with an answer, an error or a crash; what was found before an
error or a crash is kept. A check is the three walks of a rule: to report, to match silently, and to
ask whether an optional member is there.
-/

namespace Rulebook

inductive Ending (α : Type) where
  | done (a : α)
  | failed (e : EngineError)
  | crashed (c : Crash)
  deriving DecidableEq, Repr, Inhabited

structure Walk (α : Type) where
  issues : List Issue
  ending : Ending α
  deriving DecidableEq, Repr, Inhabited

namespace Walk

variable {α β : Type}

def done (a : α) : Walk α := ⟨[], .done a⟩

def fail (e : EngineError) : Walk α := ⟨[], .failed e⟩

/-- What `w` finds and then, if it ends with an answer, what `f` finds. -/
def bind (w : Walk α) (f : α → Walk β) : Walk β :=
  match w.ending with
  | .done a => ⟨w.issues ++ (f a).issues, (f a).ending⟩
  | .failed e => ⟨w.issues, .failed e⟩
  | .crashed c => ⟨w.issues, .crashed c⟩

/-- Records an error at a place. -/
def issue (c : Context) (code message : String) : Walk Unit :=
  ⟨[⟨.error, code, message, c.path⟩], .done ()⟩

/-- Records a warning at a place. -/
def warning (c : Context) (code message : String) : Walk Unit :=
  ⟨[⟨.warning, code, message, c.path⟩], .done ()⟩

/-- One walk after another. -/
def all : List (Walk Unit) → Walk Unit
  | [] => done ()
  | w :: ws => w.bind fun _ => all ws

/-- A walk that is left out unless `b`. -/
def when (b : Bool) (w : Walk Unit) : Walk Unit := if b then w else done ()

/-- Records an error at a place into which there is no going. -/
def stop (c : Context) (code message : String) : Walk (Option α) :=
  (issue c code message).bind fun _ => done none

/-- Goes into what a walk opened, if it opened anything. -/
def into (w : Walk (Option α)) (f : α → Walk Unit) : Walk Unit :=
  w.bind fun
    | some a => f a
    | none => done ()

/-- Walks in private: whether no error was found, with nothing recorded. -/
def probe (w : Walk Unit) : Walk Bool :=
  match w.ending with
  | .done _ => done (isClean w.issues)
  | .failed e => ⟨[], .failed e⟩
  | .crashed c => ⟨[], .crashed c⟩

@[simp] theorem issues_probe (w : Walk Unit) : w.probe.issues = [] := by
  unfold probe
  split <;> rfl

@[simp] theorem done_bind (a : α) (f : α → Walk β) : (done a).bind f = f a := by
  simp [done, bind]

theorem bind_of_done {w : Walk α} {a : α} (h : w.ending = .done a) (f : α → Walk β) :
    w.bind f = ⟨w.issues ++ (f a).issues, (f a).ending⟩ := by
  simp only [bind, h]

theorem probe_of_done {w : Walk Unit} (h : w.ending = .done ()) :
    w.probe = done (isClean w.issues) := by
  simp only [probe, h]

theorem bind_assoc {γ : Type} (w : Walk α) (f : α → Walk β) (g : β → Walk γ) :
    (w.bind f).bind g = w.bind fun a => (f a).bind g := by
  rcases w with ⟨is, _ | _ | _⟩
  · simp only [bind]
    split <;> simp
  · rfl
  · rfl

end Walk

/-- The three walks of a rule. -/
structure Check where
  validate : Context → Walk Unit
  accepts : Context → Walk Bool
  present : Context → Walk Bool

namespace Check

/-- A check that accepts what it finds no error in, and for which that is to be there. -/
def ofValidate (validate : Context → Walk Unit) : Check :=
  ⟨validate, fun c => (validate c).probe, fun c => (validate c).probe⟩

/-- A check that cannot be done. -/
def failing (e : EngineError) : Check := ⟨fun _ => .fail e, fun _ => .fail e, fun _ => .fail e⟩

end Check

end Rulebook
