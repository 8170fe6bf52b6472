import Rulebook.Disk.Basic
import Rulebook.Json.Reader

/-!
# What a rule looks at

A context is a place in a document or on a disk, the path of segments that led to it, and how many
lazily built groups enclose it.
-/

namespace Rulebook

inductive Subject where
  | value (v : Json)
  | path (p : String)
  deriving Inhabited

structure Context where
  disk : Disk
  path : List String
  subject : Subject
  groupDepth : Nat
  deriving Inhabited

namespace Context

def root (disk : Disk) (subject : Subject) : Context := ⟨disk, [], subject, 0⟩

/-- Descends into a part of the subject, which adds a segment. -/
def child (c : Context) (segment : String) (subject : Subject) : Context :=
  { c with path := c.path ++ [segment], subject := subject }

/-- Another subject at the same place. -/
def withSubject (c : Context) (subject : Subject) : Context := { c with subject := subject }

def enterGroup (c : Context) : Context := { c with groupDepth := c.groupDepth + 1 }

/-- The path on disk, if the subject is one. -/
def entry? (c : Context) : Option String :=
  match c.subject with
  | .path p => some p
  | .value _ => none

/-- The value that is checked: the text of a file for a path, null if it has none. -/
def value (c : Context) : Json :=
  match c.subject with
  | .value v => v
  | .path p => (c.disk.text? p).elim .null .string

/-- The document: the value itself, or what the text of a file says. -/
def json? (c : Context) : Option Json :=
  match c.subject with
  | .value v => some v
  | .path p => (c.disk.text? p).bind fun text => (Json.ofText text).toOption

@[simp] theorem path_child (c : Context) (segment : String) (s : Subject) :
    (c.child segment s).path = c.path ++ [segment] := rfl

@[simp] theorem path_withSubject (c : Context) (s : Subject) : (c.withSubject s).path = c.path := rfl

@[simp] theorem path_enterGroup (c : Context) : c.enterGroup.path = c.path := rfl

end Context

end Rulebook
