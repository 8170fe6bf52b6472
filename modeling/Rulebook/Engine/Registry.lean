import Rulebook.Rule.Basic

/-!
# Validators by kind

A descriptor is checked by the validator that is registered under its kind: one of the standard ones
or a host's. The registry is sorted by kind and holds each kind once.
-/

namespace Rulebook

/-- Kinds of descriptors with a validator of their own. -/
inductive StandardKind where
  | field | file | directory | jsonFile | package | url | semver
  deriving DecidableEq, Repr, Inhabited

namespace StandardKind

def name : StandardKind → String
  | field => "Field"
  | file => "File"
  | directory => "Directory"
  | jsonFile => "JsonFile"
  | package => "Package"
  | url => "Url"
  | semver => "Semver"

def all : List StandardKind := [field, file, directory, jsonFile, package, url, semver]

end StandardKind

/-- A validator that a host supplies as code. What it records and how it ends is taken to depend on the
descriptor and the context alone: it cannot read the issues that were found before, only add to them. -/
structure HostValidator where
  validate : Descriptor → Context → Walk Unit
  accepts : Descriptor → Context → Walk Bool
  present : Descriptor → Context → Walk Bool

namespace HostValidator

/-- What a validator makes of a descriptor. -/
def check (v : HostValidator) (d : Descriptor) : Check := ⟨v.validate d, v.accepts d, v.present d⟩

/-- A validator that accepts nothing. -/
def ofValidate (validate : Descriptor → Context → Walk Unit) : HostValidator :=
  ⟨validate, fun _ _ => .done false, fun _ _ => .done false⟩

/-- A validator that accepts what it finds no error in. -/
def probing (validate : Descriptor → Context → Walk Unit) : HostValidator :=
  ⟨validate, fun d c => (validate d c).probe, fun d c => (validate d c).probe⟩

end HostValidator

/-- The standard validator that reads a descriptor. -/
def Descriptor.reader? : Descriptor → Option StandardKind
  | field .. => some .field
  | file .. => some .file
  | directory .. => some .directory
  | jsonFile .. => some .jsonFile
  | package .. => some .package
  | custom "Url" _ => some .url
  | custom "Semver" _ => some .semver
  | custom _ _ => none

inductive Validator where
  | standard (k : StandardKind)
  | host (v : HostValidator)

structure Registry where
  entries : List (String × Validator)

namespace Registry

def empty : Registry := ⟨[]⟩

/-- Puts a validator under a kind into sorted entries, in place of one that is there. -/
def putEntry (kind : String) (v : Validator) : List (String × Validator) → List (String × Validator)
  | [] => [(kind, v)]
  | (k, w) :: rest =>
    if kind < k then (kind, v) :: (k, w) :: rest
    else if kind = k then (kind, v) :: rest
    else (k, w) :: putEntry kind v rest

def register (r : Registry) (kind : String) (v : Validator) : Registry := ⟨putEntry kind v r.entries⟩

def validator? (r : Registry) (kind : String) : Option Validator := r.entries.lookup kind

def contains (r : Registry) (kind : String) : Bool := (r.validator? kind).isSome

def kinds (r : Registry) : List String := r.entries.map (·.1)

/-- The registry of the standard kinds. -/
def standard : Registry :=
  StandardKind.all.foldl (fun r k => r.register k.name (.standard k)) empty

/-- The validator of a kind, or the error that there is none. -/
def lookup (r : Registry) (kind : String) : Except EngineError Validator :=
  match r.validator? kind with
  | some v => .ok v
  | none => .error (.unregisteredKind kind)

/-- Who checks a descriptor. -/
inductive Route where
  /-- The standard validator that reads it. -/
  | standard
  | host (v : HostValidator)
  /-- No validator, or a standard one that does not read it. -/
  | refused (e : EngineError)

def route (r : Registry) (d : Descriptor) : Route :=
  match r.lookup d.kind with
  | .error e => .refused e
  | .ok (.host v) => .host v
  | .ok (.standard k) =>
    if d.reader? = some k then .standard else .refused (.descriptorMismatch k.name d.kind)

theorem lookup_entry (other k : String) (w : Validator) (rest : List (String × Validator)) :
    List.lookup other ((k, w) :: rest) = if other = k then some w else rest.lookup other := by
  by_cases h : other = k
  · subst h
    simp
  · simp [List.lookup_cons, beq_eq_false_iff_ne.2 h, h]

theorem lookup_putEntry (kind other : String) (v : Validator)
    (entries : List (String × Validator)) :
    (putEntry kind v entries).lookup other =
      if other = kind then some v else entries.lookup other := by
  induction entries with
  | nil => simp only [putEntry, lookup_entry]
  | cons e rest ih =>
    obtain ⟨k, w⟩ := e
    unfold putEntry
    split
    · simp only [lookup_entry]
    · split <;> simp only [lookup_entry, ih] <;> grind

theorem contains_register (r : Registry) (kind other : String) (v : Validator) :
    (r.register kind v).contains other = (other = kind || r.contains other) := by
  by_cases h : other = kind <;> simp [contains, validator?, register, lookup_putEntry, h]

end Registry

end Rulebook
