import Rulebook.Number.Text

/-!
# Tables of TOML

A table may be written in parts. How it came about decides what may still be added to it: a header opens a
table once, a dotted key adds only to tables that dotted keys made, and an inline table is closed.
-/

namespace Rulebook.Toml

/-- How a table came about. -/
inductive Origin where
  | header
  /-- On the way to the table of a header. -/
  | implied
  | dotted
  | inline
  deriving DecidableEq, Repr, Inhabited

inductive Value where
  | string (s : String)
  | int (n : Int)
  | float (x : Binary64)
  | bool (b : Bool)
  /-- A date, a time or both. -/
  | moment
  | array (items : List Value)
  | table (origin : Origin) (entries : List (String × Value))
  /-- Tables under headers of the same name. -/
  | tables (parts : List (List (String × Value)))
  deriving Inhabited

abbrev Entries := List (String × Value)

namespace Entries

/-- Sets an entry, the last one if it is new. -/
def set (key : String) (v : Value) : Entries → Entries
  | [] => [(key, v)]
  | (k, w) :: rest => if k = key then (k, v) :: rest else (k, w) :: set key v rest

/-- Changes the table at the end of a path, which leads through the last of several tables of one name.
Tables that are missing are made; dotted keys do not lead into the table of a header. -/
def change (f : Origin → Entries → Option Entries) (dotted : Bool) :
    List String → Origin → Entries → Option Entries
  | [], origin, entries => f origin entries
  | key :: path, _, entries =>
    match entries.lookup key with
    | none =>
      let origin := if dotted then Origin.dotted else .implied
      (change f dotted path origin []).map fun t => set key (.table origin t) entries
    | some (.table origin t) =>
      if origin = .inline || (dotted && origin = .header) then none
      else (change f dotted path origin t).map fun t => set key (.table origin t) entries
    | some (.tables parts) =>
      match parts.getLast? with
      | none => none
      | some t =>
        (change f dotted path .header t).map fun t => set key (.tables (parts.dropLast ++ [t])) entries
    | some _ => none

/-- Adds the value of a key, which may be dotted. -/
def add (path : List String) (key : String) (v : Value) (entries : Entries) : Option Entries :=
  change (fun origin t =>
    if (!path.isEmpty && origin ≠ .dotted) || (t.lookup key).isSome then none else some (t ++ [(key, v)]))
    true path .header entries

end Entries

/-! ## Documents in parts -/

/-- The tables so far, and the one whose entries are being read. -/
structure Draft where
  root : Entries
  path : List String
  /-- Whether the table is one of several of the same name. -/
  repeated : Bool
  entries : Entries

namespace Draft

def empty : Draft := ⟨[], [], false, []⟩

/-- The tables with the one that is being read. -/
def finish (d : Draft) : Option Entries :=
  match d.path.getLast? with
  | none => some d.entries
  | some key =>
    Entries.change (fun _ t =>
      if d.repeated then
        match t.lookup key with
        | none => some (t ++ [(key, .tables [d.entries])])
        | some (.tables parts) => some (Entries.set key (.tables (parts ++ [d.entries])) t)
        | some _ => none
      else if (t.lookup key).isSome then none
      else some (t ++ [(key, .table .header d.entries)]))
      false d.path.dropLast .header d.root

/-- What is at the end of a path; tables on the way are made. -/
def parentOf (root : Entries) (path : List String) : Option (Entries × Entries) := do
  let root ← Entries.change (fun _ t => some t) false path .header root
  let rec find : List String → Entries → Option Entries
    | [], t => some t
    | key :: path, t =>
      match t.lookup key with
      | some (.table _ t) => find path t
      | some (.tables parts) => parts.getLast?.bind (find path)
      | _ => none
  return (root, ← find path root)

/-- Starts the table of a header. One that was only implied is continued. -/
def startTable (d : Draft) (path : List String) : Option Draft := do
  let root ← d.finish
  let key ← path.getLast?
  let (root, parent) ← parentOf root path.dropLast
  match parent.lookup key with
  | none => return ⟨root, path, false, []⟩
  | some (.table .implied entries) =>
    let root ← Entries.change (fun _ t => some (t.filter (·.1 ≠ key))) false path.dropLast .header root
    return ⟨root, path, false, entries⟩
  | some _ => none

/-- Starts one of several tables of the same name. -/
def startRepeated (d : Draft) (path : List String) : Option Draft := do
  let root ← d.finish
  let key ← path.getLast?
  let (root, parent) ← parentOf root path.dropLast
  match parent.lookup key with
  | none | some (.tables _) => return ⟨root, path, true, []⟩
  | some _ => none

def add (d : Draft) (path : List String) (key : String) (v : Value) : Option Draft :=
  (d.entries.add path key v).map fun entries => { d with entries }

end Draft

end Rulebook.Toml
