import Rulebook.Eval.Fault
import Rulebook.Eval.Value

/-!
# Arguments of factories

What a factory makes of its arguments: options with known keys, data, regexes, and rules, which may
also be written as literals, regexes and object shapes.
-/

namespace Rulebook

abbrev Argument (α : Type) := Except FactoryFault α

/-! ## Options -/

/-- The entries of an options object. -/
abbrev Options := List (String × Value)

/-- Options that have no other than the allowed keys; nothing and null have none. -/
def optionsOf (allowed : List String) : Option Value → Argument Options
  | none | some .null => .ok []
  | some (.object entries) =>
    match entries.find? fun (k, _) => !allowed.contains k with
    | some (key, _) => .error (.unknownOption key allowed)
    | none => .ok entries
  | some v => .error (.notOptions v.typeName)

namespace Options

/-- An option that is set: the last entry of the key, unless it is null. -/
def get? (o : Options) (key : String) : Option Value :=
  match Value.entry? key o with
  | some .null => none
  | v => v

def number (o : Options) (key : String) : Argument (Option Binary64) :=
  match o.get? key with
  | none => .ok none
  | some (.number x) => .ok (some x)
  | some v => .error (.notNumber key v.typeName)

/-- The largest count; larger numbers stand for it. -/
def maxCount : Nat := UInt64.size - 1

/-- A whole number that is not negative. -/
def count (o : Options) (key : String) : Argument (Option Nat) :=
  match o.number key with
  | .error f => .error f
  | .ok none => .ok none
  | .ok (some x) =>
    match x.toInt? with
    | some n => if 0 ≤ n then .ok (some (min n.toNat maxCount)) else .error (.notCount key x)
    | none => .error (.notCount key x)

def flag (o : Options) (key : String) : Argument (Option Bool) :=
  match o.get? key with
  | none => .ok none
  | some (.bool b) => .ok (some b)
  | some v => .error (.notFlag key v.typeName)

def string (o : Options) (key : String) : Argument (Option String) :=
  match o.get? key with
  | none => .ok none
  | some (.string s) => .ok (some s)
  | some v => .error (.notString key v.typeName)

def requiredString (o : Options) (key : String) : Argument String :=
  match o.string key with
  | .error f => .error f
  | .ok (some s) => .ok s
  | .ok none => .error (.missingOption key)

end Options

namespace Value

/-! ## Data and regexes -/

def toData (v : Value) : Argument Json :=
  match v.toJson? with
  | some j => .ok j
  | none => .error (.notData v.typeName)

def toRegex : Value → Argument Regex
  | regex r => .ok r
  | string pattern =>
    match Regex.compile pattern "" with
    | .ok r => .ok r
    | .error e => .error (.badPattern pattern e.message)
  | v => .error (.notRegex v.typeName)

/-! ## Rules -/

mutual

/-- A rule, or what stands for one. -/
def toRule : Value → Argument Rule
  | rule r => .ok r
  | regex r => .ok (.pattern r)
  | object entries =>
    match optionsOf ["required", "optional"] (some (object entries)) with
    | .error f => .error f
    | .ok _ =>
      match (memberRules "required" entries).getD (.ok []) with
      | .error f => .error f
      | .ok required =>
        match (memberRules "optional" entries).getD (.ok []) with
        | .error f => .error f
        | .ok optional => .ok (.object required optional)
  | factory f => .error (.uncalledFactory f.name)
  | space n => .error (.notRule (space n).typeName)
  | lambda l => .error (.notRule (lambda l).typeName)
  | v => (toData v).map .literal

def toRules : List Value → Argument (List Rule)
  | [] => .ok []
  | v :: vs =>
    match toRule v with
    | .error f => .error f
    | .ok r => (toRules vs).map (r :: ·)

/-- The rules that an option holds, none if it is null. -/
def ruleList (key : String) : Value → Argument (List Rule)
  | null => .ok []
  | array items => toRules items
  | v => .error (.notRules key v.typeName)

/-- The rules under a key, if it is there: those of its last entry. -/
def memberRules (key : String) : List (String × Value) → Option (Argument (List Rule))
  | [] => none
  | (k, v) :: rest =>
    (memberRules key rest).or (if k = key then some (ruleList key v) else none)

end

/-- A rule that is a descriptor. -/
def toDescriptor : Value → Argument Rule
  | rule (.contains d) => .ok (.contains d)
  | rule r => .error (.notDescriptor r.kind)
  | v => .error (.notDescriptor v.typeName)

/-- The group of a package that a factory of the given name makes. -/
def toGroup (name : String) : Value → Argument Group
  | array items => (toRules items).map .rules
  | lambda l => .ok (.lazy name l)
  | v => .error (.notGroup v.typeName)

end Value

namespace Options

def regex (o : Options) (key : String) : Argument (Option Regex) :=
  match o.get? key with
  | none => .ok none
  | some v => v.toRegex.map some

def rules (o : Options) (key : String) : Argument (List Rule) :=
  match o.get? key with
  | none => .ok []
  | some v => v.ruleList key

end Options

end Rulebook
