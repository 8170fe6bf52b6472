import Mathlib.Data.List.Forall2
import Mathlib.Data.Option.Basic
import Rulebook.Eval.Expr

/-!
# Values and rules of one form

Values and rules of one form hold the same data, with related values, rules and lambdas in the same places.
-/

namespace Rulebook

/-! ## Results side by side -/

/-- Both are results, related by `V`, or both are the same error. -/
def Match {ε α β : Type} (V : α → β → Prop) : Except ε α → Except ε β → Prop
  | .ok a, .ok b => V a b
  | .error e, .error e' => e = e'
  | _, _ => False

section
variable {ε ε' α β α' β' : Type} {V : α → β → Prop} {V' : α' → β' → Prop}
  {x : Except ε α} {y : Except ε β}

@[elab_as_elim]
theorem Match.elim {P : Except ε α → Except ε β → Prop} (h : Match V x y)
    (error : ∀ e, P (.error e) (.error e)) (ok : ∀ a b, V a b → P (.ok a) (.ok b)) : P x y := by
  cases x <;> cases y
  case error.error e e' =>
    obtain rfl : e = e' := h
    exact error e
  case ok.ok => exact ok _ _ h
  all_goals exact False.elim h

theorem match_eq {x y : Except ε α} : Match Eq x y ↔ x = y := by
  cases x <;> cases y <;> simp [Match]

theorem Match.mapError (h : Match V x y) (f : ε → ε') : Match V (x.mapError f) (y.mapError f) :=
  h.elim (fun _ => rfl) fun _ _ hab => hab

theorem Match.map (h : Match V x y) {f : α → α'} {g : β → β'} (hf : ∀ a b, V a b → V' (f a) (g b)) :
    Match V' (x.map f) (y.map g) :=
  h.elim (fun _ => rfl) hf

theorem Match.bind {f : α → Except ε α'} {g : β → Except ε β'} (h : Match V x y)
    (hf : ∀ a b, V a b → Match V' (f a) (g b)) : Match V' (x >>= f) (y >>= g) :=
  h.elim (fun _ => rfl) hf

end

/-! ## Look-ups -/

section
variable {α : Type}

theorem lookup_key_cons (key k : String) (v : α) (rest : List (String × α)) :
    List.lookup key ((k, v) :: rest) = if key = k then some v else rest.lookup key := by
  by_cases h : key = k
  · simp [h]
  · simp [List.lookup_cons, beq_eq_false_iff_ne.2 h, h]

theorem lookup_reverse_cons (key : String) (e : String × α) (rest : List (String × α)) :
    (e :: rest).reverse.lookup key =
      (rest.reverse.lookup key).or (if key = e.1 then some e.2 else none) := by
  obtain ⟨k, v⟩ := e
  rw [List.reverse_cons, List.lookup_append, lookup_key_cons]
  rfl

end

/-! ## Forms -/

/-- Entries of the same key with related values. -/
inductive Keyed {α β : Type} (V : α → β → Prop) : String × α → String × β → Prop
  | mk (key : String) {a : α} {b : β} (h : V a b) : Keyed V (key, a) (key, b)

abbrev Entries {α β : Type} (V : α → β → Prop) : List (String × α) → List (String × β) → Prop :=
  List.Forall₂ (Keyed V)

/-- Values of one form, with related values, rules and lambdas in them. -/
inductive Value.Alike (V : Value → Value → Prop) (R : Rule → Rule → Prop)
    (L : Lambda → Lambda → Prop) : Value → Value → Prop
  | null : Alike V R L .null .null
  | bool (b : Bool) : Alike V R L (.bool b) (.bool b)
  | number (x : Binary64) : Alike V R L (.number x) (.number x)
  | string (s : String) : Alike V R L (.string s) (.string s)
  | regex (r : Regex) : Alike V R L (.regex r) (.regex r)
  | array {vs vs' : List Value} (h : List.Forall₂ V vs vs') : Alike V R L (.array vs) (.array vs')
  | object {es es' : List (String × Value)} (h : List.Forall₂ (Keyed V) es es') :
      Alike V R L (.object es) (.object es')
  | rule {r r' : Rule} (h : R r r') : Alike V R L (.rule r) (.rule r')
  | factory (f : Factory) : Alike V R L (.factory f) (.factory f)
  | space (n : Namespace) : Alike V R L (.space n) (.space n)
  | lambda {l l' : Lambda} (h : L l l') : Alike V R L (.lambda l) (.lambda l')

inductive Group.Alike (R : Rule → Rule → Prop) (L : Lambda → Lambda → Prop) : Group → Group → Prop
  | rules {rules rules' : List Rule} (h : List.Forall₂ R rules rules') :
      Alike R L (.rules rules) (.rules rules')
  | lazy (kind : String) {l l' : Lambda} (h : L l l') : Alike R L (.lazy kind l) (.lazy kind l')

inductive Descriptor.Alike (R : Rule → Rule → Prop) (L : Lambda → Lambda → Prop) :
    Descriptor → Descriptor → Prop
  | field (key : String) (isOptional : Bool) {value value' : Option Rule}
      (h : Option.Rel R value value') : Alike R L (.field key isOptional value) (.field key isOptional value')
  | file (path : String) (ext : Option String) {content content' : List Rule}
      (h : List.Forall₂ R content content') : Alike R L (.file path ext content) (.file path ext content')
  | directory (path : Option String) {required required' optional optional' : List Rule}
      (hrequired : List.Forall₂ R required required') (hoptional : List.Forall₂ R optional optional') :
      Alike R L (.directory path required optional) (.directory path required' optional')
  | jsonFile (path : String) {required required' optional optional' : List Rule}
      (hrequired : List.Forall₂ R required required') (hoptional : List.Forall₂ R optional optional') :
      Alike R L (.jsonFile path required optional) (.jsonFile path required' optional')
  | package (name : Option Regex) {group group' : Group} (h : group.Alike R L group') :
      Alike R L (.package name group) (.package name group')
  | custom (kind : String) (params : Json) : Alike R L (.custom kind params) (.custom kind params)

/-- Rules of one form, with related rules and lambdas in them. -/
inductive Rule.Alike (R : Rule → Rule → Prop) (L : Lambda → Lambda → Prop) : Rule → Rule → Prop
  | str (min max : Option Nat) (pattern : Option Regex) :
      Alike R L (.str min max pattern) (.str min max pattern)
  | num (min max : Option Binary64) (integer : Bool) :
      Alike R L (.num min max integer) (.num min max integer)
  | bool : Alike R L .bool .bool
  | literal (expected : Json) : Alike R L (.literal expected) (.literal expected)
  | pattern (regex : Regex) : Alike R L (.pattern regex) (.pattern regex)
  | object {required required' optional optional' : List Rule}
      (hrequired : List.Forall₂ R required required') (hoptional : List.Forall₂ R optional optional') :
      Alike R L (.object required optional) (.object required' optional')
  | oneOf {options options' : List Rule} (h : List.Forall₂ R options options') :
      Alike R L (.oneOf options) (.oneOf options')
  | listOf {item item' : Rule} (min max : Option Nat) (h : R item item') :
      Alike R L (.listOf item min max) (.listOf item' min max)
  | not (flavor : Negation) {inner inner' : Rule} (h : R inner inner') :
      Alike R L (.not flavor inner) (.not flavor inner')
  | contains {d d' : Descriptor} (h : d.Alike R L d') : Alike R L (.contains d) (.contains d')
  | host (rule : HostRule) : Alike R L (.host rule) (.host rule)

section
variable {V : Value → Value → Prop} {R : Rule → Rule → Prop} {L : Lambda → Lambda → Prop}

theorem Value.Alike.typeName_eq {v v' : Value} (h : v.Alike V R L v') : v.typeName = v'.typeName := by
  cases h <;> rfl

theorem lookup_alike {es es' : List (String × Value)} (h : Entries V es es') (key : String) :
    Option.Rel V (es.lookup key) (es'.lookup key) := by
  induction h with
  | nil => exact .none
  | cons he _ ih =>
    obtain ⟨k, hv⟩ := he
    rw [List.lookup_cons, List.lookup_cons]
    split
    · exact .some hv
    · exact ih

theorem entry?_alike {es es' : List (String × Value)} (h : Entries V es es') (key : String) :
    Option.Rel V (Value.entry? key es) (Value.entry? key es') :=
  lookup_alike (List.rel_reverse h) key

theorem getElem?_alike {vs vs' : List Value} (h : List.Forall₂ V vs vs') (n : Nat) :
    Option.Rel V vs[n]? vs'[n]? := by
  induction h generalizing n with
  | nil => exact .none
  | cons hv _ ih =>
    cases n with
    | zero => exact .some hv
    | succ n => simpa using ih n

theorem Descriptor.Alike.kind_eq {d d' : Descriptor} (h : d.Alike R L d') : d.kind = d'.kind := by
  cases h <;> rfl

theorem Rule.Alike.describe_eq {r r' : Rule} (h : r.Alike R L r') : r.describe = r'.describe := by
  cases h with
  | contains h => exact h.kind_eq
  | _ => rfl

end

/-! ## Equality -/

theorem entries_eq {α : Type} {es es' : List (String × α)} : Entries Eq es es' ↔ es = es' := by
  have hkeyed : Keyed Eq = (Eq : String × α → String × α → Prop) := by
    funext e e'
    refine propext ⟨fun ⟨_, h⟩ => h ▸ rfl, ?_⟩
    rintro rfl
    exact ⟨e.1, rfl⟩
  rw [Entries, hkeyed, List.forall₂_eq_eq_eq]

theorem value_eq {v v' : Value} : v = v' ↔ v.Alike Eq Eq Eq v' := by
  constructor
  · rintro rfl
    cases v with
    | array => exact .array (List.forall₂_refl _)
    | object => exact .object (entries_eq.2 rfl)
    | rule => exact .rule rfl
    | lambda => exact .lambda rfl
    | _ => constructor
  · intro h
    cases h with
    | array h =>
      rw [List.forall₂_eq_eq_eq] at h
      rw [h]
    | object h => rw [entries_eq.1 h]
    | rule h => rw [h]
    | lambda h => rw [h]
    | _ => rfl

theorem option_eq {α : Type} {o o' : Option α} : Option.Rel Eq o o' ↔ o = o' := by
  cases o <;> cases o' <;> simp

theorem group_eq {g g' : Group} : g.Alike Eq Eq g' ↔ g = g' := by
  constructor
  · rintro (h | ⟨kind, h⟩)
    · rw [List.forall₂_eq_eq_eq] at h
      rw [h]
    · rw [h]
  · rintro rfl
    cases g with
    | rules => exact .rules (List.forall₂_refl _)
    | «lazy» kind => exact .lazy kind rfl

theorem descriptor_eq {d d' : Descriptor} : d.Alike Eq Eq d' ↔ d = d' := by
  constructor
  · intro h
    cases h with
    | field _ _ h => rw [option_eq.1 h]
    | file _ _ h =>
      rw [List.forall₂_eq_eq_eq] at h
      rw [h]
    | directory _ hr ho | jsonFile _ hr ho =>
      rw [List.forall₂_eq_eq_eq] at hr ho
      rw [hr, ho]
    | package _ h => rw [group_eq.1 h]
    | custom => rfl
  · rintro rfl
    cases d with
    | field => exact .field _ _ (option_eq.2 rfl)
    | file => exact .file _ _ (List.forall₂_refl _)
    | directory => exact .directory _ (List.forall₂_refl _) (List.forall₂_refl _)
    | jsonFile => exact .jsonFile _ (List.forall₂_refl _) (List.forall₂_refl _)
    | package => exact .package _ (group_eq.2 rfl)
    | custom => exact .custom _ _

theorem rule_eq {r r' : Rule} : r = r' ↔ r.Alike Eq Eq r' := by
  constructor
  · rintro rfl
    cases r with
    | object => exact .object (List.forall₂_refl _) (List.forall₂_refl _)
    | oneOf => exact .oneOf (List.forall₂_refl _)
    | listOf => exact .listOf _ _ rfl
    | not => exact .not _ rfl
    | contains => exact .contains (descriptor_eq.2 rfl)
    | _ => constructor
  · intro h
    cases h with
    | object hr ho =>
      rw [List.forall₂_eq_eq_eq] at hr ho
      rw [hr, ho]
    | oneOf h =>
      rw [List.forall₂_eq_eq_eq] at h
      rw [h]
    | listOf _ _ h => rw [h]
    | not _ h => rw [h]
    | contains h => rw [descriptor_eq.1 h]
    | _ => rfl

end Rulebook
