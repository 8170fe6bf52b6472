import Rulebook.Proofs.EagerGroups
import Rulebook.Proofs.RepeatedKeys

/-!
# The last entry of a key counts

Whatever reads an object asks for the last entry of a key, so entries that are overridden can be deleted: of
the arguments with fewer entries a factory makes the same rule, or it fails as before. Two differences are
left. Of several unknown options another may be named, and data may be made of a value that was none.
-/

namespace Rulebook

/-! ## Results before and after entries are deleted -/

/-- Results that are related, the same failure, a failure for an unknown option in both cases, or, where an
entry may be in the way of data, a failure for the lack of data in the first. -/
inductive Keeps (lost : Prop) {α β : Type} (V : α → β → Prop) : Argument α → Argument β → Prop
  | ok {a : α} {b : β} (h : V a b) : Keeps lost V (.ok a) (.ok b)
  | error (f : FactoryFault) : Keeps lost V (.error f) (.error f)
  | unknown {key key' : String} {allowed : List String} (h : key ∉ allowed) (h' : key' ∉ allowed) :
      Keeps lost V (.error (.unknownOption key allowed)) (.error (.unknownOption key' allowed))
  | lost (h : lost) (type : String) (y : Argument β) : Keeps lost V (.error (.notData type)) y

/-! ## Parts of arguments -/

/-- A value and the same with fewer entries; what it hides may be in the way of data. -/
structure Value.Part (lost : Prop) (v v' : Value) : Prop where
  trims : v.Trims v'
  hides : v.Hides → lost

namespace Value.Part

variable {lost : Prop}

theorem lookup {es es' : Options} (h : (object es).Part lost (.object es')) (key : String) :
    Option.Rel (Part lost) (Value.entry? key es) (Value.entry? key es') := by
  have htrims := h.trims.lookup key
  have hhides : ∀ v, Value.entry? key es = some v → v.Hides → lost := fun v hv hides =>
    h.hides (.entry (mem_of_entry hv) hides)
  generalize Value.entry? key es = v at htrims hhides ⊢
  generalize Value.entry? key es' = v' at htrims ⊢
  cases htrims with
  | none => exact .none
  | some htrims => exact .some ⟨htrims, hhides _ rfl⟩

theorem seen {v v' : Value} (h : v.Part lost v') : v.Seen (Part lost) Eq Eq v' := by
  obtain ⟨htrims, hhides⟩ := h
  cases htrims with
  | refl =>
    cases v with
    | array vs =>
      have hall : ∀ v ∈ vs, v.Part lost v := fun v hv => ⟨.refl v, fun hides => hhides (.item hv hides)⟩
      exact .array (List.forall₂_same.2 hall)
    | object es => exact .object (lookup ⟨.refl _, hhides⟩)
    | null => exact .null
    | bool b => exact .bool b
    | number x => exact .number x
    | string s => exact .string s
    | regex r => exact .regex r
    | rule => exact .rule rfl
    | factory f => exact .factory f
    | space n => exact .space n
    | lambda => exact .lambda rfl
  | @array vs vs' hitems =>
    have hall : ∀ v ∈ vs, v.Hides → lost := fun v hv hides => hhides (.item hv hides)
    exact .array (((List.forall₂_and_left _ _).2 ⟨hall, hitems⟩).imp fun v v' hv => ⟨hv.2, hv.1⟩)
  | entries h => exact .object (lookup ⟨.entries h, hhides⟩)
  | last h => exact .object (lookup ⟨.last h, hhides⟩)

end Value.Part

/-! ## Options and data -/

theorem forall_keys_iff {p : String → Prop} {es : Options} :
    (∀ e ∈ es, p e.1) ↔ ∀ key, Value.entry? key es ≠ none → p key := by
  constructor
  · intro hall key hkey
    obtain ⟨v, hv⟩ := Option.ne_none_iff_exists'.1 hkey
    exact hall _ (Value.mem_of_entry hv)
  · intro hall e he
    refine hall e.1 fun hnone => ?_
    have hne := List.lookup_eq_none_iff.1 hnone e (List.mem_reverse.2 he)
    exact bne_iff_ne.1 hne rfl

theorem optionsOf_object_error {allowed : List String} {es : List (String × Value)}
    (h : ¬ ∀ e ∈ es, e.1 ∈ allowed) :
    ∃ key ∉ allowed, optionsOf allowed (some (.object es)) = .error (.unknownOption key allowed) := by
  unfold optionsOf
  dsimp only
  split
  · rename_i key v hfound
    exact ⟨key, by simpa using List.find?_some hfound, rfl⟩
  · rename_i hnone
    refine absurd (fun e he => ?_) h
    simpa using List.find?_eq_none.1 hnone e he

namespace Keeps

variable {lost : Prop}

theorem bind {α β α' β' : Type} {V : α → β → Prop} {V' : α' → β' → Prop} {x : Argument α} {y : Argument β}
    {f : α → Argument α'} {g : β → Argument β'} (h : Keeps lost V x y)
    (hf : ∀ a b, V a b → Keeps lost V' (f a) (g b)) : Keeps lost V' (x >>= f) (y >>= g) := by
  cases h with
  | ok h => exact hf _ _ h
  | error f => exact .error f
  | unknown h h' => exact .unknown h h'
  | lost h type y => exact .lost h type _

theorem optionsOf (allowed : List String) {v v' : Option Value} (h : Option.Rel (Value.Part lost) v v') :
    Keeps lost (Options.Alike (Value.Part lost)) (optionsOf allowed v) (optionsOf allowed v') := by
  have hnil : Options.Alike (Value.Part lost) [] [] := fun _ => .none
  cases h with
  | none => exact .ok hnil
  | some h =>
    cases h.seen with
    | null => exact .ok hnil
    | @object es es' hentries =>
      have hkeys : (∀ e ∈ es, e.1 ∈ allowed) ↔ ∀ e ∈ es', e.1 ∈ allowed := by
        rw [forall_keys_iff (p := (· ∈ allowed)), forall_keys_iff (p := (· ∈ allowed))]
        refine forall_congr' fun key => ?_
        have hentry := hentries key
        generalize Value.entry? key es = w at hentry ⊢
        generalize Value.entry? key es' = w' at hentry ⊢
        cases hentry <;> simp
      by_cases hall : ∀ e ∈ es, e.1 ∈ allowed
      · rw [optionsOf_object_ok.2 ⟨rfl, hall⟩, optionsOf_object_ok.2 ⟨rfl, hkeys.1 hall⟩]
        exact .ok hentries
      · obtain ⟨key, hkey, herror⟩ := optionsOf_object_error hall
        obtain ⟨key', hkey', herror'⟩ := optionsOf_object_error (fun h => hall (hkeys.2 h))
        rw [herror, herror']
        exact .unknown hkey hkey'
    | _ => exact .error _

theorem toData {v v' : Value} (h : v.Part lost v') : Keeps lost Eq v.toData v'.toData := by
  unfold Value.toData
  by_cases hides : v.Hides
  · rw [hides.toJson?_eq_none]
    exact .lost (h.hides hides) _ _
  · rw [h.trims.toJson?_eq hides, h.seen.typeName_eq]
    cases v'.toJson? with
    | some j => exact .ok rfl
    | none => exact .error _

theorem alignment (lost : Prop) : Argument.Alignment (@Keeps lost) (Value.Part lost) Eq Eq where
  ok := .ok
  error := .error
  bind := bind
  value := Value.Part.seen
  rule := rule_eq
  optionsOf := optionsOf
  toData := toData

end Keeps

/-! ## The last entries count -/

/-- Of an object the last entry of each key is found, with or without the others. It is the same data without
them if it is data, unless one of them is none; and rules are made as before. -/
theorem last_entries_count :
    (∀ es name, (Value.object (lastEntries es)).member name = (Value.object es).member name) ∧
    (∀ es i, (Value.object (lastEntries es)).index i = (Value.object es).index i) ∧
    (∀ v v' : Value, v.Trims v' → (v.Hides → v.toJson? = none) ∧ (¬ v.Hides → v.toJson? = v'.toJson?)) ∧
    (∀ v v' : Value, v.Trims v' → Keeps v.Hides Eq v.toRule v'.toRule) ∧
    ∀ (f : Factory) (args args' : List Value), List.Forall₂ Value.Trims args args' →
      Keeps (∃ v ∈ args, v.Hides) Eq (f.build args) (f.build args') := by
  refine ⟨fun es name => ?_, fun es i => ?_, fun v v' h => ?_, fun v v' h => ?_, fun f args args' h => ?_⟩
  · simp only [Value.member, Value.entry?_lastEntries]
  · cases i with
    | string key => simp only [Value.index, Value.entry?_lastEntries]
    | _ => rfl
  · exact ⟨Value.Hides.toJson?_eq_none, h.toJson?_eq⟩
  · exact (Keeps.alignment v.Hides).toRule ⟨h, id⟩
  · have hhides : ∀ v ∈ args, v.Hides → ∃ v ∈ args, v.Hides := fun v hv hides => ⟨v, hv, hides⟩
    have hparts : List.Forall₂ (Value.Part (∃ v ∈ args, v.Hides)) args args' :=
      ((List.forall₂_and_left _ _).2 ⟨hhides, h⟩).imp fun v v' hv => ⟨hv.2, hv.1⟩
    exact (Keeps.alignment _).build f hparts

/-- Of two names for a field the last counts. -/
theorem last_entries_count_field : ∃ args args' : List Value, List.Forall₂ Value.Trims args args' ∧
    Keeps (∃ v ∈ args, v.Hides) Eq ((Factory.builtin .field).build args) ((Factory.builtin .field).build args') ∧
    (Factory.builtin .field).build args = .ok (.contains (.field "b" false none)) := by
  have htrims : List.Forall₂ Value.Trims [.object [("key", .string "a"), ("key", .string "b")]]
      [.object [("key", .string "b")]] := .cons (.last (.cons ⟨_, .refl _⟩ .nil)) .nil
  exact ⟨_, _, htrims, last_entries_count.2.2.2.2 _ _ _ htrims, rfl⟩

/-- A rule under a key is in the way of a literal, although other data overrides it. -/
theorem not_forall_build_lastEntries : ¬ ∀ (f : Factory) (es : Options),
    f.build [.object (lastEntries es)] = f.build [.object es] := by
  intro hall
  have hliteral := hall (.builtin .literal) [("a", .rule .bool), ("a", .bool true)]
  cases hliteral

end Rulebook
