import Rulebook.Proofs.KeyOrder
import Rulebook.Proofs.FactoriesSideBySide

/-!
# Entries that are overridden

The last entry of a key is what an object holds for it. If the others are deleted, what is looked up is the
same, and so is the document that is made of the object if there was one: an entry that is no data, even if
it is overridden, is in the way of a document.
-/

namespace Rulebook

/-! ## Deleting entries -/

section
variable {α : Type}

/-- The last entry of each key. -/
def lastEntries : List (String × α) → List (String × α)
  | [] => []
  | e :: rest => if ∃ f ∈ rest, f.1 = e.1 then lastEntries rest else e :: lastEntries rest

/-- The entries that are not the last of their key. -/
def overridden : List (String × α) → List (String × α)
  | [] => []
  | e :: rest => if ∃ f ∈ rest, f.1 = e.1 then e :: overridden rest else overridden rest

variable {e : String × α} {rest entries : List (String × α)}

theorem lastEntries_of_later (h : ∃ f ∈ rest, f.1 = e.1) : lastEntries (e :: rest) = lastEntries rest :=
  if_pos h

theorem lastEntries_of_last (h : ¬ ∃ f ∈ rest, f.1 = e.1) :
    lastEntries (e :: rest) = e :: lastEntries rest :=
  if_neg h

theorem overridden_of_later (h : ∃ f ∈ rest, f.1 = e.1) : overridden (e :: rest) = e :: overridden rest :=
  if_pos h

theorem overridden_of_last (h : ¬ ∃ f ∈ rest, f.1 = e.1) : overridden (e :: rest) = overridden rest :=
  if_neg h

theorem sublist_lastEntries (entries : List (String × α)) : (lastEntries entries).Sublist entries := by
  induction entries with
  | nil => exact .slnil
  | cons e rest ih =>
    by_cases h : ∃ f ∈ rest, f.1 = e.1
    · rw [lastEntries_of_later h]
      exact ih.cons e
    · rw [lastEntries_of_last h]
      exact ih.cons_cons e

theorem sublist_overridden (entries : List (String × α)) : (overridden entries).Sublist entries := by
  induction entries with
  | nil => exact .slnil
  | cons e rest ih =>
    by_cases h : ∃ f ∈ rest, f.1 = e.1
    · rw [overridden_of_later h]
      exact ih.cons_cons e
    · rw [overridden_of_last h]
      exact ih.cons e

theorem nodup_lastEntries (entries : List (String × α)) : ((lastEntries entries).map Prod.fst).Nodup := by
  induction entries with
  | nil => exact .nil
  | cons e rest ih =>
    by_cases h : ∃ f ∈ rest, f.1 = e.1
    · rwa [lastEntries_of_later h]
    · rw [lastEntries_of_last h, List.map_cons, List.nodup_cons]
      refine ⟨fun hmem => h ?_, ih⟩
      obtain ⟨f, hf, hkey⟩ := List.mem_map.1 hmem
      exact ⟨f, (sublist_lastEntries rest).subset hf, hkey⟩

/-- What is looked up from the end is looked up among the last entries. -/
theorem lookup_reverse_lastEntries (key : String) (entries : List (String × α)) :
    (lastEntries entries).reverse.lookup key = entries.reverse.lookup key := by
  induction entries with
  | nil => rfl
  | cons e rest ih =>
    by_cases h : ∃ f ∈ rest, f.1 = e.1
    · rw [lastEntries_of_later h, ih, lookup_reverse_cons]
      split
      · rename_i hkey
        obtain ⟨f, hf, heq⟩ := h
        cases hlookup : rest.reverse.lookup key with
        | some v => rfl
        | none =>
          have hne := List.lookup_eq_none_iff.1 hlookup f (List.mem_reverse.2 hf)
          exact absurd (hkey.trans heq.symm) (bne_iff_ne.1 hne)
      · exact Option.or_none.symm
    · rw [lastEntries_of_last h, lookup_reverse_cons, lookup_reverse_cons, ih]

end

namespace Json

theorem ofEntries_lastEntries (entries : List (String × Json)) :
    ofEntries (lastEntries entries) = ofEntries entries := by
  refine (sortedKeys_ofEntries _).ext (sortedKeys_ofEntries _) fun key => ?_
  rw [lookup_ofEntries, lookup_ofEntries, lookup_reverse_lastEntries]

end Json

/-! ## Data -/

namespace Value

/-- Of some objects all entries but the last of each key are deleted. -/
inductive Trims : Value → Value → Prop
  | refl (v : Value) : Trims v v
  | array {vs vs' : List Value} (h : List.Forall₂ Trims vs vs') : Trims (.array vs) (.array vs')
  | entries {es es' : List (String × Value)} (h : List.Forall₂ (Keyed Trims) es es') :
      Trims (.object es) (.object es')
  | last {es es' : List (String × Value)} (h : List.Forall₂ (Keyed Trims) (lastEntries es) es') :
      Trims (.object es) (.object es')

/-- Somewhere in a value an entry is overridden that is no data. -/
inductive Hides : Value → Prop
  | here {es : List (String × Value)} {e : String × Value} (he : e ∈ overridden es)
      (hdata : e.2.toJson? = none) : Hides (.object es)
  | item {vs : List Value} {v : Value} (hv : v ∈ vs) (h : Hides v) : Hides (.array vs)
  | entry {es : List (String × Value)} {e : String × Value} (he : e ∈ es) (h : Hides e.2) :
      Hides (.object es)

theorem itemsToJson?_eq_none {vs : List Value} {v : Value} (hv : v ∈ vs) (h : v.toJson? = none) :
    itemsToJson? vs = none := by
  induction vs with
  | nil => cases hv
  | cons w ws ih =>
    rw [itemsToJson?]
    rcases List.mem_cons.1 hv with rfl | hv
    · rw [h]
      rfl
    · rw [ih hv]
      cases w.toJson? <;> rfl

theorem entriesToJson?_eq_none {es : List (String × Value)} {e : String × Value} (he : e ∈ es)
    (h : e.2.toJson? = none) : entriesToJson? es = none := by
  induction es with
  | nil => cases he
  | cons f rest ih =>
    obtain ⟨key, w⟩ := f
    rw [entriesToJson?]
    rcases List.mem_cons.1 he with rfl | he
    · dsimp only at h
      rw [h]
      rfl
    · rw [ih he]
      cases w.toJson? <;> rfl

theorem Hides.toJson?_eq_none {v : Value} (h : v.Hides) : v.toJson? = none := by
  induction h with
  | here he hdata =>
    rw [toJson?, entriesToJson?_eq_none ((sublist_overridden _).subset he) hdata]
    rfl
  | item hv _ ih =>
    rw [toJson?, itemsToJson?_eq_none hv ih]
    rfl
  | entry he _ ih =>
    rw [toJson?, entriesToJson?_eq_none he ih]
    rfl

theorem keys_of_entriesToJson? {es : List (String × Value)} {ws : List (String × Json)}
    (h : entriesToJson? es = some ws) : ws.map Prod.fst = es.map Prod.fst := by
  induction es generalizing ws with
  | nil =>
    cases h
    rfl
  | cons e rest ih =>
    rw [entriesToJson?] at h
    obtain ⟨w, -, h⟩ := Option.bind_eq_some_iff.1 h
    obtain ⟨ws, hws, h⟩ := Option.bind_eq_some_iff.1 h
    cases h
    rw [List.map_cons, List.map_cons, ih hws]

theorem entriesToJson?_lastEntries {es : List (String × Value)}
    (h : ∀ e ∈ overridden es, e.2.toJson? ≠ none) :
    entriesToJson? (lastEntries es) = (entriesToJson? es).map lastEntries := by
  induction es with
  | nil => rfl
  | cons e rest ih =>
    obtain ⟨key, v⟩ := e
    -- The key comes again among the documents if it comes again among the values.
    have hkeys : ∀ {ws}, entriesToJson? rest = some ws → ∀ w : Json,
        (∃ f ∈ ws, f.1 = (key, w).1) ↔ ∃ f ∈ rest, f.1 = (key, v).1 := by
      intro ws hws w
      rw [← List.mem_map, ← List.mem_map, keys_of_entriesToJson? hws]
    by_cases hlater : ∃ f ∈ rest, f.1 = (key, v).1
    · rw [overridden_of_later hlater] at h
      obtain ⟨hv, hrest⟩ := List.forall_mem_cons.1 h
      obtain ⟨w, hw⟩ := Option.ne_none_iff_exists'.1 hv
      dsimp only at hw
      rw [lastEntries_of_later hlater, ih hrest, entriesToJson?, hw]
      cases hws : entriesToJson? rest with
      | none => rfl
      | some ws => exact congrArg some (lastEntries_of_later ((hkeys hws w).2 hlater)).symm
    · rw [overridden_of_last hlater] at h
      rw [lastEntries_of_last hlater, entriesToJson?, entriesToJson?, ih h]
      cases v.toJson? with
      | none => rfl
      | some w =>
        cases hws : entriesToJson? rest with
        | none => rfl
        | some ws => exact congrArg some (lastEntries_of_last fun hmem => hlater ((hkeys hws w).1 hmem)).symm

theorem toJson?_lastEntries {es : List (String × Value)}
    (h : ∀ e ∈ overridden es, e.2.toJson? ≠ none) :
    (object (lastEntries es)).toJson? = (object es).toJson? := by
  rw [toJson?, toJson?, entriesToJson?_lastEntries h, Option.map_map]
  congr 1
  funext members
  exact congrArg Json.object (Json.ofEntries_lastEntries members)

/-- A value is the same document with fewer entries, unless one that is overridden is in the way. -/
theorem Trims.toJson?_eq {v v' : Value} (h : v.Trims v') (hnot : ¬ v.Hides) : v.toJson? = v'.toJson? := by
  induction v using Value.induct generalizing v' with
  | array vs ih =>
    have hall : ∀ v ∈ vs, ∀ v', v.Trims v' → v.toJson? = v'.toJson? :=
      fun v hv v' h => ih v hv h fun hides => hnot (.item hv hides)
    cases h with
    | refl => rfl
    | array h =>
      have hitems := ((List.forall₂_and_left _ _).2 ⟨hall, h⟩).imp fun v v' hv => hv.1 v' hv.2
      rw [toJson?, toJson?, itemsToJson?_congr hitems]
  | object es ih =>
    have hall : ∀ e ∈ es, ∀ v', e.2.Trims v' → e.2.toJson? = v'.toJson? :=
      fun e he v' h => ih e he h fun hides => hnot (.entry he hides)
    -- For some of the entries, as those that are overridden may be left out.
    have hentries : ∀ {some_es es'}, some_es ⊆ es → Entries Trims some_es es' →
        entriesToJson? some_es = entriesToJson? es' := by
      intro some_es es' hsub h
      have hmem := (List.forall₂_and_left _ _).2 ⟨fun e he => hall e (hsub he), h⟩
      refine entriesToJson?_congr (hmem.imp fun e e' he => ?_)
      obtain ⟨he, ⟨key, h⟩⟩ := he
      exact ⟨key, he _ h⟩
    cases h with
    | refl => rfl
    | entries h => rw [toJson?, toJson?, hentries (List.Subset.refl es) h]
    | last h =>
      -- What is overridden is data, or the object would hide it.
      have hdata : ∀ e ∈ overridden es, e.2.toJson? ≠ none := fun e he hnone => hnot (.here he hnone)
      rw [← toJson?_lastEntries hdata, toJson?, toJson?, hentries (sublist_lastEntries es).subset h]
  | leaf v harray hobject =>
    cases h with
    | refl => rfl
    | array => exact absurd rfl (harray _)
    | entries => exact absurd rfl (hobject _)
    | last => exact absurd rfl (hobject _)

/-! ## Members -/

theorem entry?_lastEntries (key : String) (es : List (String × Value)) :
    entry? key (lastEntries es) = entry? key es :=
  lookup_reverse_lastEntries key es

/-- Of what is there for each key, the same entries are deleted. -/
theorem Trims.lookup {es es' : List (String × Value)} (h : (object es).Trims (.object es')) (key : String) :
    Option.Rel Trims (Value.entry? key es) (Value.entry? key es') := by
  cases h with
  | refl =>
    cases Value.entry? key es with
    | none => exact .none
    | some v => exact .some (.refl v)
  | entries h => exact entry?_alike h key
  | last h =>
    rw [← entry?_lastEntries]
    exact entry?_alike h key

end Value
end Rulebook
