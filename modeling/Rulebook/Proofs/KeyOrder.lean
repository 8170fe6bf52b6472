import Mathlib.Data.List.Sort
import Mathlib.Data.String.Basic
import Rulebook.Proofs.Alike

/-!
# Entries sorted by key

Members of documents and validators of a registry stand sorted by key, each key once. Entries so sorted are
the same if they hold the same for every key; and whatever was put among members, the last of each key is
what they hold.
-/

namespace Rulebook

section
variable {α β : Type}

/-- Ascending keys, each once. -/
def SortedKeys (entries : List (String × α)) : Prop := entries.Pairwise fun e f => e.1 < f.1

/-- Sets a key among sorted entries. -/
def insertKey (key : String) (v : α) : List (String × α) → List (String × α)
  | [] => [(key, v)]
  | (k, w) :: rest =>
    if key < k then (key, v) :: (k, w) :: rest
    else if key = k then (key, v) :: rest
    else (k, w) :: insertKey key v rest

variable {entries : List (String × α)}

theorem lookup_insertKey (key other : String) (v : α) (entries : List (String × α)) :
    (insertKey key v entries).lookup other = if other = key then some v else entries.lookup other := by
  induction entries with
  | nil => simp only [insertKey, lookup_key_cons]
  | cons e rest ih =>
    obtain ⟨k, w⟩ := e
    unfold insertKey
    split
    · simp only [lookup_key_cons]
    · split <;> simp only [lookup_key_cons, ih] <;> grind

theorem exists_mem_cons {key k : String} {v : α} :
    (∃ u, (key, u) ∈ (k, v) :: entries) ↔ key = k ∨ ∃ u, (key, u) ∈ entries := by
  simp only [List.mem_cons, Prod.mk.injEq, exists_or, exists_and_left, exists_eq, and_true]

theorem mem_insertKey {key : String} {v : α} {e : String × α} (h : e ∈ insertKey key v entries) :
    e = (key, v) ∨ e ∈ entries := by
  induction entries with
  | nil => simpa [insertKey] using h
  | cons f rest ih =>
    unfold insertKey at h
    grind

theorem insertKey_eq_append {key : String} (h : ∀ e ∈ entries, e.1 < key) (v : α) :
    insertKey key v entries = entries ++ [(key, v)] := by
  induction entries with
  | nil => rfl
  | cons e rest ih =>
    obtain ⟨k, w⟩ := e
    obtain ⟨hk, hrest⟩ := List.forall_mem_cons.1 h
    rw [insertKey, if_neg (lt_asymm hk), if_neg (ne_of_gt hk), ih hrest, List.cons_append]

namespace SortedKeys

theorem insertKey (h : SortedKeys entries) (key : String) (v : α) :
    SortedKeys (insertKey key v entries) := by
  induction entries with
  | nil => exact List.pairwise_singleton _ _
  | cons e rest ih =>
    obtain ⟨k, w⟩ := e
    obtain ⟨hfirst, hrest⟩ := List.pairwise_cons.1 h
    unfold Rulebook.insertKey
    split
    · rename_i hlt
      refine List.pairwise_cons.2 ⟨?_, h⟩
      exact List.forall_mem_cons.2 ⟨hlt, fun f hf => lt_trans hlt (hfirst f hf)⟩
    · rename_i hnlt
      split
      · rename_i heq
        subst heq
        exact List.pairwise_cons.2 ⟨hfirst, hrest⟩
      · rename_i hne
        refine List.pairwise_cons.2 ⟨fun f hf => ?_, ih hrest⟩
        obtain rfl | hf := mem_insertKey hf
        · exact lt_of_le_of_ne (not_lt.1 hnlt) (Ne.symm hne)
        · exact hfirst f hf

theorem lookup_eq_some_iff (h : SortedKeys entries) {key : String} {v : α} :
    entries.lookup key = some v ↔ (key, v) ∈ entries := by
  induction entries with
  | nil => simp
  | cons e rest ih =>
    obtain ⟨k, w⟩ := e
    obtain ⟨hfirst, hrest⟩ := List.pairwise_cons.1 h
    rw [lookup_key_cons, List.mem_cons, Prod.mk.injEq]
    split
    · rename_i heq
      subst heq
      have hnot : (key, v) ∉ rest := fun hmem => lt_irrefl key (hfirst (key, v) hmem)
      simp [hnot, eq_comm]
    · rename_i hne
      simp [hne, ih hrest]

/-- What is held for every key determines the entries. -/
theorem ext {entries' : List (String × α)} (h : SortedKeys entries) (h' : SortedKeys entries')
    (hlookup : ∀ key, entries.lookup key = entries'.lookup key) : entries = entries' := by
  have irrefl : Std.Irrefl fun e f : String × α => e.1 < f.1 := ⟨fun e => lt_irrefl e.1⟩
  have antisymm : Std.Antisymm fun e f : String × α => e.1 < f.1 :=
    ⟨fun e f hef hfe => absurd hfe (lt_asymm hef)⟩
  refine List.Pairwise.eq_of_mem_iff h h' fun ⟨key, v⟩ => ?_
  rw [← h.lookup_eq_some_iff, ← h'.lookup_eq_some_iff, hlookup]

theorem of_entries {R : α → β → Prop} {others : List (String × β)} (h : SortedKeys entries)
    (hentries : Entries R entries others) : SortedKeys others := by
  have hkeys : entries.map Prod.fst = others.map Prod.fst := by
    induction hentries with
    | nil => rfl
    | cons he _ ih =>
      obtain ⟨key, -⟩ := he
      rw [List.map_cons, List.map_cons, ih (List.pairwise_cons.1 h).2]
  have hsorted : (entries.map Prod.fst).Pairwise (· < ·) := List.pairwise_map.2 h
  rw [hkeys] at hsorted
  exact List.pairwise_map.1 hsorted

theorem nodup_keys (h : SortedKeys entries) : (entries.map Prod.fst).Nodup :=
  List.Pairwise.map Prod.fst (fun _ _ => ne_of_lt) h

theorem first_key_eq {k k' : String} {v : α} {w : β} {rest : List (String × α)}
    {rest' : List (String × β)} (h : SortedKeys ((k, v) :: rest)) (h' : SortedKeys ((k', w) :: rest'))
    (hkeys : ∀ key, (key = k ∨ ∃ v, (key, v) ∈ rest) ↔ (key = k' ∨ ∃ w, (key, w) ∈ rest')) : k = k' := by
  -- Either first key would be missing among the others if it were the smaller one.
  rcases (hkeys k).1 (.inl rfl) with heq | ⟨u, hu⟩
  · exact heq
  rcases (hkeys k').2 (.inl rfl) with heq | ⟨u', hu'⟩
  · exact heq.symm
  exact absurd ((List.pairwise_cons.1 h').1 _ hu) (lt_asymm ((List.pairwise_cons.1 h).1 _ hu'))

/-- Sorted entries are related in order if they have the same keys and what they hold for each is related. -/
theorem entries_iff {R : α → β → Prop} {others : List (String × β)} (h : SortedKeys entries)
    (h' : SortedKeys others) :
    Entries R entries others ↔ (∀ key, (∃ v, (key, v) ∈ entries) ↔ ∃ w, (key, w) ∈ others) ∧
      ∀ key v w, (key, v) ∈ entries → (key, w) ∈ others → R v w := by
  induction entries generalizing others with
  | nil =>
    cases others with
    | nil => simp
    | cons e rest =>
      refine ⟨nofun, fun ⟨hkeys, _⟩ => ?_⟩
      obtain ⟨v, hv⟩ := (hkeys e.1).2 ⟨e.2, List.mem_cons_self⟩
      cases hv
  | cons e rest ih =>
    obtain ⟨k, v⟩ := e
    obtain ⟨hfirst, hrest⟩ := List.pairwise_cons.1 h
    cases others with
    | nil =>
      refine ⟨nofun, fun ⟨hkeys, _⟩ => ?_⟩
      obtain ⟨w, hw⟩ := (hkeys k).1 ⟨v, List.mem_cons_self⟩
      cases hw
    | cons e' rest' =>
      obtain ⟨k', w⟩ := e'
      obtain ⟨hfirst', hrest'⟩ := List.pairwise_cons.1 h'
      have hnot : ∀ u, (k, u) ∉ rest := fun u hu => lt_irrefl k (hfirst (k, u) hu)
      have hnot' : ∀ u, (k', u) ∉ rest' := fun u hu => lt_irrefl k' (hfirst' (k', u) hu)
      unfold Entries at ih ⊢
      rw [List.forall₂_cons, ih hrest hrest']
      simp only [exists_mem_cons]
      constructor
      · rintro ⟨⟨_, hvw⟩, hkeys, hall⟩
        refine ⟨fun key => or_congr_right (hkeys key), fun key x y hx hy => ?_⟩
        rcases List.mem_cons.1 hx with heq | hx
        · obtain ⟨rfl, rfl⟩ := Prod.mk.inj heq
          obtain ⟨-, rfl⟩ := Prod.mk.inj ((List.mem_cons.1 hy).resolve_right (hnot' y))
          exact hvw
        · have hne : key ≠ k := fun heq => hnot x (heq ▸ hx)
          have hy : (key, y) ∈ rest' := (List.mem_cons.1 hy).resolve_left fun heq => hne (Prod.mk.inj heq).1
          exact hall key x y hx hy
      · rintro ⟨hkeys, hall⟩
        obtain rfl := h.first_key_eq h' hkeys
        refine ⟨⟨k, hall k v w List.mem_cons_self List.mem_cons_self⟩, fun key => ?_, fun key x y hx hy => ?_⟩
        · have hkey := hkeys key
          grind
        · exact hall key x y (List.mem_cons_of_mem _ hx) (List.mem_cons_of_mem _ hy)

end SortedKeys

end

/-! ## Members of documents -/

namespace Json

theorem put_eq_insertKey (key : String) (v : Json) (members : List (String × Json)) :
    put key v members = insertKey key v members := by
  induction members with
  | nil => rfl
  | cons m rest ih => rw [put, insertKey, ih]

/-- Members after entries were put among them. -/
def putAll (members entries : List (String × Json)) : List (String × Json) :=
  entries.foldl (fun members (k, v) => put k v members) members

theorem putAll_cons (members : List (String × Json)) (key : String) (v : Json)
    (rest : List (String × Json)) :
    putAll members ((key, v) :: rest) = putAll (insertKey key v members) rest := by
  rw [← put_eq_insertKey]
  rfl

section
variable (entries : List (String × Json)) {members : List (String × Json)}

theorem sortedKeys_putAll (h : SortedKeys members) : SortedKeys (putAll members entries) := by
  induction entries generalizing members with
  | nil => exact h
  | cons e rest ih =>
    rw [putAll_cons]
    exact ih (h.insertKey e.1 e.2)

theorem lookup_putAll (key : String) :
    (putAll members entries).lookup key = (entries.reverse.lookup key).or (members.lookup key) := by
  induction entries generalizing members with
  | nil => rfl
  | cons e rest ih =>
    obtain ⟨k, v⟩ := e
    rw [putAll_cons, ih, lookup_insertKey, List.reverse_cons, List.lookup_append, lookup_key_cons]
    cases rest.reverse.lookup key <;> by_cases hkey : key = k <;> simp [hkey]

theorem mem_putAll {m : String × Json} (h : m ∈ putAll members entries) : m ∈ members ∨ m ∈ entries := by
  induction entries generalizing members with
  | nil => exact .inl h
  | cons e rest ih =>
    rw [putAll_cons] at h
    rcases ih h with hmem | hmem
    · obtain rfl | hmem := mem_insertKey hmem
      · exact .inr List.mem_cons_self
      · exact .inl hmem
    · exact .inr (List.mem_cons_of_mem e hmem)

/-- Entries that stand sorted after all members are put there as they are. -/
theorem putAll_of_sortedKeys (h : SortedKeys (members ++ entries)) :
    putAll members entries = members ++ entries := by
  induction entries generalizing members with
  | nil => exact (List.append_nil members).symm
  | cons e rest ih =>
    obtain ⟨-, -, hlt⟩ := List.pairwise_append.1 h
    have hlast := insertKey_eq_append (fun f hf => hlt f hf e List.mem_cons_self) e.2
    have happend : members ++ [e] ++ rest = members ++ e :: rest := List.append_assoc ..
    rw [putAll_cons, hlast, ih (happend ▸ h), happend]

end

theorem sortedKeys_ofEntries (entries : List (String × Json)) : SortedKeys (ofEntries entries) :=
  sortedKeys_putAll entries .nil

theorem mem_ofEntries {entries : List (String × Json)} {m : String × Json} (h : m ∈ ofEntries entries) :
    m ∈ entries :=
  (mem_putAll entries h).resolve_left List.not_mem_nil

theorem lookup_ofEntries (key : String) (entries : List (String × Json)) :
    (ofEntries entries).lookup key = entries.reverse.lookup key :=
  (lookup_putAll entries key).trans Option.or_none

theorem ofEntries_of_sortedKeys {members : List (String × Json)} (h : SortedKeys members) :
    ofEntries members = members :=
  putAll_of_sortedKeys members h

end Json

end Rulebook
