import Rulebook.Proofs.Kinds

/-!
# Paths of issues lead somewhere

Along every descent a context on a document keeps the path that leads from the whole document to what it
looks at. An issue has the path of the context it is found in, so its path resolves.
-/

namespace Rulebook

/-! ## Paths in documents -/

namespace Json

/-- A part of a document under a segment: the member under a key, or the item with an index. -/
inductive Part : Json → String → Json → Prop
  | member {members : List (String × Json)} {key : String} {v : Json}
      (h : (object members).member? key = some v) : Part (object members) key v
  | item {items : List Json} {i : Nat} {v : Json} (h : items[i]? = some v) :
      Part (array items) s!"[{i}]" v

/-- Segments that lead from a document, part by part, to another. -/
inductive Leads : Json → List String → Json → Prop
  | here (v : Json) : Leads v [] v
  | part {v u w : Json} {segment : String} {path : List String} (h : v.Part segment u)
      (hrest : Leads u path w) : Leads v (segment :: path) w

theorem Leads.snoc {v u w : Json} {path : List String} {segment : String} (h : v.Leads path u)
    (hpart : u.Part segment w) : v.Leads (path ++ [segment]) w := by
  induction h with
  | here v => exact .part hpart (.here w)
  | part hhead _ ih => exact .part hhead (ih hpart)

/-- A path that leads to a part of a document. -/
def Resolves (v : Json) (path : List String) : Prop := ∃ w, v.Leads path w

theorem resolves_nil (v : Json) : v.Resolves [] := ⟨v, .here v⟩

end Json

/-! ## Contexts in a document -/

/-- A context that looks at the part of a document to which its path leads. -/
def Context.Within (v : Json) (c : Context) : Prop := ∃ w, c.subject = .value w ∧ v.Leads c.path w

namespace Context

theorem within_root (disk : Disk) (v : Json) : (root disk (.value v)).Within v :=
  ⟨v, rfl, .here v⟩

theorem Within.resolves {v : Json} {c : Context} (h : c.Within v) : v.Resolves c.path :=
  let ⟨w, _, hleads⟩ := h
  ⟨w, hleads⟩

theorem Descends.within {c d : Context} (hd : c.Descends d) {v : Json} (h : c.Within v) :
    d.Within v := by
  obtain ⟨w, hsubject, hleads⟩ := h
  cases hd with
  | item hc hi =>
    obtain rfl : w = _ := by simpa [value, hsubject] using hc
    exact ⟨_, rfl, hleads.snoc (.item hi)⟩
  | member hc hv =>
    obtain rfl : w = _ := by simpa [json?, hsubject] using hc
    exact ⟨_, rfl, hleads.snoc (.member hv)⟩
  -- Entries of a disk are only entered from a path.
  | entry _ hc => simp [hsubject, entry?] at hc
  | document _ hc => simp [hsubject, entry?] at hc
  | group => exact ⟨w, hsubject, hleads⟩

end Context

/-- Paths that resolve, wherever a context is in a document, with nothing said about errors. -/
def Expectation.resolving (v : Json) : Expectation where
  issue c i := c.Within v → v.Resolves i.path
  silent _ _ := False
  error _ := True

theorem sound_resolving (v : Json) : (Expectation.resolving v).Sound where
  here _ _ _ _ h := h.resolves
  silent _ _ h := h.elim
  descend _ _ hd _ h hc := h (hd.within hc)
  lambda _ _ := trivial
  url _ := trivial
  semver _ := trivial

theorem fits_resolving (v : Json) : (Expectation.resolving v).Fits .standard .plain where
  sound := sound_resolving v
  covers := covers_plain _
  hosts _ h := h.elim
  foreign d _ := Registry.meets_foreign (fun _ => trivial)
    (fun kind host h => absurd h (Registry.validator?_standard_ne_host kind host)) d

/-- Every issue that is reported of a document has a path that leads to a part of it, whatever rules
lambdas have built on the way. -/
theorem reported_paths_resolve {rule : Rule} (hrule : rule.In .plain) (disk : Disk) (v : Json) :
    ∀ i ∈ (Registry.standard.validate rule disk (.value v)).issues, v.Resolves i.path := by
  intro i hi
  have hwalk := (meets_check (fits_resolving v) hrule).validate (.root disk (.value v))
  unfold Registry.validate Walk.report at hi
  split at hi
  · exact hwalk.issues i hi (Context.within_root disk v)
  · obtain rfl := List.mem_singleton.1 hi
    exact v.resolves_nil
  · obtain rfl := List.mem_singleton.1 hi
    exact v.resolves_nil

/-- The rule of a lambda group finds fault with the member of an item. -/
theorem reported_paths_resolve_item :
    ∃ rule, Registry.standard.load "Package((it) => [ListOf(Field(\x7bkey: 'a', value: Str()\x7d))])" =
        .ok rule ∧ rule.In .plain ∧
      ((Registry.standard.validate rule default (.value (.array [.object [("a", .string "")],
        .object [("a", .null)]]))).issues.map (·.path)) = [["[1]", "a"]] ∧
      (Json.array [.object [("a", .string "")], .object [("a", .null)]]).Resolves ["[1]", "a"] := by
  have hrun : (Registry.standard.load
      "Package((it) => [ListOf(Field(\x7bkey: 'a', value: Str()\x7d))])").toOption.any (fun rule =>
        (Registry.standard.validate rule default (.value (.array [.object [("a", .string "")],
          .object [("a", .null)]]))).issues.map (·.path) = [["[1]", "a"]]) = true := by
    decide +kernel
  obtain ⟨rule, hload, hpaths⟩ := exists_ok_of_any hrun
  have hpaths := of_decide_eq_true hpaths
  have hin : rule.In .plain := ofText_in (covers_plain _) _ rule hload
  obtain ⟨i, hi, hpath⟩ := List.mem_map.1 (hpaths ▸ List.mem_singleton_self ["[1]", "a"])
  exact ⟨rule, hload, hin, hpaths, hpath ▸ reported_paths_resolve hin default _ i hi⟩

end Rulebook
