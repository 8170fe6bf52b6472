import Rulebook.Proofs.Rules
import Rulebook.Session.Acts

/-!
# Acts follow checks

What a rule does on shared lists is what its check finds, added to the end of one list. Each part is
handed either the list of the whole or, where it is asked in private, a new one.
-/

namespace Rulebook

/-! ## Growth -/

/-- Some of the lists after: what was found is added to the end of the list `n`, those before are as
they were, and there may be new ones. -/
structure Grown (n : Nat) (found : List Issue) (ls after : List (List Issue)) : Prop where
  length : ls.length ≤ after.length
  here : after[n]? = ls[n]?.map (· ++ found)
  others : ∀ m < ls.length, m ≠ n → after[m]? = ls[m]?

section
variable {n : Nat} {found more : List Issue} {ls mid after : List (List Issue)}

theorem grown_refl : Grown n [] ls ls := by
  refine ⟨Nat.le_refl _, ?_, fun _ _ _ => rfl⟩
  simp

theorem Grown.trans (h : Grown n found ls mid) (h' : Grown n more mid after) :
    Grown n (found ++ more) ls after := by
  refine ⟨Nat.le_trans h.length h'.length, ?_, ?_⟩
  · rw [h'.here, h.here, Option.map_map]
    congr 1
    funext issues
    exact List.append_assoc issues found more
  · intro m hm hne
    rw [h'.others m (Nat.lt_of_lt_of_le hm h.length) hne, h.others m hm hne]

theorem Grown.unchanged (h : Grown n [] ls after) : ∀ m < ls.length, after[m]? = ls[m]? := by
  intro m hm
  by_cases hmn : m = n
  · subst hmn
    simpa using h.here
  · exact h.others m hm hmn

theorem grown_modify : Grown n found ls (ls.modify n (· ++ found)) := by
  refine ⟨by simp, by simp, ?_⟩
  intro m _ hne
  exact List.getElem?_modify_ne _ ls hne.symm

theorem Grown.new (h : Grown ls.length found (ls ++ [[]]) after) (hn : n < ls.length) :
    after[ls.length]? = some found ∧ Grown n [] ls after := by
  have hlength : ls.length ≤ after.length := by
    have := h.length
    simp at this
    omega
  have hold : ∀ m < ls.length, after[m]? = ls[m]? := by
    intro m hm
    rw [h.others m (by simp; omega) (by omega), List.getElem?_append_left hm]
  refine ⟨by simpa using h.here, hlength, ?_, fun m hm _ => hold m hm⟩
  rw [hold n hn]
  simp

end

/-! ## Acts -/

namespace Act

variable {α β : Type} {n : Nat}

/-- An act that does on shared lists what a walk finds, in the list `n`. -/
def Records (n : Nat) (w : Walk α) (act : Act α) : Prop :=
  ∀ ls : List (List Issue), n < ls.length →
    (act.run ls).2 = w.ending ∧ Grown n w.issues ls (act.run ls).1

theorem records_done (a : α) : Records n (.done a) (.done a) := fun _ _ => ⟨rfl, grown_refl⟩

theorem records_fail (e : EngineError) : Records n (.fail e : Walk α) (.fail e) :=
  fun _ _ => ⟨rfl, grown_refl⟩

theorem records_record {x : Scene} (w : Walk α) : Records x.list w (record x w) :=
  fun _ _ => ⟨rfl, grown_modify⟩

theorem records_bind {w : Walk α} {act : Act α} {f : α → Walk β} {g : α → Act β}
    (h : Records n w act) (hf : ∀ a, Records n (f a) (g a)) :
    Records n (w.bind f) (act.bind g) := by
  intro ls hn
  obtain ⟨hending, hgrown⟩ := h ls hn
  rw [run_bind]
  generalize act.run ls = out at hending hgrown ⊢
  obtain ⟨mid, ending⟩ := out
  obtain ⟨issues, _⟩ := w
  obtain rfl : ending = _ := hending
  cases ending with
  | done a =>
    obtain ⟨hending', hgrown'⟩ := hf a mid (Nat.lt_of_lt_of_le hn hgrown.length)
    exact ⟨hending', hgrown.trans hgrown'⟩
  | failed e => exact ⟨rfl, hgrown⟩
  | crashed c => exact ⟨rfl, hgrown⟩

theorem records_when {w : Walk Unit} {act : Act Unit} (b : Bool) (h : Records n w act) :
    Records n (.when b w) (.when b act) := by
  unfold Walk.when Act.when
  split
  · exact h
  · exact records_done ()

theorem records_into {w : Walk (Option α)} {act : Act (Option α)} {f : α → Walk Unit}
    {g : α → Act Unit} (h : Records n w act) (hf : ∀ a, Records n (f a) (g a)) :
    Records n (w.into f) (act.into g) := by
  refine records_bind h fun o => ?_
  cases o with
  | none => exact records_done ()
  | some a => exact hf a

theorem records_probe {x : Scene} {w : Walk Unit} {act : Scene → Act Unit}
    (h : ∀ y : Scene, y.context = x.context → Records y.list w (act y)) :
    Records x.list w.probe (probe x act) := by
  intro ls hn
  obtain ⟨hending, hgrown⟩ := h { x with list := ls.length } rfl (ls ++ [[]]) (by simp)
  obtain ⟨hnew, hold⟩ := hgrown.new hn
  rw [run_probe]
  generalize (act { x with list := ls.length }).run (ls ++ [[]]) = out at hending hnew hold ⊢
  obtain ⟨after, ending⟩ := out
  obtain ⟨issues, _⟩ := w
  obtain rfl : ending = _ := hending
  cases ending with
  | done a =>
    refine ⟨?_, hold⟩
    have hnew : after[ls.length]? = some issues := hnew
    simp [hnew, Walk.probe, Walk.done]
  | failed e => exact ⟨rfl, hold⟩
  | crashed c => exact ⟨rfl, hold⟩

end Act

/-! ## Parts -/

namespace Acts

/-- Acts that do what a check finds. -/
structure Follows (q : Acts) (k : Check) : Prop where
  validate : ∀ x : Scene, (q.validate x).Records x.list (k.validate x.context)
  accepts : ∀ x : Scene, (q.accepts x).Records x.list (k.accepts x.context)
  present : ∀ x : Scene, (q.present x).Records x.list (k.present x.context)

/-- What a walk does from a scene on. -/
def Does (walk : Context → Walk Unit) (act : Scene → Act Unit) : Prop :=
  ∀ x : Scene, (act x).Records x.list (walk x.context)

theorem follows_ofValidate {walk : Context → Walk Unit} {act : Scene → Act Unit}
    (h : Does walk act) : (ofValidate act).Follows (.ofValidate walk) := by
  refine ⟨h, fun x => ?_, fun x => ?_⟩
  · exact Act.records_probe fun y hy => hy ▸ h y
  · exact Act.records_probe fun y hy => hy ▸ h y

theorem follows_leaf (walk : Context → Walk Unit) : (leaf walk).Follows (.ofValidate walk) :=
  follows_ofValidate fun _ => Act.records_record _

theorem follows_ofCheck (k : Check) : (ofCheck k).Follows k :=
  ⟨fun _ => Act.records_record _, fun _ => Act.records_record _, fun _ => Act.records_record _⟩

theorem follows_failing (e : EngineError) : (failing e).Follows (.failing e) :=
  ⟨fun _ => Act.records_fail e, fun _ => Act.records_fail e, fun _ => Act.records_fail e⟩

section
variable {ι : Type} {q : ι → Acts} {k : ι → Check}

/-! ### Parts of a list of rules, each with its acts and its check -/

theorem does_each {parts : List ι} (h : ∀ i ∈ parts, (q i).Follows (k i)) :
    Does (Check.each (parts.map k)) (each (parts.map q)) := by
  intro x
  induction parts with
  | nil => exact Act.records_done ()
  | cons i parts ih =>
    refine Act.records_bind ((h i List.mem_cons_self).validate x) fun _ => ?_
    exact ih fun j hj => h j (List.mem_cons_of_mem i hj)

theorem does_eachPresent {parts : List ι} (h : ∀ i ∈ parts, (q i).Follows (k i)) :
    Does (Check.eachPresent (parts.map k)) (eachPresent (parts.map q)) := by
  intro x
  induction parts with
  | nil => exact Act.records_done ()
  | cons i parts ih =>
    have hi := h i List.mem_cons_self
    refine Act.records_bind (hi.present x) fun there => ?_
    refine Act.records_bind (Act.records_when there (hi.validate x)) fun _ => ?_
    exact ih fun j hj => h j (List.mem_cons_of_mem i hj)

theorem does_oneOf (names : List String) {parts : List ι} (h : ∀ i ∈ parts, (q i).Follows (k i)) :
    Does (Check.oneOf names (parts.map k)) (oneOf names (parts.map q)) := by
  intro x
  induction parts with
  | nil => exact Act.records_record _
  | cons i parts ih =>
    have hi := h i List.mem_cons_self
    refine Act.records_bind (hi.accepts x) fun yes => ?_
    cases yes with
    | true => exact hi.validate x
    | false => exact ih fun j hj => h j (List.mem_cons_of_mem i hj)

variable {required optional : List ι}

theorem does_members (hr : ∀ i ∈ required, (q i).Follows (k i))
    (ho : ∀ i ∈ optional, (q i).Follows (k i)) :
    Does (Check.members (required.map k) (optional.map k))
      (members (required.map q) (optional.map q)) :=
  fun x => Act.records_bind (does_each hr x) fun _ => does_eachPresent ho x

theorem does_object (hr : ∀ i ∈ required, (q i).Follows (k i))
    (ho : ∀ i ∈ optional, (q i).Follows (k i)) :
    Does (Check.object (required.map k) (optional.map k))
      (object (required.map q) (optional.map q)) :=
  fun x => Act.records_into (Act.records_record _) fun _ => does_members hr ho x

theorem follows_file (path : String) (ext : Option String) {content : List ι}
    (h : ∀ i ∈ content, (q i).Follows (k i)) :
    (file path ext (content.map q)).Follows (.file path ext (content.map k)) := by
  refine ⟨fun x => ?_, fun _ => Act.records_done _, fun _ => Act.records_done _⟩
  exact Act.records_into (Act.records_record _) fun c => does_each h (x.to c)

theorem follows_jsonFile (path : String) (hr : ∀ i ∈ required, (q i).Follows (k i))
    (ho : ∀ i ∈ optional, (q i).Follows (k i)) :
    (jsonFile path (required.map q) (optional.map q)).Follows
      (.jsonFile path (required.map k) (optional.map k)) := by
  refine ⟨fun x => ?_, fun _ => Act.records_done _, fun _ => Act.records_done _⟩
  exact Act.records_into (Act.records_record _) fun c => does_object hr ho (x.to c)

theorem follows_directory (path : Option String) (hr : ∀ i ∈ required, (q i).Follows (k i))
    (ho : ∀ i ∈ optional, (q i).Follows (k i)) :
    (directory path (required.map q) (optional.map q)).Follows
      (.directory path (required.map k) (optional.map k)) := by
  refine ⟨fun x => ?_, fun _ => Act.records_done _, fun _ => Act.records_done _⟩
  exact Act.records_into (Act.records_record _) fun c => does_members hr ho (x.to c)

/-! ### A single part -/

variable {item : Acts} {check : Check}

theorem records_itemsFrom (h : item.Follows check) (x : Scene) (i : Nat) (items : List Json) :
    (itemsFrom item x i items).Records x.list (Check.itemsFrom check x.context i items) := by
  induction items generalizing i with
  | nil => exact Act.records_done ()
  | cons v vs ih =>
    have hitem := h.validate (x.to (x.context.child s!"[{i}]" (.value v)))
    exact Act.records_bind hitem fun _ => ih (i + 1)

theorem does_listOf (h : item.Follows check) (min max : Option Nat) :
    Does (Check.listOf check min max) (listOf item min max) :=
  fun x => Act.records_into (Act.records_record _) fun items => records_itemsFrom h x 0 items

theorem does_negated (code message : String) (h : item.Follows check) :
    Does (Check.negated code message check) (negated code message item) := by
  intro x
  have hprobe := Act.records_probe (x := x) fun y hy => hy ▸ h.validate y
  exact Act.records_bind hprobe fun clean => Act.records_when clean (Act.records_record _)

theorem follows_field (key : String) (isOptional : Bool) {value : Option ι}
    (h : ∀ i ∈ value, (q i).Follows (k i)) :
    (field key isOptional (value.map q)).Follows (.field key isOptional (value.map k)) := by
  refine ⟨fun x => ?_, fun _ => Act.records_done _, fun _ => Act.records_done _⟩
  refine Act.records_into (Act.records_record _) fun v => ?_
  cases value with
  | none => exact Act.records_done ()
  | some i => exact (h i rfl).validate (x.to (x.context.child key (.value v)))

theorem does_package (name : Option Regex) {walk : Context → Walk Unit} {act : Scene → Act Unit}
    (h : Does walk act) : Does (Check.package name walk) (package name act) :=
  fun x => Act.records_into (Act.records_record _) fun _ => h x

end

end Acts

/-! ## Rules -/

section
variable {r : Registry} {groups : GroupWalk} {groupActs : GroupAct}

theorem actsOf_eq_map (rules : List Rule) :
    actsOf r groupActs rules = rules.map (·.actsWith r groupActs) := by
  induction rules with
  | nil => rfl
  | cons rule rules ih => rw [actsOf, ih, List.map_cons]

theorem actsOf?_eq_map (rule : Option Rule) :
    actsOf? r groupActs rule = rule.map (·.actsWith r groupActs) := by
  cases rule <;> rfl

/-- What is not left to a standard validator is done alike in both. -/
theorem follows_dispatch {d : Descriptor}
    (h : r.route d = .standard → (d.actsWith r groupActs).Follows (d.checkWith r groups)) :
    (d.actsWith r groupActs).Follows (d.checkWith r groups) := by
  cases hroute : r.route d with
  | standard => exact h hroute
  | host v =>
    unfold Descriptor.actsWith Descriptor.checkWith
    rw [hroute]
    exact Acts.follows_ofCheck _
  | refused e =>
    unfold Descriptor.actsWith Descriptor.checkWith
    rw [hroute]
    exact Acts.follows_failing e

theorem follows_checkWith (hgroups : ∀ kind l, Acts.Does (groups kind l) (groupActs kind l))
    (rule : Rule) : (rule.actsWith r groupActs).Follows (rule.checkWith r groups) := by
  induction rule using Rule.induct with
  | str | num | bool | literal | pattern => exact Acts.follows_leaf _
  | object required optional hr ho =>
    simp only [Rule.actsWith, Rule.checkWith, actsOf_eq_map, checksWith_eq_map]
    exact Acts.follows_ofValidate (Acts.does_object hr ho)
  | oneOf options h =>
    simp only [Rule.actsWith, Rule.checkWith, actsOf_eq_map, checksWith_eq_map]
    exact Acts.follows_ofValidate (Acts.does_oneOf _ h)
  | listOf item min max h => exact Acts.follows_ofValidate (Acts.does_listOf h min max)
  | not flavor inner h =>
    cases flavor with
    | is => exact Acts.follows_ofValidate (Acts.does_negated _ _ h)
    | doesNotContain => exact Acts.follows_ofValidate (Acts.does_negated _ _ h)
  | host rule => exact Acts.follows_ofCheck _
  | field key isOptional value h =>
    refine follows_dispatch fun hroute => ?_
    simp only [Descriptor.actsWith, Descriptor.checkWith, hroute, actsOf?_eq_map,
      checkWith?_eq_map]
    exact Acts.follows_field key isOptional h
  | file path ext content h =>
    refine follows_dispatch fun hroute => ?_
    simp only [Descriptor.actsWith, Descriptor.checkWith, hroute, actsOf_eq_map, checksWith_eq_map]
    exact Acts.follows_file path ext h
  | directory path required optional hr ho =>
    refine follows_dispatch fun hroute => ?_
    simp only [Descriptor.actsWith, Descriptor.checkWith, hroute, actsOf_eq_map, checksWith_eq_map]
    exact Acts.follows_directory path hr ho
  | jsonFile path required optional hr ho =>
    refine follows_dispatch fun hroute => ?_
    simp only [Descriptor.actsWith, Descriptor.checkWith, hroute, actsOf_eq_map, checksWith_eq_map]
    exact Acts.follows_jsonFile path hr ho
  | rules name rules h =>
    refine follows_dispatch fun hroute => ?_
    simp only [Descriptor.actsWith, Descriptor.checkWith, Group.actWith, Group.walkWith, hroute,
      actsOf_eq_map, checksWith_eq_map]
    exact Acts.follows_ofValidate (Acts.does_package name (Acts.does_each h))
  | lazy name kind lambda =>
    refine follows_dispatch fun hroute => ?_
    simp only [Descriptor.actsWith, Descriptor.checkWith, Group.actWith, Group.walkWith, hroute]
    exact Acts.follows_ofValidate (Acts.does_package name (hgroups kind lambda))
  | custom kind params =>
    refine follows_dispatch fun hroute => ?_
    simp only [Descriptor.actsWith, Descriptor.checkWith, hroute]
    exact Acts.follows_leaf _

theorem does_groupAct (left : Nat) (kind : String) (l : Lambda) :
    Acts.Does (groupWalk r left kind l) (groupAct r left kind l) := by
  intro x
  induction left generalizing kind l x with
  | zero => exact Act.records_fail _
  | succ left ih =>
    unfold groupWalk groupAct
    split
    · exact Act.records_fail _
    · cases l.rules r.contains kind x.context.enterGroup with
      | error e => exact Act.records_fail _
      | ok rules =>
        dsimp only
        rw [actsOf_eq_map, checksWith_eq_map]
        exact Acts.does_each (fun rule _ => follows_checkWith ih rule) (x.to x.context.enterGroup)

/-- On shared lists a rule does what its check finds. -/
theorem follows_check (rule : Rule) : (rule.acts r).Follows (rule.check r) :=
  follows_checkWith (does_groupAct maxGroups) rule

end

end Rulebook
