import Rulebook.Eval.Expr
import Rulebook.Proofs.Vocabulary

/-!
# What is made of values

A factory makes a rule of its arguments, and a member or an item is taken out of a value. What holds of
a value, of its parts and of the rule that it stands for holds of what comes out and of the rules in it;
so what comes out is of a vocabulary that what goes in is of.
-/

namespace Rulebook

/-! ## Results -/

/-- Every result that a computation may have is as `P` says. -/
def Gives {ε α : Type} (P : α → Prop) (x : Except ε α) : Prop := ∀ a, x = .ok a → P a

/-- A result is as `P` says, an error as `Q` says. -/
def Yields {ε α : Type} (Q : ε → Prop) (P : α → Prop) : Except ε α → Prop
  | .ok a => P a
  | .error e => Q e

section
variable {ε ε' α β : Type} {P : α → Prop} {Q : β → Prop}

@[simp] theorem gives_ok {a : α} : Gives P (.ok a : Except ε α) ↔ P a := by simp [Gives]

@[simp] theorem gives_pure {a : α} : Gives P (pure a : Except ε α) ↔ P a := gives_ok

@[simp] theorem gives_error {e : ε} : Gives P (.error e : Except ε α) := by simp [Gives]

theorem gives_bind {x : Except ε α} {f : α → Except ε β} (h : ∀ a, x = .ok a → Gives Q (f a)) :
    Gives Q (x >>= f) := by
  cases x with
  | ok a => exact h a rfl
  | error e => exact gives_error

theorem gives_map {x : Except ε α} {f : α → β} (h : Gives (fun a => Q (f a)) x) :
    Gives Q (x.map f) := by
  cases x with
  | ok a => exact gives_ok.2 (h a rfl)
  | error e => exact gives_error

theorem yields_of_gives {x : Except ε α} (h : Gives P x) : Yields (fun _ : ε => True) P x := by
  cases x with
  | ok a => exact h a rfl
  | error e => trivial

theorem gives_of_yields {Q : ε → Prop} {x : Except ε α} (h : Yields Q P x) : Gives P x := by
  rintro a rfl
  exact h

theorem yields_map {R : ε → Prop} {x : Except ε α} {f : α → β} (h : Yields R P x)
    (hf : ∀ a, P a → Q (f a)) : Yields R Q (x.map f) := by
  cases x with
  | ok a => exact hf a h
  | error e => exact h

theorem yields_mapError {R : ε' → Prop} {x : Except ε α} {f : ε → ε'} (h : Gives P x)
    (hf : ∀ e, R (f e)) : Yields R P (x.mapError f) := by
  cases x with
  | ok a => exact h a rfl
  | error e => exact hf e

theorem exists_ok_of_any {x : Except ε α} {p : α → Bool} (h : x.toOption.any p = true) :
    ∃ a, x = .ok a ∧ p a = true := by
  cases x with
  | ok a => exact ⟨a, rfl, h⟩
  | error e => cases h

theorem gives_mapError {x : Except ε α} {f : ε → ε'} (h : Gives P x) : Gives P (x.mapError f) := by
  cases x with
  | ok a => exact gives_ok.2 (h a rfl)
  | error e => exact gives_error

end

/-! ## What parts share -/

/-- What holds of a value holds of its parts, and `R` of the rule that it stands for. -/
structure Carries (V : Value → Prop) (R : Rule → Prop) : Prop where
  items : ∀ {vs}, V (.array vs) → ∀ v ∈ vs, V v
  entries : ∀ {es}, V (.object es) → ∀ e ∈ es, V e.2
  rule : ∀ {v}, V v → Gives R v.toRule

section
variable (V : Value → Prop) (R : Rule → Prop)

def Group.Made : Group → Prop
  | .rules rs => ∀ r ∈ rs, R r
  | .lazy _ lambda => V (.lambda lambda)

def Descriptor.Made : Descriptor → Prop
  | .field _ _ value => ∀ r ∈ value, R r
  | .file _ _ content => ∀ r ∈ content, R r
  | .directory _ required optional | .jsonFile _ required optional =>
    (∀ r ∈ required, R r) ∧ ∀ r ∈ optional, R r
  | .package _ group => group.Made V R
  | .custom .. => False

/-- The rules in a rule, one level down, that a factory of the language makes. -/
def Rule.Made : Rule → Prop
  | .object required optional => (∀ r ∈ required, R r) ∧ ∀ r ∈ optional, R r
  | .oneOf options => ∀ r ∈ options, R r
  | .listOf item _ _ => R item
  | .not _ inner => R inner
  | .contains d => d.Made V R
  | .host _ => False
  | .str .. | .num .. | .bool | .literal _ | .pattern _ => True

end

theorem entry?_of_forall {P : Value → Prop} {key : String} {entries : List (String × Value)} {v : Value}
    (h : ∀ e ∈ entries, P e.2) (hv : Value.entry? key entries = some v) : P v := by
  obtain ⟨before, after, he, -⟩ := List.lookup_eq_some_iff.1 hv
  have hmem : (key, v) ∈ entries := by
    rw [← List.mem_reverse, he]
    simp
  exact h (key, v) hmem

theorem Options.get?_of_forall {P : Value → Prop} {o : Options} {key : String} {v : Value}
    (h : ∀ e ∈ o, P e.2) (hv : o.get? key = some v) : P v := by
  unfold Options.get? at hv
  split at hv
  · cases hv
  · exact entry?_of_forall h hv

namespace Carries

variable {V : Value → Prop} {R : Rule → Prop} (c : Carries V R)
include c

/-! ## Arguments of factories -/

theorem optionsOf {allowed : List String} {arg : Option Value} (h : ∀ v ∈ arg, V v) :
    Gives (fun o => ∀ e ∈ o, V e.2) (optionsOf allowed arg) := by
  unfold Rulebook.optionsOf
  split
  · simp
  · simp
  · rename_i entries
    split
    · exact gives_error
    · exact gives_ok.2 (c.entries (h (.object entries) rfl))
  · exact gives_error

theorem toRules {vs : List Value} (h : ∀ v ∈ vs, V v) :
    Gives (fun rules => ∀ r ∈ rules, R r) (Value.toRules vs) := by
  induction vs with
  | nil => exact gives_ok.2 (by simp)
  | cons v vs ih =>
    rw [List.forall_mem_cons] at h
    rw [Value.toRules]
    split
    · exact gives_error
    rename_i r hr
    exact gives_map fun rs hrs => List.forall_mem_cons.2 ⟨c.rule h.1 r hr, ih h.2 rs hrs⟩

theorem ruleList (key : String) {v : Value} (h : V v) :
    Gives (fun rules => ∀ r ∈ rules, R r) (v.ruleList key) := by
  unfold Value.ruleList
  split
  · exact gives_ok.2 (by simp)
  · exact c.toRules (c.items h)
  · exact gives_error

theorem toDescriptor {v : Value} (h : V v) : Gives R v.toDescriptor := by
  unfold Value.toDescriptor
  split
  · exact gives_ok.2 (c.rule h _ (by rw [Value.toRule]))
  · exact gives_error
  · exact gives_error

theorem toGroup (name : String) {v : Value} (h : V v) :
    Gives (Group.Made V R) (v.toGroup name) := by
  unfold Value.toGroup
  split
  · exact gives_map fun rules hr => c.toRules (c.items h) rules hr
  · exact gives_ok.2 h
  · exact gives_error

theorem optionRules {o : Options} (key : String) (h : ∀ e ∈ o, V e.2) :
    Gives (fun rules => ∀ r ∈ rules, R r) (o.rules key) := by
  unfold Options.rules
  split
  · exact gives_ok.2 (by simp)
  · rename_i v hv
    exact c.ruleList key (Options.get?_of_forall h hv)

/-! ## Factories -/

theorem buildField {arg : Value} (h : V arg) :
    Gives (Rule.Made V R) (Builtin.buildField arg) := by
  unfold Builtin.buildField
  split
  · exact gives_pure.2 nofun
  refine gives_bind fun o ho => ?_
  have hentries := c.optionsOf (by simpa using h) o ho
  refine gives_bind fun key _ => gives_bind fun isOptional _ => ?_
  split
  · exact gives_pure.2 nofun
  rename_i v hv
  refine gives_bind fun rule hrule => gives_pure.2 ?_
  rintro _ ⟨⟩
  exact c.rule (Options.get?_of_forall hentries hv) rule hrule

theorem buildObject {args : List Value} (h : ∀ v ∈ args, V v) :
    Gives (Rule.Made V R) (Builtin.buildObject args) := by
  unfold Builtin.buildObject
  refine gives_bind fun _ _ => gives_bind fun o ho => ?_
  have hentries := c.optionsOf (fun v hv => h v (List.mem_of_mem_head? hv)) o ho
  refine gives_bind fun required hr => gives_bind fun optional hopt => gives_pure.2 ⟨?_, ?_⟩
  · exact c.optionRules _ hentries required hr
  · exact c.optionRules _ hentries optional hopt

theorem buildFile {arg : Value} (h : V arg) : Gives (Rule.Made V R) (Builtin.buildFile arg) := by
  unfold Builtin.buildFile
  split
  · exact gives_pure.2 nofun
  refine gives_bind fun o ho => ?_
  have hentries := c.optionsOf (by simpa using h) o ho
  refine gives_bind fun path _ => gives_bind fun content hc => gives_bind fun ext _ => ?_
  exact gives_pure.2 (c.optionRules _ hentries content hc)

theorem buildDirectory {args : List Value} (h : ∀ v ∈ args, V v) :
    Gives (Rule.Made V R) (Builtin.buildDirectory args) := by
  unfold Builtin.buildDirectory
  refine gives_bind fun _ _ => ?_
  split
  · exact gives_pure.2 ⟨nofun, nofun⟩
  refine gives_bind fun o ho => ?_
  have hentries := c.optionsOf (fun v hv => h v (List.mem_of_mem_head? hv)) o ho
  refine gives_bind fun path _ => ?_
  split
  · exact gives_pure.2 ⟨nofun, nofun⟩
  · refine gives_bind fun content hc => gives_pure.2 ⟨?_, nofun⟩
    exact c.optionRules _ hentries content hc
  · rename_i entries hget
    refine gives_bind fun o' ho' => ?_
    have hshape := c.optionsOf (by simpa using Options.get?_of_forall hentries hget) o' ho'
    refine gives_bind fun required hr => gives_bind fun optional hopt => gives_pure.2 ⟨?_, ?_⟩
    · exact c.optionRules _ hshape required hr
    · exact c.optionRules _ hshape optional hopt
  · exact gives_error

theorem buildJsonFile {arg : Value} (h : V arg) :
    Gives (Rule.Made V R) (Builtin.buildJsonFile arg) := by
  unfold Builtin.buildJsonFile
  split
  · exact gives_pure.2 ⟨nofun, nofun⟩
  refine gives_bind fun o ho => ?_
  have hentries := c.optionsOf (by simpa using h) o ho
  refine gives_bind fun path _ => gives_bind fun required hr => gives_bind fun optional hopt => ?_
  refine gives_pure.2 ⟨?_, ?_⟩
  · exact c.optionRules _ hentries required hr
  · exact c.optionRules _ hentries optional hopt

theorem groupOption {o : Options} (h : ∀ e ∈ o, V e.2) :
    Gives (Group.Made V R) (Builtin.groupOption o) := by
  unfold Builtin.groupOption
  split
  · rename_i v hv
    exact c.toGroup _ (Options.get?_of_forall h hv)
  · exact gives_ok.2 nofun

theorem buildPackage {arg : Value} (h : V arg) :
    Gives (Rule.Made V R) (Builtin.buildPackage arg) := by
  unfold Builtin.buildPackage
  split
  · exact gives_bind fun group hg => gives_pure.2 (c.toGroup _ h group hg)
  · exact gives_bind fun group hg => gives_pure.2 (c.toGroup _ h group hg)
  refine gives_bind fun o ho => ?_
  have hentries := c.optionsOf (by simpa using h) o ho
  refine gives_bind fun group hg => gives_bind fun name _ => gives_pure.2 ?_
  exact c.groupOption hentries group hg

theorem buildListOf {item : Value} (options : Option Value) (h : V item) :
    Gives (Rule.Made V R) (Builtin.buildListOf item options) := by
  unfold Builtin.buildListOf
  refine gives_bind fun o _ => gives_bind fun rule hr => gives_bind fun min _ => ?_
  exact gives_bind fun max _ => gives_pure.2 (c.rule h rule hr)

omit c in
theorem withOne {P : Rule → Prop} {args : List Value} {build : Value → Argument Rule}
    (h : ∀ v ∈ args, V v) (hbuild : ∀ arg, V arg → Gives P (build arg)) :
    Gives P (Builtin.withOne args build) := by
  unfold Builtin.withOne
  split
  · exact hbuild _ (h _ List.mem_cons_self)
  · exact gives_error

/-- A factory of the language puts the rules of its arguments into a new one, or gives the one that its
argument is. -/
theorem build (b : Builtin) {args : List Value} (h : ∀ v ∈ args, V v) :
    Gives (fun r => r.Made V R ∨ R r) (b.build args) := by
  have made {x : Argument Rule} (hx : Gives (Rule.Made V R) x) : Gives (fun r => r.Made V R ∨ R r) x :=
    fun r hr => .inl (hx r hr)
  cases b with
  | str =>
    unfold Builtin.build Builtin.buildStr
    repeat refine gives_bind fun _ _ => ?_
    exact gives_pure.2 (.inl trivial)
  | num =>
    unfold Builtin.build Builtin.buildNum
    repeat refine gives_bind fun _ _ => ?_
    exact gives_pure.2 (.inl trivial)
  | bool => exact gives_map fun _ _ => .inl trivial
  | literal => exact withOne h fun _ _ => gives_map fun _ _ => .inl trivial
  | pattern => exact withOne h fun _ _ => gives_map fun _ _ => .inl trivial
  | field => exact made (withOne h fun _ => c.buildField)
  | object => exact made (c.buildObject h)
  | file => exact made (withOne h fun _ => c.buildFile)
  | directory => exact made (c.buildDirectory h)
  | jsonFile => exact made (withOne h fun _ => c.buildJsonFile)
  | package => exact made (withOne h fun _ => c.buildPackage)
  | oneOf =>
    simp only [Builtin.build, Builtin.buildOneOf]
    split
    · exact gives_error
    · exact gives_map fun rules hr => .inl (c.toRules h rules hr)
  | listOf =>
    simp only [Builtin.build]
    split
    · exact made (c.buildListOf none (h _ List.mem_cons_self))
    · exact made (c.buildListOf _ (h _ List.mem_cons_self))
    · exact gives_error
  | contains => exact withOne h fun arg ha rule hr => .inr (c.toDescriptor ha rule hr)
  | isNot => exact withOne h fun arg ha => gives_map fun rule hr => .inl (c.rule ha rule hr)
  | doesNotContain =>
    exact withOne h fun arg ha => gives_map fun rule hr => .inl (c.toDescriptor ha rule hr)

/-! ## Members and items -/

theorem member (hnull : V .null) (hbuiltin : ∀ b, V (.factory (.builtin b)))
    (hspace : ∀ n, V (.space n)) {v : Value} {name : String} (h : V v) :
    Gives V (v.member name) := by
  unfold Value.member
  split
  · exact gives_ok.2 (hbuiltin .isNot)
  · exact gives_ok.2 (hspace .doesNot)
  · exact gives_ok.2 (hbuiltin .doesNotContain)
  · rename_i entries
    cases he : Value.entry? name entries with
    | none => exact gives_ok.2 hnull
    | some found => exact gives_ok.2 (entry?_of_forall (c.entries h) he)
  · exact gives_error

theorem index (hnull : V .null) {v i : Value} (h : V v) : Gives V (v.index i) := by
  unfold Value.index
  split
  · rename_i items x
    split
    · rename_i n _
      split
      · cases hn : items[n.toNat]? with
        | none => exact gives_ok.2 hnull
        | some found => exact gives_ok.2 (c.items h found (List.mem_of_getElem? hn))
      · exact gives_error
    · exact gives_error
  · rename_i entries key
    cases he : Value.entry? key entries with
    | none => exact gives_ok.2 hnull
    | some found => exact gives_ok.2 (entry?_of_forall (c.entries h) he)
  · exact gives_error

end Carries

/-! ## Values that stand for rules -/

/-- What holds of a value holds of its parts, and `R` of the rule that it is and of what data stands for. -/
structure Inherits (V : Value → Prop) (R : Rule → Prop) : Prop where
  items : ∀ {vs}, V (.array vs) → ∀ v ∈ vs, V v
  entries : ∀ {es}, V (.object es) → ∀ e ∈ es, V e.2
  rule : ∀ {r}, V (.rule r) → R r
  literal : ∀ expected, R (.literal expected)
  pattern : ∀ regex, R (.pattern regex)
  object : ∀ {required optional}, (∀ r ∈ required, R r) → (∀ r ∈ optional, R r) →
    R (.object required optional)

section
variable {V : Value → Prop} {R : Rule → Prop}

mutual

theorem toRule_inherits (p : Inherits V R) : ∀ v : Value, V v → Gives R v.toRule
  | .rule r, h => by
    rw [Value.toRule]
    exact gives_ok.2 (p.rule h)
  | .object es, h => by
    rw [Value.toRule]
    split
    · exact gives_error
    have hrequired := memberRules_inherits p "required" es (p.entries h)
    have hoptional := memberRules_inherits p "optional" es (p.entries h)
    split
    · exact gives_error
    rename_i required hr
    split
    · exact gives_error
    rename_i optional ho
    exact gives_ok.2 (p.object (hrequired required hr) (hoptional optional ho))
  | .regex r, _ => by
    rw [Value.toRule]
    exact gives_ok.2 (p.pattern r)
  | .factory _, _ | .space _, _ | .lambda _, _ => by simp [Value.toRule]
  | .null, _ | .bool _, _ | .number _, _ | .string _, _ | .array _, _ => by
    simp only [Value.toRule]
    exact gives_map fun expected _ => p.literal expected

theorem toRules_inherits (p : Inherits V R) : ∀ vs : List Value, (∀ v ∈ vs, V v) →
    Gives (fun rules => ∀ r ∈ rules, R r) (Value.toRules vs)
  | [], _ => gives_ok.2 (by simp)
  | v :: vs, h => by
    rw [List.forall_mem_cons] at h
    have hvs := toRules_inherits p vs h.2
    rw [Value.toRules]
    split
    · exact gives_error
    rename_i r hr
    exact gives_map fun rs hrs => List.forall_mem_cons.2 ⟨toRule_inherits p v h.1 r hr, hvs rs hrs⟩

theorem ruleList_inherits (p : Inherits V R) (key : String) : ∀ v : Value, V v →
    Gives (fun rules => ∀ r ∈ rules, R r) (v.ruleList key)
  | .null, _ => gives_ok.2 (by simp)
  | .array vs, h => toRules_inherits p vs (p.items h)
  | .bool _, _ | .number _, _ | .string _, _ | .regex _, _ | .object _, _ | .rule _, _
  | .factory _, _ | .space _, _ | .lambda _, _ => gives_error

theorem memberRules_inherits (p : Inherits V R) (key : String) : ∀ es : List (String × Value),
    (∀ e ∈ es, V e.2) →
      Gives (fun rules => ∀ r ∈ rules, R r) ((Value.memberRules key es).getD (.ok []))
  | [], _ => gives_ok.2 (by simp)
  | (k, v) :: rest, h => by
    rw [List.forall_mem_cons] at h
    have hrest := memberRules_inherits p key rest h.2
    rw [Value.memberRules]
    cases hm : Value.memberRules key rest with
    | some rules => simpa [hm] using hrest
    | none =>
      by_cases hk : k = key
      · simpa [hk] using ruleList_inherits p key v h.1
      · simp [hk]

end

theorem Inherits.carries (p : Inherits V R) : Carries V R where
  items := p.items
  entries := p.entries
  rule {v} h := toRule_inherits p v h

end

/-! ## Vocabularies -/

section
variable {w : Vocabulary}

theorem inherits_in (w : Vocabulary) : Inherits (Value.In w) (Rule.In w) where
  items h := (valuesIn_iff w _).1 h
  entries h := (entriesIn_iff w _).1 h
  rule h := h
  literal _ := trivial
  pattern _ := trivial
  object hr ho := ⟨(rulesIn_iff w _).2 hr, (rulesIn_iff w _).2 ho⟩

theorem Group.Made.isIn {group : Group} (h : group.Made (Value.In w) (Rule.In w)) : group.In w := by
  cases group with
  | rules rs => exact (rulesIn_iff w rs).2 h
  | lazy kind lambda => exact h

theorem Descriptor.Made.isIn {d : Descriptor} (h : d.Made (Value.In w) (Rule.In w)) : d.In w := by
  cases d with
  | field key isOptional value => exact (ruleIn?_iff w value).2 h
  | file path ext content => exact (rulesIn_iff w content).2 h
  | directory path required optional | jsonFile path required optional =>
    exact ⟨(rulesIn_iff w required).2 h.1, (rulesIn_iff w optional).2 h.2⟩
  | package name group => exact Group.Made.isIn h
  | custom kind params => exact h.elim

theorem Rule.Made.isIn {r : Rule} (h : r.Made (Value.In w) (Rule.In w)) : r.In w := by
  cases r with
  | object required optional =>
    exact ⟨(rulesIn_iff w required).2 h.1, (rulesIn_iff w optional).2 h.2⟩
  | oneOf options => exact (rulesIn_iff w options).2 h
  | listOf item min max => exact h
  | not flavor inner => exact h
  | contains d => exact Descriptor.Made.isIn h
  | host rule => exact h.elim
  | str | num | bool | literal | pattern => trivial

theorem Factory.build_in {f : Factory} {args : List Value} (hf : (Value.factory f).In w)
    (h : valuesIn w args) : Gives (Rule.In w) (f.build args) := by
  cases f with
  | builtin b =>
    exact fun r hr => ((inherits_in w).carries.build b ((valuesIn_iff w args).1 h) r hr).elim Rule.Made.isIn id
  | custom kind =>
    have hkind : w.kinds kind := hf
    unfold Factory.build buildCustom
    refine gives_bind fun _ _ => ?_
    split
    · exact gives_pure.2 hkind
    · exact gives_bind fun params _ => gives_pure.2 hkind

end

end Rulebook
