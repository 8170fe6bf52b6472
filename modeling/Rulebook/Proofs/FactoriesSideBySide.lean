import Rulebook.Proofs.Alike

/-!
# Arguments side by side

A factory asks its arguments for options, data, regexes and rules, one after the other, up to the first that it
does not get. If two calls get related options and related data of their arguments, then they make related
rules. This is so for any relation of results that is kept where a result is used.
-/

namespace Rulebook

/-! ## Values as they are read -/

namespace Value

@[elab_as_elim]
theorem induct {P : Value → Prop} (array : ∀ vs, (∀ v ∈ vs, P v) → P (.array vs))
    (object : ∀ es, (∀ e ∈ es, P e.2) → P (.object es))
    (leaf : ∀ v, (∀ vs, v ≠ .array vs) → (∀ es, v ≠ .object es) → P v) (v : Value) : P v := by
  have part : ∀ w : Value, sizeOf w < sizeOf v → P w := fun w _ => induct array object leaf w
  cases v with
  | array vs =>
    have hsize := Value.array.sizeOf_spec vs
    refine array vs fun w hw => part w ?_
    have hmem := List.sizeOf_lt_of_mem hw
    omega
  | object es =>
    have hsize := Value.object.sizeOf_spec es
    refine object es fun e he => part e.2 ?_
    obtain ⟨key, w⟩ := e
    have hmem := List.sizeOf_lt_of_mem he
    have hpair := Prod.mk.sizeOf_spec key w
    dsimp only
    omega
  | _ => exact leaf _ nofun nofun
termination_by sizeOf v

theorem mem_of_entry {key : String} {es : List (String × Value)} {v : Value} (h : entry? key es = some v) :
    (key, v) ∈ es := by
  obtain ⟨before, after, heq, -⟩ := List.lookup_eq_some_iff.1 h
  have hmem : (key, v) ∈ es.reverse := heq ▸ List.mem_append_right before List.mem_cons_self
  exact List.mem_reverse.1 hmem

theorem itemsToJson?_congr {vs vs' : List Value} (h : List.Forall₂ (fun v v' => v.toJson? = v'.toJson?) vs vs') :
    itemsToJson? vs = itemsToJson? vs' := by
  induction h with
  | nil => rfl
  | cons hv _ ih => rw [itemsToJson?, itemsToJson?, hv, ih]

theorem entriesToJson?_congr {es es' : List (String × Value)}
    (h : Entries (fun v v' => v.toJson? = v'.toJson?) es es') : entriesToJson? es = entriesToJson? es' := by
  induction h with
  | nil => rfl
  | cons he _ ih =>
    obtain ⟨key, hv⟩ := he
    rw [entriesToJson?, entriesToJson?, hv, ih]

end Value

/-- Options with related values under the same keys. -/
def Options.Alike (V : Value → Value → Prop) (o o' : Options) : Prop :=
  ∀ key, Option.Rel V (Value.entry? key o) (Value.entry? key o')

/-- Values of one form, where of an object only counts what it holds under a key. -/
inductive Value.Seen (V : Value → Value → Prop) (R : Rule → Rule → Prop)
    (L : Lambda → Lambda → Prop) : Value → Value → Prop
  | null : Seen V R L .null .null
  | bool (b : Bool) : Seen V R L (.bool b) (.bool b)
  | number (x : Binary64) : Seen V R L (.number x) (.number x)
  | string (s : String) : Seen V R L (.string s) (.string s)
  | regex (r : Regex) : Seen V R L (.regex r) (.regex r)
  | array {vs vs' : List Value} (h : List.Forall₂ V vs vs') : Seen V R L (.array vs) (.array vs')
  | object {es es' : Options} (h : ∀ key, Option.Rel V (Value.entry? key es) (Value.entry? key es')) :
      Seen V R L (.object es) (.object es')
  | rule {r r' : Rule} (h : R r r') : Seen V R L (.rule r) (.rule r')
  | factory (f : Factory) : Seen V R L (.factory f) (.factory f)
  | space (n : Namespace) : Seen V R L (.space n) (.space n)
  | lambda {l l' : Lambda} (h : L l l') : Seen V R L (.lambda l) (.lambda l')

section
variable {V : Value → Value → Prop} {R : Rule → Rule → Prop} {L : Lambda → Lambda → Prop} {v v' : Value}

theorem Value.Seen.typeName_eq (h : v.Seen V R L v') : v.typeName = v'.typeName := by
  cases h <;> rfl

theorem Value.Alike.seen (h : v.Alike V R L v') : v.Seen V R L v' := by
  cases h with
  | null => exact .null
  | bool b => exact .bool b
  | number x => exact .number x
  | string s => exact .string s
  | regex r => exact .regex r
  | array h => exact .array h
  | object h => exact .object (entry?_alike h)
  | rule h => exact .rule h
  | factory f => exact .factory f
  | space n => exact .space n
  | lambda h => exact .lambda h

end

/-! ## What rules are made of -/

theorem memberRules_eq (key : String) (es : Options) :
    (Value.memberRules key es).getD (.ok []) = es.rules key := by
  have hentry : Value.memberRules key es = (Value.entry? key es).map (Value.ruleList key) := by
    induction es with
    | nil => rw [Value.memberRules, Value.entry?, List.reverse_nil, List.lookup_nil, Option.map_none]
    | cons e rest ih =>
      obtain ⟨k, v⟩ := e
      rw [Value.memberRules, ih, Value.entry?, Value.entry?, lookup_reverse_cons, Option.map_or]
      by_cases hkey : k = key
      · rw [if_pos hkey, if_pos hkey.symm, Option.map_some]
      · rw [if_neg hkey, if_neg (Ne.symm hkey), Option.map_none]
  rw [hentry, Options.rules, Options.get?]
  cases Value.entry? key es with
  | none => rfl
  | some v =>
    cases v with
    | null => rw [Option.map_some, Option.getD_some, Value.ruleList]
    | _ => rfl

theorem toRule_object (es : Options) : Value.toRule (.object es) =
    optionsOf ["required", "optional"] (some (.object es)) >>= fun _ =>
      es.rules "required" >>= fun required =>
        es.rules "optional" >>= fun optional => .ok (.object required optional) := by
  rw [Value.toRule, memberRules_eq, memberRules_eq]
  cases optionsOf ["required", "optional"] (some (.object es)) with
  | error f => rfl
  | ok o =>
    cases es.rules "required" with
    | error f => rfl
    | ok required => cases es.rules "optional" <;> rfl

theorem toRules_cons (v : Value) (vs : List Value) :
    Value.toRules (v :: vs) = v.toRule >>= fun r => (Value.toRules vs).map (r :: ·) := by
  rw [Value.toRules]
  cases v.toRule <;> rfl

/-! ## Alignments -/

/-- A relation of results that is kept where results are used, and relations of values, rules and lambdas so
that related values give related options and related data. -/
structure Argument.Alignment (M : ∀ {α β : Type}, (α → β → Prop) → Argument α → Argument β → Prop)
    (V : Value → Value → Prop) (R : Rule → Rule → Prop) (L : Lambda → Lambda → Prop) : Prop where
  ok : ∀ {α β : Type} {P : α → β → Prop} {a : α} {b : β}, P a b → M P (.ok a) (.ok b)
  error : ∀ {α β : Type} {P : α → β → Prop} (f : FactoryFault), M P (.error f) (.error f)
  bind : ∀ {α β α' β' : Type} {P : α → β → Prop} {P' : α' → β' → Prop} {x : Argument α} {y : Argument β}
    {f : α → Argument α'} {g : β → Argument β'},
    M P x y → (∀ a b, P a b → M P' (f a) (g b)) → M P' (x >>= f) (y >>= g)
  value : ∀ {v v' : Value}, V v v' → v.Seen V R L v'
  rule : ∀ {r r' : Rule}, R r r' ↔ r.Alike R L r'
  optionsOf : ∀ (allowed : List String) {v v' : Option Value}, Option.Rel V v v' →
    M (Options.Alike V) (optionsOf allowed v) (optionsOf allowed v')
  toData : ∀ {v v' : Value}, V v v' → M Eq v.toData v'.toData

namespace Argument.Alignment

variable {M : ∀ {α β : Type}, (α → β → Prop) → Argument α → Argument β → Prop}
  {V : Value → Value → Prop} {R : Rule → Rule → Prop} {L : Lambda → Lambda → Prop}
  (s : Alignment M V R L)
include s

theorem map {α β α' β' : Type} {P : α → β → Prop} {P' : α' → β' → Prop} {x : Argument α} {y : Argument β}
    {f : α → α'} {g : β → β'} (h : M P x y) (hf : ∀ a b, P a b → P' (f a) (g b)) :
    M P' (x.map f) (y.map g) := by
  have hbind := s.bind h fun a b hab => s.ok (hf a b hab)
  cases x <;> cases y <;> exact hbind

theorem same {α β γ : Type} {P : α → β → Prop} {z : Argument γ} {f : γ → Argument α} {g : γ → Argument β}
    (hf : ∀ c, M P (f c) (g c)) : M P (z >>= f) (z >>= g) := by
  cases z with
  | ok c => exact hf c
  | error e => exact s.error e

@[elab_as_elim]
theorem optionCases {P : Option Value → Option Value → Prop} {v v' : Option Value}
    (h : Option.Rel V v v') (none : P none none)
    (some : ∀ v v', V v v' → v.Seen V R L v' → P (some v) (some v')) : P v v' := by
  cases h with
  | none => exact none
  | some h => exact some _ _ h (s.value h)

/-! ## Options -/

section
variable {o o' : Options} (ho : o.Alike V o') (key : String)
include ho

theorem get? : Option.Rel V (o.get? key) (o'.get? key) := by
  unfold Options.get?
  refine s.optionCases (ho key) .none fun v v' h hseen => ?_
  cases hseen with
  | null => exact .none
  | _ => exact .some h

theorem number : o.number key = o'.number key := by
  unfold Options.number
  refine s.optionCases (s.get? ho key) rfl fun v v' _ hseen => ?_
  cases hseen <;> rfl

theorem count : o.count key = o'.count key := by
  unfold Options.count
  rw [s.number ho key]

theorem flag : o.flag key = o'.flag key := by
  unfold Options.flag
  refine s.optionCases (s.get? ho key) rfl fun v v' _ hseen => ?_
  cases hseen <;> rfl

theorem string : o.string key = o'.string key := by
  unfold Options.string
  refine s.optionCases (s.get? ho key) rfl fun v v' _ hseen => ?_
  cases hseen <;> rfl

theorem requiredString : o.requiredString key = o'.requiredString key := by
  unfold Options.requiredString
  rw [s.string ho key]

theorem optionalField : Builtin.optionalField o = Builtin.optionalField o' := by
  unfold Builtin.optionalField
  rw [s.flag ho, s.flag ho]

theorem regex : o.regex key = o'.regex key := by
  unfold Options.regex
  refine s.optionCases (s.get? ho key) rfl fun v v' _ hseen => ?_
  cases hseen <;> rfl

end

/-! ## Data, regexes and rules -/

theorem literal {v v' : Value} (h : V v v') : M R (v.toData.map .literal) (v'.toData.map .literal) := by
  refine s.map (s.toData h) fun j j' hj => ?_
  rw [hj]
  exact s.rule.2 (.literal j')

theorem pattern {v v' : Value} (h : V v v') : M R (v.toRegex.map .pattern) (v'.toRegex.map .pattern) := by
  have heq : v.toRegex = v'.toRegex := by
    have hseen := s.value h
    cases hseen <;> rfl
  rw [heq]
  cases v'.toRegex with
  | error e => exact s.error e
  | ok regex => exact s.ok (s.rule.2 (.pattern regex))

theorem toRules_of {vs vs' : List Value} (h : List.Forall₂ V vs vs')
    (hrule : ∀ v ∈ vs, ∀ v', V v v' → M R v.toRule v'.toRule) :
    M (List.Forall₂ R) (Value.toRules vs) (Value.toRules vs') := by
  induction h with
  | nil => exact s.ok .nil
  | cons hv _ ih =>
    obtain ⟨hfirst, hrest⟩ := List.forall_mem_cons.1 hrule
    rw [toRules_cons, toRules_cons]
    exact s.bind (hfirst _ hv) fun r r' hr => s.map (ih hrest) fun rs rs' hrs => .cons hr hrs

theorem rules_of {o o' : Options} (ho : o.Alike V o') (key : String)
    (hlist : ∀ v, Value.entry? key o = some v → ∀ v', V v v' →
      M (List.Forall₂ R) (v.ruleList key) (v'.ruleList key)) :
    M (List.Forall₂ R) (o.rules key) (o'.rules key) := by
  unfold Options.rules Options.get?
  revert hlist
  refine s.optionCases (ho key) (fun _ => s.ok .nil) fun v v' h hseen hlist => ?_
  have hkeeps := hlist v rfl v' h
  cases hseen with
  | null => exact s.ok .nil
  | _ => exact hkeeps

/-- By induction on the value: as a rule it holds the rules of its options, and these are those of its items. -/
theorem toRule_and_ruleList (v : Value) :
    (∀ v', V v v' → M R v.toRule v'.toRule) ∧
      ∀ key v', V v v' → M (List.Forall₂ R) (v.ruleList key) (v'.ruleList key) := by
  induction v using Value.induct with
  | array vs ih =>
    refine ⟨fun v' h => ?_, fun key v' h => ?_⟩
    · have hliteral := s.literal h
      cases s.value h with
      | array => simpa only [Value.toRule] using hliteral
    · cases s.value h with
      | array hvs => exact s.toRules_of hvs fun v hv => (ih v hv).1
  | object es ih =>
    refine ⟨fun v' h => ?_, fun key v' h => ?_⟩
    · have hlist : ∀ key v, Value.entry? key es = some v → ∀ v', V v v' →
          M (List.Forall₂ R) (v.ruleList key) (v'.ruleList key) := fun key v hv =>
        (ih (key, v) (Value.mem_of_entry hv)).2 key
      have hoptions := s.optionsOf ["required", "optional"] (.some h)
      cases s.value h with
      | object ho =>
        rw [toRule_object, toRule_object]
        refine s.bind hoptions fun _ _ _ => ?_
        refine s.bind (s.rules_of ho "required" (hlist _)) fun required required' hr => ?_
        exact s.bind (s.rules_of ho "optional" (hlist _)) fun optional optional' hopt =>
          s.ok (s.rule.2 (.object hr hopt))
    · cases s.value h with
      | object => exact s.error _
  | leaf v harray hobject =>
    refine ⟨fun v' h => ?_, fun key v' h => ?_⟩
    · have hliteral := s.literal h
      cases s.value h with
      | array => exact absurd rfl (harray _)
      | object => exact absurd rfl (hobject _)
      | rule hr => exact s.ok hr
      | regex r => exact s.ok (s.rule.2 (.pattern r))
      | factory | space | lambda => exact s.error _
      | null | bool | number | string => simpa only [Value.toRule] using hliteral
    · cases s.value h with
      | array => exact absurd rfl (harray _)
      | object => exact absurd rfl (hobject _)
      | null => exact s.ok .nil
      | _ => exact s.error _

theorem toRule {v v' : Value} (h : V v v') : M R v.toRule v'.toRule :=
  (s.toRule_and_ruleList v).1 v' h

theorem toRules {vs vs' : List Value} (h : List.Forall₂ V vs vs') :
    M (List.Forall₂ R) (Value.toRules vs) (Value.toRules vs') :=
  s.toRules_of h fun _ _ _ => s.toRule

theorem rules {o o' : Options} (ho : o.Alike V o') (key : String) :
    M (List.Forall₂ R) (o.rules key) (o'.rules key) :=
  s.rules_of ho key fun v _ => (s.toRule_and_ruleList v).2 key

theorem toDescriptor {v v' : Value} (h : V v v') : M R v.toDescriptor v'.toDescriptor := by
  cases s.value h with
  | rule hr =>
    cases s.rule.1 hr with
    | contains => exact s.ok hr
    | _ => exact s.error _
  | _ => exact s.error _

theorem toGroup (name : String) {v v' : Value} (h : V v v') :
    M (Group.Alike R L) (v.toGroup name) (v'.toGroup name) := by
  cases s.value h with
  | array hvs => exact s.map (s.toRules hvs) fun _ _ hrs => .rules hrs
  | lambda hl => exact s.ok (.lazy name hl)
  | _ => exact s.error _

/-! ## Factories -/

theorem contains {d d' : Descriptor} (h : d.Alike R L d') : M R (.ok (.contains d)) (.ok (.contains d')) :=
  s.ok (s.rule.2 (.contains h))

omit s in
theorem head? {args args' : List Value} (h : List.Forall₂ V args args') :
    Option.Rel V args.head? args'.head? := by
  cases h with
  | nil => exact .none
  | cons h _ => exact .some h

omit s in
theorem arity_eq {args args' : List Value} (h : List.Forall₂ V args args') (min max : Nat) :
    arity min max args = arity min max args' := by
  unfold arity
  rw [h.length_eq]

theorem buildStr {args args' : List Value} (h : List.Forall₂ V args args') :
    M R (Builtin.buildStr args) (Builtin.buildStr args') := by
  unfold Builtin.buildStr
  rw [arity_eq h]
  refine s.same fun _ => s.bind (s.optionsOf _ (head? h)) fun o o' ho => ?_
  rw [s.count ho, s.count ho, s.regex ho]
  refine s.same fun min => s.same fun max => s.same fun pattern => ?_
  exact s.ok (s.rule.2 (.str min max pattern))

theorem buildNum {args args' : List Value} (h : List.Forall₂ V args args') :
    M R (Builtin.buildNum args) (Builtin.buildNum args') := by
  unfold Builtin.buildNum
  rw [arity_eq h]
  refine s.same fun _ => s.bind (s.optionsOf _ (head? h)) fun o o' ho => ?_
  rw [s.number ho, s.number ho, s.flag ho]
  refine s.same fun min => s.same fun max => s.same fun integer => ?_
  exact s.ok (s.rule.2 (.num min max (integer.getD false)))

theorem buildField {v v' : Value} (h : V v v') :
    M R (Builtin.buildField v) (Builtin.buildField v') := by
  have hseen := s.value h
  unfold Builtin.buildField
  cases hseen with
  | string key => exact s.contains (.field key false .none)
  | _ =>
    refine s.bind (s.optionsOf _ (.some h)) fun o o' ho => ?_
    rw [s.requiredString ho, s.optionalField ho]
    refine s.same fun key => s.same fun isOptional => ?_
    refine s.optionCases (s.get? ho "value") (s.contains (.field key isOptional .none)) fun w w' hw _ => ?_
    exact s.bind (s.toRule hw) fun r r' hr => s.contains (.field key isOptional (.some hr))

theorem buildObject {args args' : List Value} (h : List.Forall₂ V args args') :
    M R (Builtin.buildObject args) (Builtin.buildObject args') := by
  unfold Builtin.buildObject
  rw [arity_eq h]
  refine s.same fun _ => s.bind (s.optionsOf _ (head? h)) fun o o' ho => ?_
  refine s.bind (s.rules ho "required") fun required required' hr => ?_
  exact s.bind (s.rules ho "optional") fun optional optional' hopt => s.ok (s.rule.2 (.object hr hopt))

theorem buildFile {v v' : Value} (h : V v v') :
    M R (Builtin.buildFile v) (Builtin.buildFile v') := by
  have hseen := s.value h
  unfold Builtin.buildFile
  cases hseen with
  | string path => exact s.contains (.file path none .nil)
  | _ =>
    refine s.bind (s.optionsOf _ (.some h)) fun o o' ho => ?_
    rw [s.requiredString ho, s.string ho]
    refine s.same fun path => s.bind (s.rules ho "content") fun content content' hc => ?_
    exact s.same fun ext => s.contains (.file path (ext.map trimDots) hc)

theorem buildDirectory {args args' : List Value} (h : List.Forall₂ V args args') :
    M R (Builtin.buildDirectory args) (Builtin.buildDirectory args') := by
  have hhead := head? h
  unfold Builtin.buildDirectory
  rw [arity_eq h]
  refine s.same fun _ => ?_
  generalize args.head? = arg at hhead ⊢
  generalize args'.head? = arg' at hhead ⊢
  -- A path alone is a path alone on both sides.
  have hpath : ∀ path, arg = some (.string path) ↔ arg' = some (.string path) := by
    intro path
    refine s.optionCases hhead Iff.rfl fun v v' _ hseen => ?_
    cases hseen <;> simp
  split
  · rename_i path
    rw [(hpath path).1 rfl]
    exact s.contains (.directory (some path) .nil .nil)
  rename_i hne
  split
  · rename_i path
    exact absurd ((hpath path).2 rfl) (hne path)
  refine s.bind (s.optionsOf _ hhead) fun o o' ho => ?_
  rw [s.string ho]
  refine s.same fun path => ?_
  refine s.optionCases (s.get? ho "content") (s.contains (.directory path .nil .nil)) fun w w' hw hseen => ?_
  cases hseen with
  | array => exact s.bind (s.rules ho "content") fun _ _ hc => s.contains (.directory path hc .nil)
  | object =>
    refine s.bind (s.optionsOf _ (.some hw)) fun c c' hc => ?_
    refine s.bind (s.rules hc "required") fun required required' hr => ?_
    exact s.bind (s.rules hc "optional") fun optional optional' hopt => s.contains (.directory path hr hopt)
  | _ => exact s.error _

theorem buildJsonFile {v v' : Value} (h : V v v') :
    M R (Builtin.buildJsonFile v) (Builtin.buildJsonFile v') := by
  have hseen := s.value h
  unfold Builtin.buildJsonFile
  cases hseen with
  | string path => exact s.contains (.jsonFile path .nil .nil)
  | _ =>
    refine s.bind (s.optionsOf _ (.some h)) fun o o' ho => ?_
    rw [s.requiredString ho]
    refine s.same fun path => s.bind (s.rules ho "required") fun required required' hr => ?_
    exact s.bind (s.rules ho "optional") fun optional optional' hopt => s.contains (.jsonFile path hr hopt)

theorem groupOption {o o' : Options} (ho : o.Alike V o') :
    M (Group.Alike R L) (Builtin.groupOption o) (Builtin.groupOption o') := by
  unfold Builtin.groupOption
  exact s.optionCases (s.get? ho "spec") (s.ok (.rules .nil)) fun _ _ h _ => s.toGroup _ h

theorem buildPackage {v v' : Value} (h : V v v') :
    M R (Builtin.buildPackage v) (Builtin.buildPackage v') := by
  have hseen := s.value h
  unfold Builtin.buildPackage
  cases hseen with
  | array | lambda => exact s.bind (s.toGroup _ h) fun group group' hg => s.contains (.package none hg)
  | _ =>
    refine s.bind (s.optionsOf _ (.some h)) fun o o' ho => ?_
    rw [s.regex ho]
    refine s.bind (s.groupOption ho) fun group group' hg => ?_
    exact s.same fun name => s.contains (.package name hg)

theorem buildOneOf {args args' : List Value} (h : List.Forall₂ V args args') :
    M R (Builtin.buildOneOf args) (Builtin.buildOneOf args') := by
  have hrules := s.toRules h
  unfold Builtin.buildOneOf
  cases h with
  | nil => exact s.error _
  | cons => exact s.map hrules fun _ _ hrs => s.rule.2 (.oneOf hrs)

theorem buildListOf {v v' : Value} {options options' : Option Value} (h : V v v')
    (ho : Option.Rel V options options') :
    M R (Builtin.buildListOf v options) (Builtin.buildListOf v' options') := by
  unfold Builtin.buildListOf
  refine s.bind (s.optionsOf _ ho) fun o o' ho => s.bind (s.toRule h) fun item item' hitem => ?_
  rw [s.count ho, s.count ho]
  exact s.same fun min => s.same fun max => s.ok (s.rule.2 (.listOf min max hitem))

theorem withOne {args args' : List Value} {make : Value → Argument Rule}
    (h : List.Forall₂ V args args') (hmake : ∀ v v', V v v' → M R (make v) (make v')) :
    M R (Builtin.withOne args make) (Builtin.withOne args' make) := by
  cases h with
  | nil => exact s.error _
  | cons hv hvs =>
    cases hvs with
    | nil => exact hmake _ _ hv
    | cons _ hvs =>
      unfold Builtin.withOne
      dsimp only
      rw [List.length_cons, List.length_cons, hvs.length_eq]
      exact s.error _

/-- Of related arguments a factory makes related rules. -/
theorem build (f : Factory) {args args' : List Value} (h : List.Forall₂ V args args') :
    M R (f.build args) (f.build args') := by
  cases f with
  | custom kind =>
    unfold Factory.build buildCustom
    rw [arity_eq h]
    refine s.same fun _ => ?_
    refine s.optionCases (head? h) (s.contains (.custom kind .null)) fun v v' hv _ => ?_
    refine s.bind (s.toData hv) fun params params' hparams => ?_
    rw [hparams]
    exact s.contains (.custom kind params')
  | builtin b =>
    cases b with
    | str => exact s.buildStr h
    | num => exact s.buildNum h
    | bool =>
      show M R ((arity 0 0 args).map _) ((arity 0 0 args').map _)
      rw [arity_eq h]
      exact s.same fun _ => s.ok (s.rule.2 .bool)
    | literal => exact s.withOne h fun _ _ hv => s.literal hv
    | pattern => exact s.withOne h fun _ _ hv => s.pattern hv
    | field => exact s.withOne h fun _ _ hv => s.buildField hv
    | object => exact s.buildObject h
    | file => exact s.withOne h fun _ _ hv => s.buildFile hv
    | directory => exact s.buildDirectory h
    | jsonFile => exact s.withOne h fun _ _ hv => s.buildJsonFile hv
    | package => exact s.withOne h fun _ _ hv => s.buildPackage hv
    | oneOf => exact s.buildOneOf h
    | listOf =>
      cases h with
      | nil => exact s.error _
      | cons hitem hvs =>
        cases hvs with
        | nil => exact s.buildListOf hitem .none
        | cons hoptions hvs =>
          cases hvs with
          | nil => exact s.buildListOf hitem (.some hoptions)
          | cons _ hvs =>
            simp only [Factory.build, Builtin.build, List.length_cons, hvs.length_eq]
            exact s.error _
    | contains => exact s.withOne h fun _ _ hv => s.toDescriptor hv
    | isNot => exact s.withOne h fun _ _ hv => s.map (s.toRule hv) fun _ _ hr => s.rule.2 (.not .is hr)
    | doesNotContain =>
      exact s.withOne h fun _ _ hv =>
        s.map (s.toDescriptor hv) fun _ _ hr => s.rule.2 (.not .doesNotContain hr)

end Argument.Alignment
end Rulebook
