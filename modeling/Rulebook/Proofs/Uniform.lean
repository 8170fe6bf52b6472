import Rulebook.Proofs.FactoriesSideBySide

/-!
# What factories cannot see

A factory looks at the form of its arguments only, so of arguments of one form it makes rules of one form, or it
fails with one error; what it does not look at is what the lambdas are.
-/

namespace Rulebook

/-- Relations of values, rules and lambdas that hold of those of one form. -/
structure Uniform (V : Value → Value → Prop) (R : Rule → Rule → Prop) (L : Lambda → Lambda → Prop) :
    Prop where
  value : ∀ {v v'}, V v v' ↔ v.Alike V R L v'
  rule : ∀ {r r'}, R r r' ↔ r.Alike R L r'

namespace Uniform

variable {V : Value → Value → Prop} {R : Rule → Rule → Prop} {L : Lambda → Lambda → Prop}
  (u : Uniform V R L)
include u

theorem null : V .null .null := u.value.2 .null

@[elab_as_elim]
theorem optionCases {P : Option Value → Option Value → Prop} {v v' : Option Value}
    (h : Option.Rel V v v') (none : P none none)
    (some : ∀ v v', V v v' → v.Alike V R L v' → P (some v) (some v')) : P v v' := by
  cases h with
  | none => exact none
  | some h => exact some _ _ h (u.value.1 h)

theorem getD {v v' : Option Value} (h : Option.Rel V v v') : V (v.getD .null) (v'.getD .null) :=
  u.optionCases h u.null fun _ _ h _ => h

/-! ## Options -/

omit u in
theorem find?_alike {es es' : List (String × Value)} (h : Entries V es es') (p : String → Bool) :
    (es.find? fun (k, _) => p k).map Prod.fst = (es'.find? fun (k, _) => p k).map Prod.fst := by
  induction h with
  | nil => rfl
  | cons he _ ih =>
    obtain ⟨k, -⟩ := he
    rw [List.find?_cons, List.find?_cons]
    dsimp only
    split
    · rfl
    · exact ih

theorem optionsOf (allowed : List String) {v v' : Option Value} (h : Option.Rel V v v') :
    Match (Entries V) (optionsOf allowed v) (optionsOf allowed v') := by
  refine u.optionCases h .nil fun v v' _ hform => ?_
  cases hform with
  | null => exact .nil
  | @object es es' hes =>
    have hkeys := find?_alike hes fun k => !allowed.contains k
    unfold Rulebook.optionsOf
    dsimp only
    generalize (es.find? fun (k, _) => !allowed.contains k) = found at hkeys ⊢
    generalize (es'.find? fun (k, _) => !allowed.contains k) = found' at hkeys ⊢
    cases found <;> cases found'
    case none.none => exact hes
    case some.some => exact congrArg (FactoryFault.unknownOption · allowed) (Option.some.inj hkeys)
    all_goals cases hkeys
  | _ => rfl

/-! ## Data -/

theorem toJson? {v v' : Value} (h : V v v') : v.toJson? = v'.toJson? := by
  induction v using Value.induct generalizing v' with
  | array vs ih =>
    cases u.value.1 h with
    | array hvs =>
      have hitems := (List.forall₂_and_left _ _).2 ⟨fun v hv => @ih v hv, hvs⟩
      rw [Value.toJson?, Value.toJson?, Value.itemsToJson?_congr (hitems.imp fun v v' hv => hv.1 hv.2)]
  | object es ih =>
    cases u.value.1 h with
    | object hes =>
      have hentries := (List.forall₂_and_left _ _).2 ⟨fun e he => @ih e he, hes⟩
      refine congrArg (Option.map _) (Value.entriesToJson?_congr (hentries.imp fun e e' he => ?_))
      obtain ⟨he, ⟨key, hv⟩⟩ := he
      exact ⟨key, he hv⟩
  | leaf v harray hobject =>
    cases u.value.1 h with
    | array => exact absurd rfl (harray _)
    | object => exact absurd rfl (hobject _)
    | _ => simp only [Value.toJson?]

theorem toData {v v' : Value} (h : V v v') : v.toData = v'.toData := by
  unfold Value.toData
  rw [u.toJson? h, (u.value.1 h).typeName_eq]

/-! ## Factories -/

theorem alignment : Argument.Alignment (@Match FactoryFault) V R L where
  ok h := h
  error _ := rfl
  bind := Match.bind
  value h := (u.value.1 h).seen
  rule := u.rule
  optionsOf allowed _ _ h := (u.optionsOf allowed h).elim (fun _ => rfl) fun _ _ => entry?_alike
  toData h := match_eq.2 (u.toData h)

theorem build (f : Factory) {args args' : List Value} (h : List.Forall₂ V args args') :
    Match R (f.build args) (f.build args') :=
  u.alignment.build f h

/-! ## Members and items -/

theorem member {v v' : Value} (h : V v v') (name : String) : Match V (v.member name) (v'.member name) := by
  have hform := u.value.1 h
  cases hform with
  | object hes => exact u.getD (entry?_alike hes name)
  | space n =>
    unfold Value.member
    split
    case h_1 | h_3 => exact u.value.2 (.factory _)
    case h_2 => exact u.value.2 (.space _)
    case h_4 hobject => cases hobject
    case h_5 => rfl
  | _ => rfl

theorem index {v v' i i' : Value} (h : V v v') (hi : V i i') : Match V (v.index i) (v'.index i') := by
  have hitem := u.value.1 hi
  have hform := u.value.1 h
  cases hform with
  | array hvs =>
    cases hitem with
    | number x =>
      unfold Value.index
      dsimp only
      split
      · split
        · exact u.getD (getElem?_alike hvs _)
        · rfl
      · rfl
    | _ => rfl
  | object hes =>
    cases hitem with
    | string key => exact u.getD (entry?_alike hes key)
    | _ => rfl
  | _ => exact congrArg (EvalFault.badIndex _) hitem.typeName_eq

/-! ## Documents -/

omit u

mutual

theorem ofJson (u : Uniform V R L) : ∀ v : Json, V (Value.ofJson v) (Value.ofJson v)
  | .null => u.value.2 .null
  | .bool b => u.value.2 (.bool b)
  | .number n => u.value.2 (.number n.value)
  | .string s => u.value.2 (.string s)
  | .array items => u.value.2 (.array (ofItems u items))
  | .object members => u.value.2 (.object (ofMembers u members))

theorem ofItems (u : Uniform V R L) : ∀ items : List Json,
    List.Forall₂ V (Value.ofItems items) (Value.ofItems items)
  | [] => .nil
  | v :: vs => .cons (ofJson u v) (ofItems u vs)

theorem ofMembers (u : Uniform V R L) : ∀ members : List (String × Json),
    Entries V (Value.ofMembers members) (Value.ofMembers members)
  | [] => .nil
  | (key, v) :: rest => .cons ⟨key, ofJson u v⟩ (ofMembers u rest)

end

end Uniform

/-- Equality relates values of one form, and of each form all that have equal parts. -/
theorem uniform_eq : Uniform Eq Eq Eq where
  value := value_eq
  rule := rule_eq

end Rulebook
