import Rulebook.Proofs.DeepRules
import Rulebook.Proofs.Documents
import Rulebook.Proofs.Groups
import Rulebook.Proofs.Literals

/-!
# Documents as values and back

A lambda group sees a document as a value of the language, and a literal made of that value is a document
again. Numbers pass through binary64 on the way: a large whole number comes back as one with a fraction, and
a small number that could have a fraction but has none comes back whole. All else comes back as it was.
-/

namespace Rulebook

/-! ## Numbers -/

/-- A whole number from `2 ^ 53` on or a number of the other sort that is whole and smaller: one that comes
back as a number of the other sort. -/
def JsonNumber.Shifts : JsonNumber → Prop
  | int n => 2 ^ 53 ≤ n.natAbs
  | float x => ∃ n : Int, x.toInt? = some n ∧ n.natAbs < 2 ^ 53

/-- What a number comes back as: one of the same value, and of the same sort unless it shifts. -/
structure JsonNumber.Returns (n m : JsonNumber) : Prop where
  eq : Value.numberToJson? n.value = some m
  value : Json.SameValue n m
  sort : Json.SameSort n m ↔ ¬ n.Shifts

section
variable {x : Binary64} {n : Int}

theorem numberToJson?_of_lt (hx : x.toInt? = some n) (hn : n.natAbs < 2 ^ 53) :
    Value.numberToJson? x = some (.int n) := by
  rw [Value.numberToJson?, hx]
  exact if_pos hn

theorem numberToJson?_of_le (hx : x.toInt? = some n) (hn : 2 ^ 53 ≤ n.natAbs) :
    Value.numberToJson? x = some (.float x) := by
  rw [Value.numberToJson?, hx]
  exact if_neg (Nat.not_lt.2 hn)

theorem numberToJson?_of_none (hx : x.toInt? = none) (hfinite : x.isFinite = true) :
    Value.numberToJson? x = some (.float x) := by
  rw [Value.numberToJson?, hx]
  exact if_pos hfinite

end

theorem JsonNumber.WellFormed.returns {n : JsonNumber} (h : n.WellFormed) : ∃ m, n.Returns m := by
  cases n with
  | int n =>
    have hself : (Binary64.ofInt n).eqv (.ofInt n) = true := Binary64.eqv_self (Binary64.isNan_ofRatio _)
    rcases Nat.lt_or_ge n.natAbs (2 ^ 53) with hn | hn
    · have hback := numberToJson?_of_lt (Binary64.toInt?_ofInt hn) hn
      exact ⟨.int n, hback, hself, iff_of_true (decide_eq_true rfl) (Nat.not_le.2 hn)⟩
    -- From here on the nearest number may be another integer, so it comes back as a float.
    · obtain ⟨hlo, hhi⟩ := h
      obtain ⟨k, hk, hlarge⟩ := Binary64.toInt?_ofInt_of_le hn (by omega)
      have hback := numberToJson?_of_le hk hlarge
      exact ⟨.float (.ofInt n), hback, hself, iff_of_false nofun fun hnot => hnot hn⟩
  | float x =>
    have hself : x.eqv x = true := by
      refine Binary64.eqv_self ?_
      cases x with
      | finite => rfl
      | _ => cases h
    cases hx : x.toInt? with
    | none =>
      refine ⟨.float x, numberToJson?_of_none hx h, hself, iff_of_true hself ?_⟩
      rintro ⟨k, hk, -⟩
      rw [hx] at hk
      cases hk
    | some n =>
      rcases Nat.lt_or_ge n.natAbs (2 ^ 53) with hn | hn
      · have hvalue := Binary64.eqv_of_toInt? hx (Binary64.toInt?_ofInt hn)
        exact ⟨.int n, numberToJson?_of_lt hx hn, hvalue, iff_of_false nofun fun hnot => hnot ⟨n, hx, hn⟩⟩
      · refine ⟨.float x, numberToJson?_of_le hx hn, hself, iff_of_true hself ?_⟩
        rintro ⟨k, hk, hlt⟩
        rw [hx] at hk
        cases hk
        exact absurd hlt (Nat.not_lt.2 hn)

/-! ## Documents -/

namespace Json

/-- A number stands somewhere in a document. -/
inductive Has (n : JsonNumber) : Json → Prop
  | number : Has n (.number n)
  | item {items : List Json} {v : Json} (hv : v ∈ items) (h : Has n v) : Has n (.array items)
  | member {members : List (String × Json)} {key : String} {v : Json} (hv : (key, v) ∈ members)
      (h : Has n v) : Has n (.object members)

/-- It does so in an array or an object. -/
def Nests (v : Json) (n : JsonNumber) : Prop := v.Has n ∧ v ≠ .number n

theorem Like.sameSort_iff {v w : Json} (h : v.Like JsonNumber.Returns w) :
    v.Like SameSort w ↔ ∀ n, v.Has n → ¬ n.Shifts := by
  induction h with
  | null => exact iff_of_true .null nofun
  | bool b => exact iff_of_true (.bool b) nofun
  | string s => exact iff_of_true (.string s) nofun
  | number h =>
    constructor
    · intro hlike n hn
      cases hlike with
      | number hsort =>
        cases hn
        exact h.sort.1 hsort
    · intro hnot
      exact .number (h.sort.2 (hnot _ .number))
  | array hlength _ ih =>
    constructor
    · intro hlike n hn
      cases hlike with
      | array _ hsort =>
        cases hn with
        | item hv hn =>
          obtain ⟨i, hi, rfl⟩ := List.mem_iff_getElem.1 hv
          exact (ih i hi (hlength ▸ hi)).1 (hsort i hi (hlength ▸ hi)) n hn
    · intro hnot
      refine .array hlength fun i hi hi' => (ih i hi hi').2 fun n hn => ?_
      exact hnot n (.item (List.getElem_mem hi) hn)
  | object hkeys _ ih =>
    constructor
    · intro hlike n hn
      cases hlike with
      | object _ hsort =>
        cases hn with
        | member hx hn =>
          obtain ⟨y, hy⟩ := (hkeys _).1 ⟨_, hx⟩
          exact (ih _ _ y hx hy).1 (hsort _ _ y hx hy) n hn
    · intro hnot
      refine .object hkeys fun key x y hx hy => (ih key x y hx hy).2 fun n hn => ?_
      exact hnot n (.member hx hn)

end Json

/-! ## There and back -/

namespace Value

theorem itemsToJson?_ofItems {P : Json → Json → Prop} {items : List Json}
    (h : ∀ v ∈ items, ∃ w, (ofJson v).toJson? = some w ∧ P v w) :
    ∃ ws, itemsToJson? (ofItems items) = some ws ∧ List.Forall₂ P items ws := by
  induction items with
  | nil => exact ⟨[], rfl, .nil⟩
  | cons v vs ih =>
    obtain ⟨⟨w, hw, hvw⟩, hrest⟩ := List.forall_mem_cons.1 h
    obtain ⟨ws, hws, hvws⟩ := ih hrest
    refine ⟨w :: ws, ?_, .cons hvw hvws⟩
    rw [ofItems, itemsToJson?, hw, hws]
    rfl

theorem entriesToJson?_ofMembers {P : Json → Json → Prop} {members : List (String × Json)}
    (h : ∀ m ∈ members, ∃ w, (ofJson m.2).toJson? = some w ∧ P m.2 w) :
    ∃ ws, entriesToJson? (ofMembers members) = some ws ∧ Entries P members ws := by
  induction members with
  | nil => exact ⟨[], rfl, .nil⟩
  | cons m rest ih =>
    obtain ⟨key, v⟩ := m
    obtain ⟨⟨w, hw, hvw⟩, hrest⟩ := List.forall_mem_cons.1 h
    obtain ⟨ws, hws, hvws⟩ := ih hrest
    refine ⟨(key, w) :: ws, ?_, .cons ⟨key, hvw⟩ hvws⟩
    dsimp only at hw
    rw [ofMembers, entriesToJson?, hw, hws]
    rfl

/-- Every document comes back, with all its numbers. -/
theorem toJson?_ofJson {v : Json} (h : v.WellFormed) :
    ∃ w, (ofJson v).toJson? = some w ∧ v.Like JsonNumber.Returns w := by
  induction h with
  | null => exact ⟨.null, rfl, .null⟩
  | bool b => exact ⟨.bool b, rfl, .bool b⟩
  | string s => exact ⟨.string s, rfl, .string s⟩
  | number h =>
    obtain ⟨m, hm⟩ := h.returns
    refine ⟨.number m, ?_, .number hm⟩
    rw [ofJson, toJson?, hm.eq]
    rfl
  | array _ ih =>
    obtain ⟨ws, hws, hlike⟩ := itemsToJson?_ofItems ih
    refine ⟨.array ws, ?_, Json.like_array_iff.2 hlike⟩
    rw [ofJson, toJson?, hws]
    rfl
  | object hkeys _ ih =>
    obtain ⟨ws, hws, hlike⟩ := entriesToJson?_ofMembers ih
    have hsorted : SortedKeys ws := hkeys.of_entries hlike
    refine ⟨.object ws, ?_, (Json.like_object_iff hkeys hsorted).2 hlike⟩
    rw [ofJson, toJson?, hws, Option.map_some, Json.ofEntries_of_sortedKeys hsorted]

theorem wellFormed_of_numberToJson? {x : Binary64} {m : JsonNumber} (h : numberToJson? x = some m) :
    m.WellFormed := by
  unfold numberToJson? at h
  split at h
  · rename_i n hx
    split at h
    · rename_i hn
      cases h
      have hlimit : wholeLimit = 2 ^ 53 := rfl
      exact ⟨by omega, by omega⟩
    · cases h
      exact Binary64.isFinite_of_toInt? hx
  · split at h
    · rename_i hfinite
      cases h
      exact hfinite
    · cases h

mutual

theorem wellFormed_of_toJson? : ∀ (v : Value) {w : Json}, v.toJson? = some w → w.WellFormed
  | .null, _, h => by
    cases h
    exact .null
  | .bool b, _, h => by
    cases h
    exact .bool b
  | .number x, _, h => by
    rw [toJson?] at h
    obtain ⟨m, hm, rfl⟩ := Option.map_eq_some_iff.1 h
    exact .number (wellFormed_of_numberToJson? hm)
  | .string s, _, h => by
    cases h
    exact .string s
  | .array items, _, h => by
    rw [toJson?] at h
    obtain ⟨ws, hws, rfl⟩ := Option.map_eq_some_iff.1 h
    exact .array (wellFormed_of_itemsToJson? items hws)
  | .object entries, _, h => by
    rw [toJson?] at h
    obtain ⟨ws, hws, rfl⟩ := Option.map_eq_some_iff.1 h
    have hall := wellFormed_of_entriesToJson? entries hws
    exact .object (Json.sortedKeys_ofEntries ws) fun m hm => hall m (Json.mem_ofEntries hm)

theorem wellFormed_of_itemsToJson? : ∀ (vs : List Value) {ws : List Json},
    itemsToJson? vs = some ws → ∀ w ∈ ws, w.WellFormed
  | [], _, h => by
    cases h
    exact nofun
  | v :: vs, _, h => by
    rw [itemsToJson?] at h
    obtain ⟨w, hw, h⟩ := Option.bind_eq_some_iff.1 h
    obtain ⟨ws, hws, h⟩ := Option.bind_eq_some_iff.1 h
    cases h
    exact List.forall_mem_cons.2 ⟨wellFormed_of_toJson? v hw, wellFormed_of_itemsToJson? vs hws⟩

theorem wellFormed_of_entriesToJson? : ∀ (es : List (String × Value)) {ws : List (String × Json)},
    entriesToJson? es = some ws → ∀ m ∈ ws, m.2.WellFormed
  | [], _, h => by
    cases h
    exact nofun
  | (key, v) :: es, _, h => by
    rw [entriesToJson?] at h
    obtain ⟨w, hw, h⟩ := Option.bind_eq_some_iff.1 h
    obtain ⟨ws, hws, h⟩ := Option.bind_eq_some_iff.1 h
    cases h
    exact List.forall_mem_cons.2 ⟨wellFormed_of_toJson? v hw, wellFormed_of_entriesToJson? es hws⟩

end

end Value

/-- A document and the literal that is made of it disagree just if a number inside shifts. -/
theorem agrees_returned {v w : Json} (hv : v.WellFormed) (hw : (Value.ofJson v).toJson? = some w)
    (hlike : v.Like JsonNumber.Returns w) :
    Check.agrees w v = true ↔ ∀ n, v.Nests n → ¬ n.Shifts := by
  rw [Check.agrees_iff (Value.wellFormed_of_toJson? _ hw) hv, hlike.sameSort_iff,
    and_iff_right (hlike.imp fun _ _ h => h.value)]
  constructor
  · rintro (⟨m, rfl⟩ | hnone) n ⟨hn, hne⟩
    · cases hn
      exact absurd rfl hne
    · exact hnone n hn
  · intro hnone
    by_cases hnumber : ∃ n, v = .number n
    · exact .inl hnumber
    · exact .inr fun n hn => hnone n ⟨hn, fun heq => hnumber ⟨n, heq⟩⟩

/-! ## A literal of the target -/

/-- The one rule of a package is the literal of its target. -/
def ownLiteral : String := "Package((it) => [Literal(it.value)])"

def ownLiteralLambda : Lambda :=
  .mk (some "it") (.array ⟨16, 1, 17⟩ [.call ⟨24, 1, 25⟩ (.ident ⟨17, 1, 18⟩ "Literal")
    [.member ⟨27, 1, 28⟩ (.ident ⟨25, 1, 26⟩ "it") "value"]]) []

def ownLiteralPackage : Rule := .contains (.package none (.lazy "Package" ownLiteralLambda))

theorem load_ownLiteral : Registry.standard.load ownLiteral = .ok ownLiteralPackage := by
  with_unfolding_all rfl

section
variable {c : Context} {w : Json} (h : (Value.ofJson c.value).toJson? = some w)
include h

theorem eval_ownLiteral (left n : Nat) :
    evalAt Registry.standard.contains (left + 4) ⟨n, false⟩ (ownLiteralLambda.bindArg (some c.snapshot))
      ownLiteralLambda.body = pure (.array [.rule (.literal w)]) := by
  have hbuild : Factory.build (.builtin .literal) [.ofJson c.value] = .ok (.literal w) := by
    show Except.map Rule.literal (Value.ofJson c.value).toData = _
    rw [Value.toData, h]
    rfl
  have harg : evalAt Registry.standard.contains (left + 2) ⟨n, false⟩ [("it", c.snapshot)]
      (.member ⟨27, 1, 28⟩ (.ident ⟨25, 1, 26⟩ "it") "value") = pure (.ofJson c.value) := by
    rw [evalAt, evalStep, eval_ident rfl, pure_bind]
    rfl
  have hcall : evalAt Registry.standard.contains (left + 3) ⟨n, false⟩ [("it", c.snapshot)]
      (.call ⟨24, 1, 25⟩ (.ident ⟨17, 1, 18⟩ "Literal")
        [.member ⟨27, 1, 28⟩ (.ident ⟨25, 1, 26⟩ "it") "value"]) = pure (.rule (.literal w)) := by
    rw [evalAt, evalStep, eval_ident rfl, pure_bind, List.mapM_cons, Frame.inArguments, harg, pure_bind]
    rw [List.mapM_nil, pure_bind, pure_bind, callValue, hbuild]
    rfl
  show evalAt _ (left + 4) ⟨n, false⟩ [("it", c.snapshot)] (.array ⟨16, 1, 17⟩ _) = _
  rw [evalAt, evalStep, List.mapM_cons, hcall, pure_bind]
  rfl

theorem rules_ownLiteral :
    ownLiteralLambda.rules Registry.standard.contains "Package" c = .ok [.literal w] := by
  have hcall : callLambda (evalAt Registry.standard.contains maxEvals) (.start false) ownLiteralLambda
      (some c.snapshot) = pure (.array [.rule (.literal w)]) := eval_ownLiteral h 252 _
  rw [Lambda.rules, hcall]
  rfl

end

/-- The literal of a document, in a package on this document, has something against it just if a number in
an array or an object shifts. -/
theorem own_literal_judged (disk : Disk) {v : Json} (hv : v.WellFormed) :
    ∃ rule, Registry.standard.load ownLiteral = .ok rule ∧
      (rule.check .standard).Decides (.root disk (.value v)) (∀ n, v.Nests n → ¬ n.Shifts) := by
  obtain ⟨w, hw, hlike⟩ := Value.toJson?_ofJson hv
  refine ⟨ownLiteralPackage, load_ownLiteral, ?_⟩
  let c := (Context.root disk (.value v)).enterGroup
  have hrules : ownLiteralLambda.rules Registry.standard.contains "Package" c = .ok [.literal w] :=
    rules_ownLiteral hw
  have hdepth : ¬ maxGroups ≤ (Context.root disk (.value v)).groupDepth :=
    Nat.not_le.2 (by decide : 0 < maxGroups)
  have hgroup : standardGroups "Package" ownLiteralLambda (.root disk (.value v)) =
      Check.literal w c := by
    rw [unrolls_standardGroups, if_neg hdepth, builtWalk, hrules]
    exact Walk.bind_done _
  have hwalk : Check.package none (standardGroups "Package" ownLiteralLambda) (.root disk (.value v)) =
      Check.literal w c := by
    rw [← hgroup]
    rfl
  rw [Rule.check, ownLiteralPackage, Rule.checkWith_package]
  refine Check.decides_ofValidate ?_ ?_
  · rw [Group.walkWith, hwalk]
    exact Walk.ending_when_issue ..
  · rw [Group.walkWith, hwalk, Check.literal, Walk.isClean_when_issue, Bool.not_not]
    exact agrees_returned hv hw hlike

theorem nests_list_iff {m n : JsonNumber} : (Json.array [.number m]).Nests n ↔ n = m := by
  constructor
  · rintro ⟨hn, -⟩
    cases hn with
    | item hv hn =>
      obtain rfl := List.mem_singleton.1 hv
      cases hn
      rfl
  · rintro rfl
    exact ⟨.item List.mem_cons_self .number, nofun⟩

/-- A list of one half comes back, and a list of one with a fraction does not. -/
theorem own_literal_judged_lists : ∃ rule, Registry.standard.load ownLiteral = .ok rule ∧
    ((rule.check .standard).validate (.root default
      (.value (.array [.number (.float (.finite false 1 (-1)))])))).report.ok = true ∧
    ((rule.check .standard).validate (.root default
      (.value (.array [.number fractionalOne])))).report.ok = false := by
  have hwell : ∀ x : Binary64, x.isFinite = true → (Json.array [.number (.float x)]).WellFormed :=
    fun x hx => .array (List.forall_mem_singleton.2 (.number hx))
  obtain ⟨rule, hload, hhalf⟩ := own_literal_judged default (hwell (.finite false 1 (-1)) rfl)
  obtain ⟨rule', hload', hone⟩ := own_literal_judged default (hwell (.finite false (2 ^ 52) (-52)) rfl)
  obtain rfl : rule = rule' := Except.ok.inj (hload.symm.trans hload')
  refine ⟨rule, hload, hhalf.report.2 fun n hn => ?_, Bool.eq_false_iff.2 fun hok => ?_⟩
  · obtain rfl := nests_list_iff.1 hn
    rintro ⟨k, hk, -⟩
    have hnone : (Binary64.finite false 1 (-1)).toInt? = none := by decide +kernel
    rw [hnone] at hk
    cases hk
  · have hwhole : (Binary64.finite false (2 ^ 52) (-52)).toInt? = some 1 := by decide +kernel
    exact hone.report.1 hok fractionalOne (nests_list_iff.2 rfl) ⟨1, hwhole, by decide⟩

end Rulebook
