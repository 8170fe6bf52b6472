import Rulebook.Proofs.KeyOrder
import Rulebook.Proofs.Negations
import Rulebook.Proofs.WholeNumbers

/-!
# Literals

A literal accepts the documents that are equal to it. Numbers are equal by value if they are all there is on
both sides. Inside of arrays and objects they have to be of the same sort as well, both whole or both with a
fraction, so not every document that is equal number by number is accepted.
-/

namespace Rulebook

/-! ## Documents as they come -/

/-- A whole number of 64 bits, with or without a sign, or a finite one. -/
def JsonNumber.WellFormed : JsonNumber → Prop
  | int n => -2 ^ 63 ≤ n ∧ n < 2 ^ 64
  | float x => x.isFinite = true

/-- Numbers are well-formed, and the members of an object stand sorted by key, each key once. -/
inductive Json.WellFormed : Json → Prop
  | null : WellFormed .null
  | bool (b : Bool) : WellFormed (.bool b)
  | number {n : JsonNumber} (h : n.WellFormed) : WellFormed (.number n)
  | string (s : String) : WellFormed (.string s)
  | array {items : List Json} (h : ∀ v ∈ items, WellFormed v) : WellFormed (.array items)
  | object {members : List (String × Json)} (hkeys : SortedKeys members)
      (h : ∀ m ∈ members, WellFormed m.2) : WellFormed (.object members)

namespace Json

/-! ## Documents of one shape -/

/-- The same but for numbers, which are related in corresponding places. -/
inductive Like (p : JsonNumber → JsonNumber → Prop) : Json → Json → Prop
  | null : Like p .null .null
  | bool (b : Bool) : Like p (.bool b) (.bool b)
  | number {m n : JsonNumber} (h : p m n) : Like p (.number m) (.number n)
  | string (s : String) : Like p (.string s) (.string s)
  | array {xs ys : List Json} (hlength : xs.length = ys.length)
      (h : ∀ i (hx : i < xs.length) (hy : i < ys.length), Like p xs[i] ys[i]) :
      Like p (.array xs) (.array ys)
  | object {xs ys : List (String × Json)}
      (hkeys : ∀ key, (∃ x, (key, x) ∈ xs) ↔ ∃ y, (key, y) ∈ ys)
      (h : ∀ key x y, (key, x) ∈ xs → (key, y) ∈ ys → Like p x y) : Like p (.object xs) (.object ys)

theorem Like.imp {p q : JsonNumber → JsonNumber → Prop} (himp : ∀ m n, p m n → q m n) {v e : Json}
    (h : v.Like p e) : v.Like q e := by
  induction h with
  | null => exact .null
  | bool b => exact .bool b
  | number h => exact .number (himp _ _ h)
  | string s => exact .string s
  | array hlength _ ih => exact .array hlength ih
  | object hkeys _ ih => exact .object hkeys ih

/-- Both numbers are whole and the same, or both are others of one value. -/
def SameSort (m n : JsonNumber) : Prop := m.same n = true

/-- Both numbers have one value. -/
def SameValue (m n : JsonNumber) : Prop := m.value.eqv n.value = true

theorem sameItems_iff (xs ys : List Json) :
    sameItems xs ys = true ↔ List.Forall₂ (fun x y => same x y = true) xs ys := by
  induction xs generalizing ys with
  | nil => cases ys <;> simp [sameItems]
  | cons x xs ih => cases ys <;> simp [sameItems, ih]

theorem sameMembers_iff (xs ys : List (String × Json)) :
    sameMembers xs ys = true ↔ Entries (fun x y => same x y = true) xs ys := by
  induction xs generalizing ys with
  | nil => cases ys <;> simp [sameMembers]
  | cons x xs ih =>
    obtain ⟨k, x⟩ := x
    cases ys with
    | nil => simp [sameMembers]
    | cons y ys =>
      obtain ⟨l, y⟩ := y
      simp only [sameMembers, Bool.and_eq_true, decide_eq_true_eq, ih, List.forall₂_cons]
      refine and_congr_left fun _ => ⟨?_, ?_⟩
      · rintro ⟨rfl, hxy⟩
        exact ⟨k, hxy⟩
      · rintro ⟨_, hxy⟩
        exact ⟨rfl, hxy⟩

theorem like_array_iff {p : JsonNumber → JsonNumber → Prop} {xs ys : List Json} :
    Like p (.array xs) (.array ys) ↔ List.Forall₂ (Like p) xs ys := by
  simp only [List.forall₂_iff_get, List.get_eq_getElem]
  constructor
  · intro h
    cases h with
    | array hlength h => exact ⟨hlength, h⟩
  · rintro ⟨hlength, h⟩
    exact .array hlength h

theorem like_object_iff {p : JsonNumber → JsonNumber → Prop} {xs ys : List (String × Json)}
    (hx : SortedKeys xs) (hy : SortedKeys ys) :
    Like p (.object xs) (.object ys) ↔ Entries (Like p) xs ys := by
  rw [hx.entries_iff hy]
  constructor
  · intro h
    cases h with
    | object hkeys h => exact ⟨hkeys, h⟩
  · rintro ⟨hkeys, h⟩
    exact .object hkeys h

/-- Documents are equal if they are of one shape with the same numbers in it. -/
theorem same_iff_like {v e : Json} (hv : v.WellFormed) (he : e.WellFormed) :
    v.same e = true ↔ v.Like SameSort e := by
  induction hv generalizing e with
  -- Documents of two sorts are neither equal nor of one shape, here and below.
  | null =>
    cases e with
    | null => exact iff_of_true rfl .null
    | _ => exact iff_of_false (by simp [same]) nofun
  | bool b =>
    cases e with
    | bool c =>
      simp only [same, decide_eq_true_eq]
      refine ⟨fun h => h ▸ .bool b, fun h => ?_⟩
      cases h
      rfl
    | _ => exact iff_of_false (by simp [same]) nofun
  | number hm =>
    cases e with
    | number n =>
      refine ⟨fun h => .number h, fun h => ?_⟩
      cases h with
      | number h => exact h
    | _ => exact iff_of_false (by simp [same]) nofun
  | string s =>
    cases e with
    | string t =>
      simp only [same, decide_eq_true_eq]
      refine ⟨fun h => h ▸ .string s, fun h => ?_⟩
      cases h
      rfl
    | _ => exact iff_of_false (by simp [same]) nofun
  | @array xs hxs ih =>
    cases e with
    | array ys =>
      cases he with
      | array hys =>
        rw [same, sameItems_iff, like_array_iff, List.forall₂_iff_get, List.forall₂_iff_get]
        refine and_congr_right fun _ => forall_congr' fun i => forall₂_congr fun hx hy => ?_
        exact ih _ (List.getElem_mem hx) (hys _ (List.getElem_mem hy))
    | _ => exact iff_of_false (by simp [same]) nofun
  | @object xs hxkeys hxs ih =>
    cases e with
    | object ys =>
      cases he with
      | object hykeys hys =>
        rw [same, sameMembers_iff, like_object_iff hxkeys hykeys, hxkeys.entries_iff hykeys,
          hxkeys.entries_iff hykeys]
        refine and_congr_right fun _ => forall₃_congr fun key x y => forall₂_congr fun hx hy => ?_
        exact ih _ hx (hys _ hy)
    | _ => exact iff_of_false (by simp [same]) nofun

theorem sameValue_of_sameSort (m n : JsonNumber) (h : SameSort m n) : SameValue m n := by
  cases m with
  | int m =>
    cases n with
    | int n =>
      obtain rfl : m = n := of_decide_eq_true h
      exact Binary64.eqv_self (Binary64.isNan_ofRatio _)
    | float y => cases h
  | float x =>
    cases n with
    | int n => cases h
    | float y => exact h

end Json

/-! ## What a literal accepts -/

open Json

theorem Check.agrees_iff {e v : Json} (he : e.WellFormed) (hv : v.WellFormed) :
    Check.agrees e v = true ↔ v.Like SameValue e ∧ ((∃ n, v = .number n) ∨ v.Like SameSort e) := by
  by_cases hnumber : ∃ n, v = .number n
  · obtain ⟨m, rfl⟩ := hnumber
    rw [and_iff_left (.inl ⟨m, rfl⟩)]
    cases e with
    | number n =>
      refine ⟨fun h => .number h, fun h => ?_⟩
      cases h with
      | number h => exact h
    | _ => exact iff_of_false (by simp [agrees, same]) nofun
  · have hagrees : agrees e v = v.same e := by
      cases v with
      | number n => exact absurd ⟨n, rfl⟩ hnumber
      | _ => rfl
    rw [hagrees, same_iff_like hv he, or_iff_right hnumber]
    exact (and_iff_right_of_imp (Like.imp sameValue_of_sameSort)).symm

/-- A check that ends in a context and has nothing against it just if `p` holds. -/
structure Check.Decides (k : Check) (c : Context) (p : Prop) : Prop where
  ends : (k.validate c).ending = .done ()
  report : (k.validate c).report.ok = true ↔ p
  accepts : (k.accepts c).ending = .done true ↔ p

theorem Check.decides_ofValidate {validate : Context → Walk Unit} {c : Context} {p : Prop}
    (hends : (validate c).ending = .done ()) (hclean : isClean (validate c).issues = true ↔ p) :
    (Check.ofValidate validate).Decides c p where
  ends := hends
  report := by
    rw [ofValidate, Walk.report_of_done hends]
    exact hclean
  accepts := by
    rw [ofValidate]
    dsimp only
    rw [Walk.probe_of_done hends, ← hclean]
    simp [Walk.done]

theorem Walk.ending_when_issue (b : Bool) (c : Context) (code message : String) :
    (Walk.when b (.issue c code message)).ending = .done () := by
  cases b <;> rfl

theorem Walk.isClean_when_issue (b : Bool) (c : Context) (code message : String) :
    isClean (Walk.when b (.issue c code message)).issues = !b := by
  cases b <;> rfl

/-- A literal accepts documents of its own shape with numbers of the same values, which in arrays and objects
have to be of the same sort too. -/
theorem literal_judged (r : Registry) {e : Json} (he : e.WellFormed) {c : Context}
    (hv : c.value.WellFormed) :
    ((Rule.literal e).check r).Decides c
      (c.value.Like SameValue e ∧ ((∃ n, c.value = .number n) ∨ c.value.Like SameSort e)) := by
  have hcheck : (Rule.literal e).check r = .ofValidate (Check.literal e) := by
    rw [Rule.check, Rule.checkWith]
  rw [hcheck]
  refine Check.decides_ofValidate (Walk.ending_when_issue ..) ?_
  rw [Check.literal, Walk.isClean_when_issue, Bool.not_not, Check.agrees_iff he hv]

/-- The number one with a fraction. -/
def fractionalOne : JsonNumber := .float (.finite false (2 ^ 52) (-52))

theorem sameValue_one : SameValue fractionalOne (.int 1) := by
  unfold SameValue
  decide +kernel

/-- One and a zero with the given sign, in an array in an object. -/
def oneAndZero (negative : Bool) : Json :=
  .object [("a", .array [.number (.int 1), .number (.float (.finite negative 0 Binary64.minExp))])]

theorem wellFormed_oneAndZero (negative : Bool) : (oneAndZero negative).WellFormed := by
  refine .object (List.pairwise_singleton ..) (List.forall_mem_singleton.2 (.array ?_))
  refine List.forall_mem_cons.2 ⟨.number ⟨by decide, by decide⟩, ?_⟩
  exact List.forall_mem_singleton.2 (.number rfl)

/-- Both zeros have one value and are of one sort, so inside a document too they are equal. -/
theorem literal_judged_zeros :
    (oneAndZero false).WellFormed ∧ (oneAndZero true).WellFormed ∧
      (((Rule.literal (oneAndZero false)).check .standard).accepts
        (.root default (.value (oneAndZero true)))).ending = .done true := by
  have hwell := wellFormed_oneAndZero
  have hsort : (oneAndZero true).Like SameSort (oneAndZero false) :=
    (same_iff_like (hwell true) (hwell false)).1 (by decide +kernel)
  have hjudged := literal_judged .standard (hwell false)
    (c := .root default (.value (oneAndZero true))) (hwell true)
  exact ⟨hwell false, hwell true, hjudged.accepts.2 ⟨hsort.imp sameValue_of_sameSort, .inr hsort⟩⟩

/-- One with a fraction has the value of one without, but in a list they are not equal. -/
theorem not_literal_numeric : ¬ ∀ e v : Json, e.WellFormed → v.WellFormed →
    ((Rule.literal e).check .standard).Decides (.root default (.value v)) (v.Like SameValue e) := by
  intro h
  have hint : (Json.array [.number (.int 1)]).WellFormed :=
    .array (List.forall_mem_singleton.2 (.number ⟨by decide, by decide⟩))
  have hfloat : (Json.array [.number fractionalOne]).WellFormed :=
    .array (List.forall_mem_singleton.2 (.number rfl))
  have hlike : (Json.array [.number fractionalOne]).Like SameValue (.array [.number (.int 1)]) :=
    like_array_iff.2 (.cons (.number sameValue_one) .nil)
  have haccepts := (h _ _ hint hfloat).accepts.2 hlike
  revert haccepts
  decide +kernel

end Rulebook
