import Mathlib.Algebra.Group.Nat.Defs
import Mathlib.Data.List.Forall2
import Rulebook.Regex.CharSet
import Rulebook.Unicode.Category

/-!
# What a set of ranges holds

Ranges that are in order are searched by halving, which finds a number exactly if it is in one of them. Spans
of any order are sorted and joined into ranges that hold the same. The ranges of a category are in order as its
table is written in gaps. The first of the decimal digits are those of ASCII, and the next are Arabic.
-/

namespace Rulebook

namespace Ranges

def Covers (n : Nat) (span : Nat × Nat) : Prop := span.1 ≤ n ∧ n ≤ span.2

/-- Spans in order and apart, none of them empty. -/
structure Ordered (spans : List (Nat × Nat)) : Prop where
  apart : spans.Pairwise fun s t => s.2 < t.1
  nonempty : ∀ s ∈ spans, s.1 ≤ s.2

section
variable {spans : Array (Nat × Nat)} (h : Ordered spans.toList)
include h

theorem Ordered.lt {i j : Nat} {s t : Nat × Nat} (hs : spans[i]? = some s) (ht : spans[j]? = some t)
    (hij : i < j) : s.2 < t.1 := by
  obtain ⟨hi, rfl⟩ := Array.getElem?_eq_some_iff.1 hs
  obtain ⟨hj, rfl⟩ := Array.getElem?_eq_some_iff.1 ht
  exact List.pairwise_iff_getElem.1 h.apart i j (by simpa) (by simpa) hij

theorem Ordered.le {i : Nat} {s : Nat × Nat} (hs : spans[i]? = some s) : s.1 ≤ s.2 :=
  h.nonempty s (Array.mem_toList_iff.2 (Array.mem_of_getElem? hs))

theorem Ordered.before {n i j : Nat} {s t : Nat × Nat} (hs : spans[i]? = some s)
    (ht : spans[j]? = some t) (hcovers : Covers n s) (hn : n < t.1) : i < j := by
  have hle := h.le ht
  rcases Nat.lt_trichotomy i j with hlt | rfl | hlt
  · exact hlt
  · cases hs.symm.trans ht
    exact absurd hcovers.1 (by omega)
  · have hapart := h.lt ht hs hlt
    exact absurd hcovers.1 (by omega)

theorem Ordered.after {n i j : Nat} {s t : Nat × Nat} (hs : spans[i]? = some s)
    (ht : spans[j]? = some t) (hcovers : Covers n s) (hn : t.2 < n) : j < i := by
  have hle := h.le ht
  rcases Nat.lt_trichotomy i j with hlt | rfl | hlt
  · have hapart := h.lt hs ht hlt
    exact absurd hcovers.2 (by omega)
  · cases hs.symm.trans ht
    exact absurd hcovers.2 (by omega)
  · exact hlt

/-- What is halved often enough is searched to the end. -/
theorem Ordered.search_iff {n fuel lo hi : Nat} (hfuel : hi - lo < 2 ^ fuel) (hhi : hi ≤ spans.size) :
    search spans n fuel lo hi = true ↔
      ∃ i s, lo ≤ i ∧ i < hi ∧ spans[i]? = some s ∧ Covers n s := by
  induction fuel generalizing lo hi with
  | zero =>
    have hempty : hi ≤ lo := by
      simp at hfuel
      omega
    simp only [search, Bool.false_eq_true, false_iff]
    rintro ⟨i, s, hlo, hi, -⟩
    omega
  | succ fuel ih =>
    unfold search
    by_cases hlt : lo < hi
    · rw [if_pos hlt]
      obtain ⟨t, ht⟩ : ∃ t, spans[(lo + hi) / 2]? = some t := ⟨_, Array.getElem?_eq_getElem (by omega)⟩
      -- A span that covers the number is on the side of the middle one on which the number is.
      dsimp only
      rw [ht]
      dsimp only
      split
      · rename_i hn
        rw [ih (by omega) (by omega)]
        constructor
        · rintro ⟨i, s, hlo, hi, hs, hcovers⟩
          exact ⟨i, s, hlo, by omega, hs, hcovers⟩
        · rintro ⟨i, s, hlo, hi, hs, hcovers⟩
          exact ⟨i, s, hlo, h.before hs ht hcovers hn, hs, hcovers⟩
      · split
        · rename_i hn
          rw [ih (by omega) hhi]
          constructor
          · rintro ⟨i, s, hlo, hi, hs, hcovers⟩
            exact ⟨i, s, by omega, hi, hs, hcovers⟩
          · rintro ⟨i, s, hlo, hi, hs, hcovers⟩
            exact ⟨i, s, h.after hs ht hcovers hn, hi, hs, hcovers⟩
        · simp only [true_iff]
          exact ⟨_, t, by omega, by omega, ht, by omega, by omega⟩
    · rw [if_neg hlt]
      simp only [Bool.false_eq_true, false_iff]
      rintro ⟨i, s, hlo, hi, -⟩
      omega

end

theorem holds_iff {r : Ranges} (h : Ordered r.spans.toList) (n : Nat) :
    r.holds n = true ↔ ∃ s ∈ r.spans.toList, Covers n s := by
  have hfuel : r.spans.size - 0 < 2 ^ (r.spans.size.log2 + 2) := by
    have hlog : r.spans.size < 2 ^ (r.spans.size.log2 + 1) := Nat.lt_log2_self
    rw [Nat.pow_succ] at hlog ⊢
    omega
  unfold holds
  rw [h.search_iff hfuel (Nat.le_refl _)]
  constructor
  · rintro ⟨i, s, -, -, hs, hcovers⟩
    exact ⟨s, Array.mem_toList_iff.2 (Array.mem_of_getElem? hs), hcovers⟩
  · rintro ⟨s, hs, hcovers⟩
    obtain ⟨i, hi, rfl⟩ := Array.mem_iff_getElem.1 (Array.mem_toList_iff.1 hs)
    exact ⟨i, _, Nat.zero_le _, hi, Array.getElem?_eq_getElem hi, hcovers⟩

end Ranges

/-! ## Spans in any order -/

namespace CharSet

/-- The spans after the first are sorted, and none of them is empty. -/
theorem joinFrom_spec {a b : Nat} {rest : List (Nat × Nat)} (hab : a ≤ b)
    (hsorted : ((a, b) :: rest).Pairwise fun s t => s.1 ≤ t.1) (hrest : ∀ s ∈ rest, s.1 ≤ s.2) :
    Ranges.Ordered (joinFrom a b rest) ∧ (∀ s ∈ joinFrom a b rest, a ≤ s.1) ∧
      ∀ n, (∃ s ∈ joinFrom a b rest, Ranges.Covers n s) ↔ ∃ s ∈ (a, b) :: rest, Ranges.Covers n s := by
  induction rest generalizing a b with
  | nil => exact ⟨⟨List.pairwise_singleton .., by simpa [joinFrom]⟩, by simp [joinFrom], fun n => Iff.rfl⟩
  | cons s rest ih =>
    obtain ⟨c, d⟩ := s
    obtain ⟨hfirst, hsorted⟩ := List.pairwise_cons.1 hsorted
    obtain ⟨hcd, hrest⟩ := List.forall_mem_cons.1 hrest
    have hac : a ≤ c := hfirst (c, d) List.mem_cons_self
    rw [joinFrom]
    split
    · rename_i hmeets
      have hsorted' : ((a, max b d) :: rest).Pairwise fun s t => s.1 ≤ t.1 :=
        List.pairwise_cons.2 ⟨fun t ht => hfirst t (List.mem_cons_of_mem _ ht), hsorted.of_cons⟩
      obtain ⟨hordered, hle, hcovers⟩ := ih (Nat.le_trans hab (Nat.le_max_left b d)) hsorted' hrest
      refine ⟨hordered, hle, fun n => (hcovers n).trans ?_⟩
      -- Two spans that meet cover what the joined one does.
      have hjoined : Ranges.Covers n (a, max b d) ↔ Ranges.Covers n (a, b) ∨ Ranges.Covers n (c, d) := by
        simp only [Ranges.Covers] at hcd ⊢
        omega
      simp only [List.exists_mem_cons_iff, hjoined, or_assoc]
    · rename_i hapart
      obtain ⟨hordered, hle, hcovers⟩ := ih hcd hsorted hrest
      refine ⟨⟨List.pairwise_cons.2 ⟨fun t ht => ?_, hordered.apart⟩,
        List.forall_mem_cons.2 ⟨hab, hordered.nonempty⟩⟩,
        List.forall_mem_cons.2 ⟨Nat.le_refl a, fun t ht => Nat.le_trans hac (hle t ht)⟩, fun n => ?_⟩
      · have := hle t ht
        dsimp only
        omega
      · rw [List.exists_mem_cons_iff, hcovers n, ← List.exists_mem_cons_iff]

theorem pairwise_sorted (spans : List (Nat × Nat)) :
    (spans.mergeSort fun x y => x.1 < y.1 || (x.1 = y.1 && x.2 ≤ y.2)).Pairwise
      fun s t => s.1 ≤ t.1 := by
  refine (List.pairwise_mergeSort (fun a b c h h' => ?_) (fun a b => ?_) spans).imp fun h => ?_
  · simp only [Bool.or_eq_true, Bool.and_eq_true, decide_eq_true_eq] at *
    omega
  · simp only [Bool.or_eq_true, Bool.and_eq_true, decide_eq_true_eq]
    omega
  · simp only [Bool.or_eq_true, Bool.and_eq_true, decide_eq_true_eq] at h
    omega

theorem has_ofSpans {spans : List (Nat × Nat)} (hspans : ∀ s ∈ spans, s.1 ≤ s.2) (c : Char) :
    (ofSpans spans).toRanges.has c = true ↔ ∃ s ∈ spans, Ranges.Covers c.toNat s := by
  have hmem : ∀ s, s ∈ spans.mergeSort (fun x y => x.1 < y.1 || (x.1 = y.1 && x.2 ≤ y.2)) ↔ s ∈ spans :=
    fun s => List.mem_mergeSort
  have hsorted := pairwise_sorted spans
  have hset : (ofSpans spans).toRanges.spans.toList =
      join (spans.mergeSort fun x y => x.1 < y.1 || (x.1 = y.1 && x.2 ≤ y.2)) := rfl
  simp only [← hmem] at hspans ⊢
  generalize (spans.mergeSort fun x y => x.1 < y.1 || (x.1 = y.1 && x.2 ≤ y.2)) = sorted at *
  cases sorted with
  | nil =>
    refine (Ranges.holds_iff ?_ _).trans (by rw [hset]; rfl)
    rw [hset]
    exact ⟨.nil, nofun⟩
  | cons s rest =>
    obtain ⟨hs, hrest⟩ := List.forall_mem_cons.1 hspans
    obtain ⟨hordered, -, hcovers⟩ := joinFrom_spec hs hsorted hrest
    refine (Ranges.holds_iff (hset ▸ hordered) _).trans ?_
    rw [hset]
    exact hcovers c.toNat

end CharSet

/-! ## Categories -/

namespace Category

theorem ordered_runsFrom (start : Nat) (numbers : List Nat) :
    (runsFrom start numbers).Pairwise (fun r s => r.2.1 < s.1) ∧
      ∀ r ∈ runsFrom start numbers, start ≤ r.1 ∧ r.1 ≤ r.2.1 := by
  fun_induction runsFrom start numbers with
  | case1 start more index rest ih =>
    rw [List.pairwise_cons, List.forall_mem_cons]
    refine ⟨⟨fun s hs => ?_, ih.1⟩, ⟨Nat.le_refl _, Nat.le_add_right _ _⟩, fun r hr => ?_⟩
    · have := (ih.2 s hs).1
      dsimp only
      omega
    · have := ih.2 r hr
      omega
  | case2 => simp

theorem ordered_charsOf (cs : List Category) : Ranges.Ordered (charsOf cs).spans.toList := by
  obtain ⟨hapart, hnonempty⟩ := ordered_runsFrom 0 (categoryLines.flatMap fun l => (Ranges.numbers l).toList)
  have hspan : ∀ r : Nat × Nat × Nat, ∀ s,
      (if (all[r.2.2]?.any fun c => cs.contains c) then some (r.1, r.2.1) else none) = some s →
        s = (r.1, r.2.1) := by
    intro r s hs
    split at hs <;> cases hs
    rfl
  refine ⟨List.pairwise_filterMap.2 (hapart.imp ?_), fun s hs => ?_⟩
  · intro r r' hr s hs s' hs'
    rw [hspan r s hs, hspan r' s' hs']
    exact hr
  · obtain ⟨r, hr, hs⟩ := List.mem_filterMap.1 hs
    rw [hspan r s hs]
    exact (hnonempty r hr).2

/-! ## The table -/

theorem runsFrom_append (start : Nat) {xs : List Nat} (hpairs : xs.length % 2 = 0) (ys : List Nat) :
    ∃ next, start ≤ next ∧ runsFrom start (xs ++ ys) = runsFrom start xs ++ runsFrom next ys ∧
      ∀ r ∈ runsFrom start xs, r.2.1 < next := by
  fun_induction runsFrom start xs with
  | case1 start more index rest ih =>
    obtain ⟨next, hle, heq, hnext⟩ := ih (by simp only [List.length_cons] at hpairs; omega)
    refine ⟨next, by omega, by simp only [List.cons_append, runsFrom, heq], ?_⟩
    exact List.forall_mem_cons.2 ⟨by dsimp only; omega, hnext⟩
  | case2 xs start hnone =>
    obtain _ | ⟨x, _ | ⟨y, rest⟩⟩ := xs
    · exact ⟨start, Nat.le_refl _, rfl, by simp⟩
    · cases hpairs
    · exact (hnone x y rest rfl).elim

/-- A character of a line, after the numbers before it and what is read of its own. -/
def readDigit (read : List Nat × Nat) (c : Char) : List Nat × Nat :=
  if c = ' ' then (read.2 :: read.1, 0) else (read.1, read.2 * 36 + Ranges.digit36 c)

/-- The numbers of a line by its characters. -/
def numbersOf (cs : List Char) : List Nat :=
  let read := cs.foldl readDigit ([], 0)
  if cs.isEmpty then read.1 else (read.2 :: read.1).reverse

theorem numbers_ofList (cs : List Char) : (Ranges.numbers (String.ofList cs)).toList = numbersOf cs := by
  let pushDigit (read : Array Nat × Nat) (c : Char) : Array Nat × Nat :=
    if c = ' ' then (read.1.push read.2, 0) else (read.1, read.2 * 36 + Ranges.digit36 c)
  let toLists (read : Array Nat × Nat) : List Nat × Nat := (read.1.toList.reverse, read.2)
  have hstep : ∀ read c, readDigit (toLists read) c = toLists (pushDigit read c) := by
    intro read c
    by_cases hc : c = ' ' <;> simp [readDigit, pushDigit, toLists, hc]
  have hread : cs.foldl readDigit (toLists (#[], 0)) = toLists (cs.foldl pushDigit (#[], 0)) :=
    List.foldl_hom toLists hstep
  have hempty : (String.ofList cs).isEmpty = cs.isEmpty := by
    rw [Bool.eq_iff_iff, String.isEmpty_iff, String.ofList_eq_empty_iff, List.isEmpty_iff]
  have hnumbers : Ranges.numbers (String.ofList cs) =
      let read := cs.foldl pushDigit (#[], 0)
      if cs.isEmpty then read.1 else read.1.push read.2 := by
    simp only [Ranges.numbers, String.foldl_eq_foldl_toList, String.toList_ofList, hempty]
    rfl
  rw [hnumbers, numbersOf, show (([] : List Nat), 0) = toLists (#[], 0) from rfl, hread]
  cases cs with
  | nil => rfl
  | cons c cs => simp [toLists]

theorem flatMap_numbers {lines : List String} {table : List (List Char)}
    (h : List.Forall₂ (fun line cs => line = String.ofList cs) lines table) :
    (lines.flatMap fun line => (Ranges.numbers line).toList) = table.flatMap numbersOf := by
  induction h with
  | nil => rfl
  | cons hline _ ih => rw [List.flatMap_cons, List.flatMap_cons, hline, numbers_ofList, ih]

theorem runs_decimalNumber :
    (runs.filter fun r => r.1 < 1642 && r.2.2 = 8) = [(48, 57, 8), (1632, 1641, 8)] := by
  -- The first lines lead beyond them.
  have htable : ∃ table, List.Forall₂ (fun line cs => line = String.ofList cs) (categoryLines.take 30) table ∧
      (table.flatMap numbersOf).length % 2 = 0 ∧
      ((runsFrom 0 (table.flatMap numbersOf)).any fun r => 1641 ≤ r.2.1) = true ∧
      ((runsFrom 0 (table.flatMap numbersOf)).filter fun r => r.1 < 1642 && r.2.2 = 8) =
        [(48, 57, 8), (1632, 1641, 8)] := by
    apply Exists.intro
    apply And.intro
    · unfold categoryLines
      simp only [List.take]
      repeat
        first
        | exact List.Forall₂.nil
        | apply List.Forall₂.cons
          rfl
    · decide +kernel
  obtain ⟨table, hspelled, hpairs, hbeyond, hruns⟩ := htable
  obtain ⟨r, hr, hlast⟩ := List.any_eq_true.1 hbeyond
  obtain ⟨next, -, happend, hnext⟩ := runsFrom_append 0 hpairs
    ((categoryLines.drop 30).flatMap fun line => (Ranges.numbers line).toList)
  have hrest : ∀ s ∈ runsFrom next ((categoryLines.drop 30).flatMap fun line => (Ranges.numbers line).toList),
      ¬ (s.1 < 1642 && s.2.2 = 8) = true := by
    intro s hs
    have hstart := ((ordered_runsFrom next _).2 s hs).1
    have hr := hnext r hr
    simp only [decide_eq_true_eq] at hlast
    simp only [Bool.and_eq_true, decide_eq_true_eq, not_and]
    omega
  rw [runs, ← List.take_append_drop 30 categoryLines, List.flatMap_append, flatMap_numbers hspelled, happend,
    List.filter_append, hruns, List.filter_eq_nil_iff.2 hrest, List.append_nil]

theorem holds_charsOf (cs : List Category) (n : Nat) :
    (charsOf cs).holds n = true ↔
      ∃ r ∈ runs, (all[r.2.2]?.any fun c => cs.contains c) = true ∧ Ranges.Covers n (r.1, r.2.1) := by
  rw [Ranges.holds_iff (ordered_charsOf cs)]
  simp only [charsOf, List.mem_filterMap]
  constructor
  · rintro ⟨s, ⟨r, hr, hs⟩, hcovers⟩
    split at hs <;> cases hs
    rename_i hc
    exact ⟨r, hr, hc, hcovers⟩
  · rintro ⟨r, hr, hc, hcovers⟩
    exact ⟨_, ⟨r, hr, if_pos hc⟩, hcovers⟩

theorem any_decimalNumber (i : Nat) : (all[i]?.any fun c => [decimalNumber].contains c) = true ↔ i = 8 := by
  by_cases hi : i < all.size
  · have hall : ∀ i < 30, (all[i]?.any fun c => [decimalNumber].contains c) = true ↔ i = 8 := by
      decide
    exact hall i hi
  · have hsize : all.size = 30 := rfl
    rw [Array.getElem?_eq_none (by omega)]
    simp only [Option.any_none, Bool.false_eq_true, false_iff]
    omega

theorem holds_decimalNumber {n : Nat} (hn : n < 1642) :
    (charsOf [.decimalNumber]).holds n = true ↔ (48 ≤ n ∧ n ≤ 57) ∨ (1632 ≤ n ∧ n ≤ 1641) := by
  rw [holds_charsOf]
  simp only [any_decimalNumber]
  constructor
  -- Only two of the runs of digits begin so low.
  · rintro ⟨r, hr, hindex, hcovers⟩
    have hmem : r ∈ runs.filter fun r => r.1 < 1642 && r.2.2 = 8 := by
      have hfirst : r.1 < 1642 := Nat.lt_of_le_of_lt hcovers.1 hn
      simp [hr, hindex, hfirst]
    rw [runs_decimalNumber] at hmem
    simp only [List.mem_cons, List.not_mem_nil, or_false] at hmem
    rcases hmem with rfl | rfl
    · exact .inl hcovers
    · exact .inr hcovers
  · intro h
    have hmem : ∀ r ∈ [(48, 57, 8), (1632, 1641, 8)], r ∈ runs ∧ r.2.2 = 8 := by
      rw [← runs_decimalNumber]
      intro r hr
      obtain ⟨hmem, hr⟩ := List.mem_filter.1 hr
      exact ⟨hmem, of_decide_eq_true (Bool.and_eq_true_iff.1 hr).2⟩
    rcases h with h | h
    · obtain ⟨hr, hindex⟩ := hmem (48, 57, 8) (by simp)
      exact ⟨_, hr, hindex, h⟩
    · obtain ⟨hr, hindex⟩ := hmem (1632, 1641, 8) (by simp)
      exact ⟨_, hr, hindex, h⟩

end Category

end Rulebook
