import Mathlib.Data.List.Basic
import Rulebook.Regex.Basic

/-!
# What a regex matches

A tree takes a part of a text by the characters of the part and by what stands before and after it. Its
matcher, which works on sets of places and goes round repetitions only as often as a text has places, ends
exactly where a part ends that the tree takes.
-/

namespace Rulebook.Regex

/-! ## Sets of places -/

theorem mem_merge {xs ys : List Nat} {n : Nat} : n ∈ merge xs ys ↔ n ∈ xs ∨ n ∈ ys := by
  fun_induction merge xs ys with
  | case1 ys => simp
  | case2 xs => simp
  | case3 x xs y ys hlt ih => simp [ih, or_assoc]
  | case4 x xs y ys hle hlt ih => simp [ih, or_left_comm]
  | case5 x xs y ys hle hge ih =>
    obtain rfl : x = y := by omega
    simp only [List.mem_cons, ih]
    tauto

theorem mem_of_mem_minus {xs ys : List Nat} {n : Nat} (h : n ∈ minus xs ys) : n ∈ xs := by
  fun_induction minus xs ys with
  | case1 ys => exact h
  | case2 xs => exact h
  | case3 x xs y ys hlt ih =>
    rcases List.mem_cons.1 h with rfl | h
    · exact List.mem_cons_self
    · exact List.mem_cons_of_mem x (ih h)
  | case4 x xs y ys hle hlt ih => exact ih h
  | case5 x xs y ys hle hge ih => exact List.mem_cons_of_mem x (ih h)

theorem mem_minus {xs ys : List Nat} {n : Nat} (h : n ∈ xs) (hnot : n ∉ ys) : n ∈ minus xs ys := by
  fun_induction minus xs ys with
  | case1 ys => exact h
  | case2 xs => exact h
  | case3 x xs y ys hlt ih =>
    rcases List.mem_cons.1 h with rfl | h
    · exact List.mem_cons_self
    · exact List.mem_cons_of_mem x (ih h hnot)
  | case4 x xs y ys hle hlt ih => exact ih h fun hmem => hnot (List.mem_cons_of_mem y hmem)
  | case5 x xs y ys hle hge ih =>
    obtain rfl : x = y := by omega
    rcases List.mem_cons.1 h with rfl | h
    · exact absurd List.mem_cons_self hnot
    · exact ih h fun hmem => hnot (List.mem_cons_of_mem x hmem)

/-! ## Rounds -/

/-- From one place to another in a number of steps. -/
def Steps (step : Nat → Nat → Prop) : Nat → Nat → Nat → Prop
  | 0, i, j => i = j
  | n + 1, i, k => ∃ j, step i j ∧ Steps step n j k

section
variable {step : Nat → Nat → Prop} {f : List Nat → List Nat}

theorem Steps.append {m n i j k : Nat} (h : Steps step m i j) (h' : Steps step n j k) :
    Steps step (m + n) i k := by
  induction m generalizing i with
  | zero =>
    obtain rfl : i = j := h
    rwa [Nat.zero_add]
  | succ m ih =>
    obtain ⟨next, hstep, h⟩ := h
    rw [Nat.succ_add]
    exact ⟨next, hstep, ih h⟩

theorem Steps.split {m n i k : Nat} (h : Steps step (m + n) i k) :
    ∃ j, Steps step m i j ∧ Steps step n j k := by
  induction m generalizing i with
  | zero => exact ⟨i, rfl, by rwa [Nat.zero_add] at h⟩
  | succ m ih =>
    rw [Nat.succ_add] at h
    obtain ⟨next, hstep, h⟩ := h
    obtain ⟨j, hj, hk⟩ := ih h
    exact ⟨j, ⟨next, hstep, hj⟩, hk⟩

/-- Steps that stay where they are can be left out, so no more are needed than there are places ahead. -/
theorem Steps.shorten (hle : ∀ i j, step i j → i ≤ j) {n i k : Nat} (h : Steps step n i k) :
    i ≤ k ∧ ∃ m ≤ k - i, Steps step m i k := by
  induction n generalizing i with
  | zero =>
    obtain rfl : i = k := h
    exact ⟨Nat.le_refl i, 0, Nat.zero_le _, rfl⟩
  | succ n ih =>
    obtain ⟨j, hstep, h⟩ := h
    obtain ⟨hjk, m, hm, hsteps⟩ := ih h
    have hij := hle i j hstep
    refine ⟨Nat.le_trans hij hjk, ?_⟩
    rcases Nat.eq_or_lt_of_le hij with rfl | hlt
    · exact ⟨m, hm, hsteps⟩
    · exact ⟨m + 1, by omega, j, hstep, hsteps⟩

theorem Steps.mem_of_closed {reached : List Nat} (hclosed : ∀ i ∈ reached, ∀ j, step i j → j ∈ reached)
    {m i k : Nat} (hi : i ∈ reached) (h : Steps step m i k) : k ∈ reached := by
  induction m generalizing i with
  | zero => exact (show i = k from h) ▸ hi
  | succ m ih =>
    obtain ⟨j, hstep, h⟩ := h
    exact ih (hclosed i hi j hstep) h

/-- A function on sets of places goes a step from each of them. -/
structure Realizes (f : List Nat → List Nat) (step : Nat → Nat → Prop) (size : Nat) : Prop where
  ahead : ∀ {i j}, step i j → i ≤ j ∧ j ≤ size
  mem_iff : ∀ {places j}, (∀ i ∈ places, i ≤ size) → (j ∈ f places ↔ ∃ i ∈ places, step i j)

variable {size : Nat} (hf : Realizes f step size)
include hf

theorem Realizes.mem_le {places : List Nat} (hplaces : ∀ i ∈ places, i ≤ size) :
    ∀ j ∈ f places, j ≤ size := by
  intro j hj
  obtain ⟨i, -, hstep⟩ := (hf.mem_iff hplaces).1 hj
  exact (hf.ahead hstep).2

theorem Realizes.steps_le {n i k : Nat} (hi : i ≤ size) (h : Steps step n i k) : k ≤ size := by
  induction n generalizing i with
  | zero => exact (show i = k from h) ▸ hi
  | succ n ih =>
    obtain ⟨j, hstep, h⟩ := h
    exact ih (hf.ahead hstep).2 h

theorem mem_times {n : Nat} {places : List Nat} (hplaces : ∀ i ∈ places, i ≤ size) {k : Nat} :
    k ∈ times f n places ↔ ∃ i ∈ places, Steps step n i k := by
  induction n generalizing places with
  | zero => simp [times, Steps]
  | succ n ih =>
    rw [times]
    cases places with
    | nil => simp
    | cons p ps =>
      rw [if_neg (by simp), ih (hf.mem_le hplaces)]
      constructor
      · rintro ⟨j, hj, h⟩
        obtain ⟨i, hi, hstep⟩ := (hf.mem_iff hplaces).1 hj
        exact ⟨i, hi, j, hstep, h⟩
      · rintro ⟨i, hi, j, hstep, h⟩
        exact ⟨j, (hf.mem_iff hplaces).2 ⟨i, hi, hstep⟩, h⟩

section
variable {n : Nat} {reached fresh : List Nat} (hfresh : ∀ i ∈ fresh, i ≤ size)
include hfresh

theorem Realizes.mem_new {j : Nat} (hj : j ∈ minus (f fresh) reached) : j ≤ size ∧ ∃ i ∈ fresh, step i j :=
  ⟨hf.mem_le hfresh j (mem_of_mem_minus hj), (hf.mem_iff hfresh).1 (mem_of_mem_minus hj)⟩

theorem reach_sound {k : Nat} (h : k ∈ reach f n reached fresh) :
    k ∈ reached ∨ ∃ i ∈ fresh, ∃ m ≤ n, Steps step m i k := by
  induction n generalizing reached fresh with
  | zero => exact .inl h
  | succ n ih =>
    rw [reach] at h
    split at h
    · exact .inl h
    rcases ih (fun j hj => (hf.mem_new hfresh hj).1) h with h | ⟨j, hj, m, hm, hsteps⟩
    · rcases mem_merge.1 h with h | h
      · exact .inl h
      · obtain ⟨-, i, hi, hstep⟩ := hf.mem_new hfresh h
        exact .inr ⟨i, hi, 1, Nat.succ_le_succ (Nat.zero_le n), k, hstep, rfl⟩
    · obtain ⟨-, i, hi, hstep⟩ := hf.mem_new hfresh hj
      exact .inr ⟨i, hi, m + 1, Nat.succ_le_succ hm, j, hstep, hsteps⟩

/-- The invariant of the rounds: where a step leads to from a place that is not fresh has been reached. -/
theorem reach_complete (hclosed : ∀ i ∈ reached, i ∉ fresh → ∀ j, step i j → j ∈ reached) {m i k : Nat}
    (hi : i ∈ reached) (hm : m ≤ n) (h : Steps step m i k) : k ∈ reach f n reached fresh := by
  induction n generalizing reached fresh m i with
  | zero =>
    obtain rfl := Nat.le_zero.1 hm
    exact (show i = k from h) ▸ hi
  | succ n ih =>
    rw [reach]
    split
    · rename_i hempty
      have hclosed : ∀ i ∈ reached, ∀ j, step i j → j ∈ reached := fun i hi =>
        hclosed i hi (by simp [List.isEmpty_iff.1 hempty])
      exact h.mem_of_closed hclosed hi
    · have hnext : ∀ i ∈ reached, ∀ j, step i j → j ∈ merge reached (minus (f fresh) reached) := by
        intro i hi j hstep
        rw [mem_merge]
        by_cases hj : j ∈ reached
        · exact .inl hj
        · have hmem : i ∈ fresh := by
            by_contra hnot
            exact hj (hclosed i hi hnot j hstep)
          exact .inr (mem_minus ((hf.mem_iff hfresh).2 ⟨i, hmem, hstep⟩) hj)
      have hnew : ∀ j ∈ minus (f fresh) reached, j ≤ size := fun j hj => (hf.mem_new hfresh hj).1
      have hclosed' : ∀ i ∈ merge reached (minus (f fresh) reached), i ∉ minus (f fresh) reached →
          ∀ j, step i j → j ∈ merge reached (minus (f fresh) reached) := fun i hi hnot =>
        hnext i ((mem_merge.1 hi).resolve_right hnot)
      cases m with
      | zero => exact ih hnew hclosed' (mem_merge.2 (.inl hi)) (Nat.zero_le n) h
      | succ m =>
        obtain ⟨j, hstep, h⟩ := h
        exact ih hnew hclosed' (hnext i hi j hstep) (Nat.le_of_succ_le_succ hm) h

end

theorem mem_reach {n : Nat} {start : List Nat} (hstart : ∀ i ∈ start, i ≤ size) {k : Nat} :
    k ∈ reach f n start start ↔ ∃ i ∈ start, ∃ m ≤ n, Steps step m i k := by
  constructor
  · intro h
    exact (reach_sound hf hstart h).elim (fun h => ⟨k, h, 0, Nat.zero_le n, rfl⟩) id
  · rintro ⟨i, hi, m, hm, h⟩
    exact reach_complete hf hstart (fun i hi hnot => absurd hi hnot) hi hm h

end

/-! ## Parts of a text -/

/-- A number of parts that follow each other, each taken between what is before and after it. -/
def Repeats (takes : List Char → List Char → List Char → Prop) :
    Nat → List Char → List Char → List Char → Prop
  | 0, _, cs, _ => cs = []
  | n + 1, before, cs, after =>
    ∃ part rest, cs = part ++ rest ∧ takes before part (rest ++ after) ∧
      Repeats takes n (before ++ part) rest after

/-- Whether a tree takes a part of a text, which stands between `before` and `after`. -/
def Tree.Takes : Tree → (before cs after : List Char) → Prop
  | .empty, _, cs, _ => cs = []
  | .none, _, _, _ => False
  | .chars set, _, cs, _ => ∃ c, cs = [c] ∧ set.has c = true
  | .look l, before, cs, after => cs = [] ∧ l.holds before.getLast? after.head? = true
  | .cat a b, before, cs, after =>
    ∃ part rest, cs = part ++ rest ∧ a.Takes before part (rest ++ after) ∧ b.Takes (before ++ part) rest after
  | .alt a b, before, cs, after => a.Takes before cs after ∨ b.Takes before cs after
  | .repeated body min max, before, cs, after =>
    ∃ more, (∀ m ∈ max, more ≤ m - min) ∧ Repeats body.Takes (min + more) before cs after

/-- A part of a text that is taken leads from the place before it to the place after it. -/
def Leads (takes : List Char → List Char → List Char → Prop) (text : List Char) (i j : Nat) : Prop :=
  ∃ before cs after, text = before ++ cs ++ after ∧ before.length = i ∧ (before ++ cs).length = j ∧
    takes before cs after

section
variable {takes takes' : List Char → List Char → List Char → Prop} {text : List Char}

theorem Leads.le {i j : Nat} (h : Leads takes text i j) : i ≤ j ∧ j ≤ text.length := by
  obtain ⟨before, cs, after, rfl, rfl, rfl, -⟩ := h
  simp only [List.length_append]
  omega

theorem leads_cat {i k : Nat} :
    Leads (fun before cs after => ∃ part rest, cs = part ++ rest ∧ takes before part (rest ++ after) ∧
      takes' (before ++ part) rest after) text i k ↔
      ∃ j, Leads takes text i j ∧ Leads takes' text j k := by
  constructor
  · rintro ⟨before, _, after, rfl, rfl, rfl, part, rest, rfl, h, h'⟩
    refine ⟨(before ++ part).length, ⟨before, part, rest ++ after, ?_, rfl, rfl, h⟩,
      ⟨before ++ part, rest, after, ?_, rfl, ?_, h'⟩⟩ <;> simp
  · rintro ⟨j, ⟨before, part, tail, htext, rfl, hj, h⟩, ⟨front, rest, after, rfl, hfront, rfl, h'⟩⟩
    rw [List.append_assoc] at htext
    obtain ⟨rfl, rfl⟩ := List.append_inj htext (hfront.trans hj.symm)
    exact ⟨before, part ++ rest, after, by simp, rfl, by simp, part, rest, rfl, h, h'⟩

theorem leads_repeats {n i k : Nat} (hi : i ≤ text.length) :
    Leads (Repeats takes n) text i k ↔ Steps (Leads takes text) n i k := by
  induction n generalizing i with
  | zero =>
    constructor
    · rintro ⟨before, cs, after, rfl, rfl, rfl, rfl⟩
      simp [Steps]
    · rintro rfl
      exact ⟨text.take i, [], text.drop i, by simp, by simp [hi], by simp [hi], rfl⟩
  | succ n ih =>
    refine leads_cat.trans (exists_congr fun j => and_congr_right fun hj => ih hj.le.2)

end

theorem leads_empty {text : List Char} {i j : Nat} :
    Leads Tree.empty.Takes text i j ↔ i = j ∧ i ≤ text.length := by
  constructor
  · rintro ⟨before, _, after, rfl, rfl, rfl, rfl⟩
    simp
  · rintro ⟨rfl, hi⟩
    exact ⟨text.take i, [], text.drop i, by simp, by simp [hi], by simp [hi], rfl⟩

theorem leads_chars {set : Ranges} {text : List Char} {i j : Nat} :
    Leads (Tree.chars set).Takes text i j ↔ j = i + 1 ∧ text[i]?.any set.has = true := by
  constructor
  · rintro ⟨before, _, after, rfl, rfl, rfl, c, rfl, hc⟩
    simp [hc]
  · rintro ⟨rfl, h⟩
    obtain ⟨c, hc, hhas⟩ := Option.any_eq_true _ _ |>.1 h
    obtain ⟨hi, hc⟩ := List.getElem?_eq_some_iff.1 hc
    refine ⟨text.take i, [c], text.drop (i + 1), ?_, by simp; omega, by simp; omega, c, rfl, hhas⟩
    rw [List.append_assoc, List.singleton_append, ← hc, ← List.drop_eq_getElem_cons, List.take_append_drop]

theorem getLast?_before (before after : List Char) :
    before.getLast? = if before.length = 0 then none else (before ++ after)[before.length - 1]? := by
  rw [List.getLast?_eq_getElem?]
  split
  · rename_i hzero
    simp [List.length_eq_zero_iff.1 hzero]
  · rw [List.getElem?_append_left (by omega)]

theorem head?_after (before after : List Char) : after.head? = (before ++ after)[before.length]? := by
  rw [List.getElem?_append_right (Nat.le_refl _), Nat.sub_self, List.head?_eq_getElem?]

theorem leads_look {l : Look} {text : List Char} {i j : Nat} :
    Leads (Tree.look l).Takes text i j ↔
      i = j ∧ i ≤ text.length ∧ l.holds (if i = 0 then none else text[i - 1]?) text[i]? = true := by
  constructor
  · rintro ⟨before, _, after, rfl, rfl, rfl, rfl, h⟩
    rw [getLast?_before before after, head?_after before after] at h
    simpa using h
  · rintro ⟨rfl, hi, h⟩
    have hlength : (text.take i).length = i := List.length_take_of_le hi
    have htext : text.take i ++ text.drop i = text := List.take_append_drop i text
    refine ⟨text.take i, [], text.drop i, by simp, hlength, by simp [hi], rfl, ?_⟩
    rw [getLast?_before _ (text.drop i), head?_after (text.take i), htext, hlength]
    exact h

theorem leads_repeated {body : Tree} {min : Nat} {max : Option Nat} {text : List Char} {i k : Nat}
    (hi : i ≤ text.length) :
    Leads (Tree.repeated body min max).Takes text i k ↔
      ∃ more, (∀ m ∈ max, more ≤ m - min) ∧ Steps (Leads body.Takes text) (min + more) i k := by
  simp only [← leads_repeats hi]
  constructor
  · rintro ⟨before, cs, after, htext, hi, hk, more, hmore, h⟩
    exact ⟨more, hmore, before, cs, after, htext, hi, hk, h⟩
  · rintro ⟨more, hmore, before, cs, after, htext, hi, hk, h⟩
    exact ⟨before, cs, after, htext, hi, hk, more, hmore, h⟩

/-- The rounds of a repetition are the times that it must be taken and then as many more as may change the
place. -/
theorem mem_ends_repeated {body : Tree} {min : Nat} {max : Option Nat} {text : List Char}
    (hbody : Realizes (body.ends text.toArray) (Leads body.Takes text) text.length) {places : List Nat}
    {k : Nat} (hplaces : ∀ i ∈ places, i ≤ text.length) :
    k ∈ (Tree.repeated body min max).ends text.toArray places ↔
      ∃ i ∈ places, Leads (Tree.repeated body min max).Takes text i k := by
  have hstart : ∀ j ∈ times (body.ends text.toArray) min places, j ≤ text.length := by
    intro j hj
    obtain ⟨i, hi, h⟩ := (mem_times hbody hplaces).1 hj
    exact hbody.steps_le (hplaces i hi) h
  simp only [Tree.ends]
  rw [mem_reach hbody hstart]
  constructor
  · rintro ⟨j, hj, m, hm, hk⟩
    obtain ⟨i, hi, h⟩ := (mem_times hbody hplaces).1 hj
    refine ⟨i, hi, (leads_repeated (hplaces i hi)).2 ⟨m, ?_, h.append hk⟩⟩
    rintro most rfl
    exact hm
  · rintro ⟨i, hi, h⟩
    obtain ⟨more, hmore, h⟩ := (leads_repeated (hplaces i hi)).1 h
    obtain ⟨j, hj, hk⟩ := h.split
    have hj := (mem_times hbody hplaces).2 ⟨i, hi, hj⟩
    cases max with
    | some most => exact ⟨j, hj, more, hmore most rfl, hk⟩
    | none =>
      -- Without a limit the text is one: what is taken without moving on can be left out.
      obtain ⟨-, m, hm, hk'⟩ := hk.shorten fun i j h => (hbody.ahead h).1
      have hle := hbody.steps_le (hstart j hj) hk
      exact ⟨j, hj, m, by simp only [List.size_toArray]; omega, hk'⟩

/-- The matcher of a tree ends where a part ends that the tree takes. -/
theorem mem_ends (text : List Char) (t : Tree) {places : List Nat} {k : Nat}
    (hplaces : ∀ i ∈ places, i ≤ text.length) :
    k ∈ t.ends text.toArray places ↔ ∃ i ∈ places, Leads t.Takes text i k := by
  induction t generalizing places k with
  | empty =>
    simp only [Tree.ends, leads_empty]
    exact ⟨fun hk => ⟨k, hk, rfl, hplaces k hk⟩, fun ⟨i, hi, heq, _⟩ => heq ▸ hi⟩
  | chars set =>
    simp only [Tree.ends, leads_chars, List.mem_filterMap, List.getElem?_toArray,
      Option.ite_none_right_eq_some, Option.some.injEq]
    exact exists_congr fun i => and_congr_right fun _ => and_comm.trans (and_congr_left fun _ => eq_comm)
  | look l =>
    simp only [Tree.ends, leads_look, List.mem_filter, List.getElem?_toArray]
    constructor
    · exact fun ⟨hk, h⟩ => ⟨k, hk, rfl, hplaces k hk, h⟩
    · rintro ⟨_, hi, rfl, -, h⟩
      exact ⟨hi, h⟩
  | cat a b iha ihb =>
    -- The second part goes on from all places where the first one ends.
    have ha : Realizes (a.ends text.toArray) (Leads a.Takes text) text.length := ⟨Leads.le, iha⟩
    have hcat : ∀ i, Leads (Tree.cat a b).Takes text i k ↔ _ := fun i => leads_cat
    simp only [Tree.ends, hcat, ihb (ha.mem_le hplaces), iha hplaces]
    constructor
    · exact fun ⟨j, ⟨i, hi, ha⟩, hb⟩ => ⟨i, hi, j, ha, hb⟩
    · exact fun ⟨i, hi, j, ha, hb⟩ => ⟨j, ⟨i, hi, ha⟩, hb⟩
  | alt a b iha ihb =>
    simp only [Tree.ends, mem_merge, iha hplaces, ihb hplaces]
    constructor
    · rintro (⟨i, hi, before, cs, after, htext, hi', hk, h⟩ | ⟨i, hi, before, cs, after, htext, hi', hk, h⟩)
      · exact ⟨i, hi, before, cs, after, htext, hi', hk, .inl h⟩
      · exact ⟨i, hi, before, cs, after, htext, hi', hk, .inr h⟩
    · rintro ⟨i, hi, before, cs, after, htext, hi', hk, h | h⟩
      · exact .inl ⟨i, hi, before, cs, after, htext, hi', hk, h⟩
      · exact .inr ⟨i, hi, before, cs, after, htext, hi', hk, h⟩
  | none =>
    simp only [Tree.ends, List.not_mem_nil, false_iff]
    rintro ⟨_, _, _, _, _, _, _, _, h⟩
    exact h
  | repeated body min max ih =>
    exact mem_ends_repeated ⟨Leads.le, ih⟩ hplaces

theorem isMatch_iff (r : Regex) (text : String) :
    r.isMatch text = true ↔
      ∃ before cs after, text.toList = before ++ cs ++ after ∧ r.tree.Takes before cs after := by
  have hplaces : ∀ i ∈ List.range (text.toList.length + 1), i ≤ text.toList.length := fun i hi =>
    Nat.le_of_lt_succ (List.mem_range.1 hi)
  unfold isMatch
  rw [Bool.not_eq_true', List.isEmpty_eq_false_iff_exists_mem]
  simp only [List.size_toArray, mem_ends _ _ hplaces]
  constructor
  · rintro ⟨k, i, -, before, cs, after, htext, -, -, h⟩
    exact ⟨before, cs, after, htext, h⟩
  · rintro ⟨before, cs, after, htext, h⟩
    refine ⟨_, before.length, ?_, before, cs, after, htext, rfl, rfl, h⟩
    rw [List.mem_range, htext]
    simp only [List.length_append]
    omega

end Rulebook.Regex
