import Rulebook.Number.Binary64
import Mathlib.Algebra.Order.Ring.Int

/-!
# Whole numbers

A whole number below `2 ^ 53` is a binary64 number itself. A larger one is rounded to a whole number that is
not below `2 ^ 53` either.
-/

namespace Rulebook.Binary64

/-! ## Finite numbers without a fraction -/

theorem oneUnits_pos : (0 : Int) < oneUnits := by
  unfold oneUnits
  generalize 1074 = k
  exact Int.natCast_pos.2 (Nat.two_pow_pos k)

theorem toInt?_finite_iff {s : Bool} {m : Nat} {e k : Int} :
    (finite s m e).toInt? = some k ↔ units s m e = k * oneUnits := by
  simp only [toInt?]
  split
  · rename_i hmod
    have hdvd : (oneUnits : Int) ∣ units s m e := Int.dvd_of_emod_eq_zero hmod
    rw [Option.some_inj, Int.ediv_eq_iff_eq_mul_left oneUnits_pos.ne' hdvd]
  · rename_i hmod
    refine iff_of_false nofun fun h => hmod ?_
    rw [h, Int.mul_emod_left]

/-- A number whose mantissa makes up for a negative exponent has no fraction. -/
theorem units_of_scaled (s : Bool) (m j : Nat) {e : Int} (hmin : minExp ≤ e) (he : 0 ≤ e + j) :
    units s (m * 2 ^ j) e =
      (if s then -((m * 2 ^ (e + j).toNat : Nat) : Int) else (m * 2 ^ (e + j).toNat : Nat)) * oneUnits := by
  have hexp : j + (e - minExp).toNat = (e + j).toNat + 1074 := by
    unfold minExp at *
    omega
  have hmant : m * 2 ^ j * 2 ^ (e - minExp).toNat = m * 2 ^ (e + j).toNat * oneUnits := by
    unfold oneUnits
    generalize 1074 = k at hexp ⊢
    rw [Nat.mul_assoc, ← Nat.pow_add, hexp, Nat.pow_add, Nat.mul_assoc, Nat.pow_eq]
  unfold units
  rw [Nat.pow_eq, ← Int.natCast_mul, hmant, Int.natCast_mul]
  cases s with
  | false => simp only [Bool.false_eq_true, if_false]
  | true => simp only [if_true, Int.neg_mul]

theorem isFinite_of_toInt? {x : Binary64} {k : Int} (h : x.toInt? = some k) : x.isFinite = true := by
  cases x with
  | finite => rfl
  | _ => cases h

theorem eqv_of_toInt? {x y : Binary64} {k : Int} (hx : x.toInt? = some k) (hy : y.toInt? = some k) :
    x.eqv y = true := by
  cases x with
  | finite s m e =>
    cases y with
    | finite t n f =>
      rw [toInt?_finite_iff] at hx hy
      simp only [eqv, hx, hy, decide_true]
    | _ => cases hy
  | _ => cases hx

theorem eqv_self {x : Binary64} (h : x.isNan = false) : x.eqv x = true := by
  cases x with
  | nan => cases h
  | _ => simp only [eqv, decide_true]

/-! ## Rounding of whole numbers -/

theorem roundDiv_one (n : Nat) : roundDiv n 1 = n := by
  unfold roundDiv
  rw [Nat.div_one, Nat.mod_one]
  rfl

section
variable {n d : Nat}

theorem div_le_roundDiv : n / d ≤ roundDiv n d := by
  unfold roundDiv
  grind

theorem isNan_ofRatio (s : Bool) : (ofRatio s n d).isNan = false := by
  unfold ofRatio
  split
  · rfl
  · dsimp only
    generalize (if _ = Nat.pow 2 53 then _ else _ : Nat × Int) = rounded
    split <;> rfl

theorem exponentFor_one (hn : n ≠ 0) : exponentFor n 1 = (n.log2 : Int) - 52 := by
  have hle := Nat.log2_self_le hn
  have hlog : (1 : Nat).log2 = 0 := by decide
  unfold exponentFor scaled minExp
  simp only [hlog, Nat.pow_eq]
  split
  · rename_i hguess
    have hexp : n.log2 = 53 + (n.log2 - 53) := by omega
    have htoNat : ((n.log2 : Int) - (0 : Nat) - 53).toNat = n.log2 - 53 := by omega
    have hquot : 2 ^ 53 ≤ n / (1 * 2 ^ (n.log2 - 53)) := by
      rw [one_mul, Nat.le_div_iff_mul_le (Nat.two_pow_pos _), ← Nat.pow_add, ← hexp]
      exact hle
    rw [htoNat, if_pos hquot]
    omega
  · rename_i hguess
    have htoNat : (-((n.log2 : Int) - (0 : Nat) - 53)).toNat = 53 - n.log2 := by omega
    have hexp : 53 = n.log2 + (53 - n.log2) := by omega
    have hquot : 2 ^ 53 ≤ n * 2 ^ (53 - n.log2) / 1 := by
      rw [Nat.div_one]
      calc 2 ^ 53 = 2 ^ n.log2 * 2 ^ (53 - n.log2) := by rw [← Nat.pow_add, ← hexp]
        _ ≤ n * 2 ^ (53 - n.log2) := Nat.mul_le_mul_right _ hle
    rw [htoNat, if_pos hquot]
    omega

/-- A whole number of at most 53 binary digits is held as it is. -/
theorem ofRatio_of_log2_le (s : Bool) (hn : n ≠ 0) (hlog : n.log2 ≤ 52) :
    ofRatio s n 1 = .finite s (n * 2 ^ (52 - n.log2)) ((n.log2 : Int) - 52) := by
  have hlt : n * 2 ^ (52 - n.log2) < 2 ^ 53 := by
    calc n * 2 ^ (52 - n.log2) < 2 ^ (n.log2 + 1) * 2 ^ (52 - n.log2) :=
          Nat.mul_lt_mul_of_pos_right Nat.lt_log2_self (Nat.two_pow_pos _)
      _ = 2 ^ 53 := by
          rw [← Nat.pow_add]
          congr 1
          omega
  have hscaled : scaled n 1 ((n.log2 : Int) - 52) = (n * 2 ^ (52 - n.log2), 1) := by
    unfold scaled
    split
    · have hexp : n.log2 = 52 := by omega
      simp [hexp]
    · have hexp : (-((n.log2 : Int) - 52)).toNat = 52 - n.log2 := by omega
      rw [hexp, Nat.pow_eq]
  unfold ofRatio maxExp
  rw [if_neg hn, exponentFor_one hn]
  simp only [hscaled, roundDiv_one, Nat.pow_eq, if_neg hlt.ne]
  rw [if_neg (by omega)]

/-- A longer one is rounded to a whole number that has as many digits. -/
theorem ofRatio_of_lt_log2 (s : Bool) (hn : n ≠ 0) (hlog : 52 < n.log2) (hmax : n.log2 ≤ 64) :
    ∃ m e, ofRatio s n 1 = .finite s m e ∧ 0 ≤ e ∧ 2 ^ 53 ≤ m * 2 ^ e.toNat := by
  have hexp : ((n.log2 : Int) - 52).toNat = n.log2 - 52 := by omega
  have hscaled : scaled n 1 ((n.log2 : Int) - 52) = (n, 2 ^ (n.log2 - 52)) := by
    unfold scaled
    rw [if_pos (by omega), hexp, Nat.pow_eq, one_mul]
  have hquot : 2 ^ 52 ≤ n / 2 ^ (n.log2 - 52) := by
    rw [Nat.le_div_iff_mul_le (Nat.two_pow_pos _), ← Nat.pow_add, Nat.add_sub_cancel' hlog.le]
    exact Nat.log2_self_le hn
  have hlarge : ∀ m e : Nat, 2 ^ 52 ≤ m → 1 ≤ e → 2 ^ 53 ≤ m * 2 ^ e := fun m e hm he =>
    Nat.mul_le_mul hm (Nat.pow_le_pow_right Nat.two_pos he)
  unfold ofRatio maxExp
  rw [if_neg hn, exponentFor_one hn]
  simp only [hscaled, Nat.pow_eq]
  by_cases hcarry : roundDiv n (2 ^ (n.log2 - 52)) = 2 ^ 53
  · simp only [if_pos hcarry]
    rw [if_neg (by omega)]
    exact ⟨_, _, rfl, by omega, hlarge _ _ (Nat.le_refl _) (by omega)⟩
  · simp only [if_neg hcarry]
    rw [if_neg (by omega)]
    exact ⟨_, _, rfl, by omega, hlarge _ _ (hquot.trans div_le_roundDiv) (by omega)⟩

end

section
variable {n : Int}

theorem toInt?_ofInt (h : n.natAbs < 2 ^ 53) : (ofInt n).toInt? = some n := by
  unfold ofInt
  by_cases hn : n = 0
  · subst hn
    have hzero : ∀ s, units s 0 minExp = 0 * oneUnits := by
      intro s
      rw [Int.zero_mul]
      cases s <;> rfl
    exact toInt?_finite_iff.2 (hzero _)
  have hne : n.natAbs ≠ 0 := Int.natAbs_ne_zero.2 hn
  have hlog : n.natAbs.log2 < 53 := (Nat.log2_lt hne).2 h
  have hexp : (n.natAbs.log2 : Int) - 52 + (52 - n.natAbs.log2 : Nat) = 0 := by omega
  rw [ofRatio_of_log2_le _ hne (by omega), toInt?_finite_iff,
    units_of_scaled _ _ _ (by unfold minExp; omega) hexp.ge, hexp, Int.toNat_zero, Nat.pow_zero, Nat.mul_one]
  congr 1
  split <;> grind

theorem toInt?_ofInt_of_le (h : 2 ^ 53 ≤ n.natAbs) (hmax : n.natAbs ≤ 2 ^ 64) :
    ∃ k : Int, (ofInt n).toInt? = some k ∧ 2 ^ 53 ≤ k.natAbs := by
  have hne : n.natAbs ≠ 0 := by omega
  have hlog : n.natAbs.log2 < 65 := (Nat.log2_lt hne).2 (by omega)
  have hlog' : 53 ≤ n.natAbs.log2 := (Nat.le_log2 hne).2 h
  obtain ⟨m, e, hfinite, he, hm⟩ := ofRatio_of_lt_log2 (n < 0) hne (by omega) (by omega)
  unfold ofInt
  rw [hfinite]
  have hunits := units_of_scaled (n < 0) m 0 (by unfold minExp; omega) (by omega : 0 ≤ e + (0 : Nat))
  rw [Nat.pow_zero, Nat.mul_one, Int.natCast_zero, Int.add_zero] at hunits
  refine ⟨_, toInt?_finite_iff.2 hunits, ?_⟩
  split <;> omega

end
end Rulebook.Binary64
