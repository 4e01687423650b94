import SensorHost.Proofs.Single.Canonical

/-!
# Rounding to 24 bits

A number is brought to the exponent at which its significand has 24 bits, what is dropped is
rounded, and a carry out of the 24 bits is dropped once more. Two facts are all that the rest
needs of it: a number in the normal range keeps its sign and its leading bit
(`roundWithAccuracy_normal`), and one that has no more than 24 bits before its zeros is held as
it is (`roundWithAccuracy_exact`).
-/

namespace SensorHost.Single

open Float.Model Float.Model.UnpackedFloat

theorem mantissa_shiftRight (em : ExtendedMantissa) (k : Nat) :
    (em >>> k).mantissa = em.mantissa / 2 ^ k := by
  induction k with
  | zero => simp [HShiftRight.hShiftRight, Nat.repeat]
  | succ k ih =>
      show (em >>> k).mantissa / 2 = _
      rw [ih, Nat.div_div_eq_div_mul, Nat.pow_succ]

theorem roundedMantissa_bounds (em : ExtendedMantissa) :
    em.mantissa ≤ em.roundedMantissa ∧ em.roundedMantissa ≤ em.mantissa + 1 := by
  obtain ⟨m, r, s⟩ := em
  cases r <;> cases s <;>
    simp [ExtendedMantissa.roundedMantissa, ExtendedMantissa.accuracy, Accuracy.roundToNearestEven]
  omega

/-- Dropping zeros loses nothing. -/
theorem shiftRight_exact {m k : Nat} (h : 2 ^ k ∣ m) :
    (ExtendedMantissa.mk m false false) >>> k = ⟨m / 2 ^ k, false, false⟩ := by
  induction k with
  | zero => simp [HShiftRight.hShiftRight, Nat.repeat]
  | succ k ih =>
      have hk : 2 ^ k ∣ m := Nat.dvd_trans (Nat.pow_dvd_pow 2 (Nat.le_succ k)) h
      have even : m / 2 ^ k % 2 = 0 := by
        obtain ⟨c, rfl⟩ := h
        rw [Nat.pow_succ, Nat.mul_assoc, Nat.mul_div_cancel_left _ (Nat.two_pow_pos k)]
        exact Nat.mul_mod_right 2 c
      show ((ExtendedMantissa.mk m false false) >>> k).shiftRightOne = _
      rw [ih hk]
      simp [ExtendedMantissa.shiftRightOne, even, Nat.div_div_eq_div_mul, Nat.pow_succ]

/-- The exponent at which a number is held. -/
theorem targetExponent_eq (m : Nat) (e : Int) :
    Format.binary32.targetExponent (totalExponent m e) = max (m.log2 + e - 23) (-149) := by
  simp only [Format.targetExponent, totalExponent, Format.mantissaBits, Format.minExponent]
  omega

/-- A canonical number stays as it is. -/
theorem shiftToTargetExponent_of_lt {m : Nat} {e : Int} (small : m < 2 ^ 24) (low : -149 ≤ e) :
    shiftToTargetExponent Format.binary32 m e .exact = (⟨m, false, false⟩, e) := by
  have log : m.log2 < 24 := by
    by_cases h : m = 0
    · simp [h]
    · exact (Nat.log2_lt h).mpr small
  have none : (max ((m.log2 : Int) + e - 23) (-149) - e).toNat = 0 := by omega
  simp [shiftToTargetExponent, shiftToExponent, targetExponent_eq, none, HShiftRight.hShiftRight,
    Nat.repeat, ExtendedMantissa.ofMantissaAndAccuracy]

/-- A significand that rounding carried out of its 24 bits gives up a zero. -/
theorem shiftToTargetExponent_carry {e : Int} (low : -149 ≤ e) :
    shiftToTargetExponent Format.binary32 (2 ^ 24) e .exact = (⟨2 ^ 23, false, false⟩, e + 1) := by
  have one : (max (((2 ^ 24 : Nat).log2 : Int) + e - 23) (-149) - e).toNat = 1 := by
    rw [Nat.log2_two_pow]
    omega
  simp only [shiftToTargetExponent, shiftToExponent, targetExponent_eq, one]
  rfl

/-- The leading 24 bits of a significand. -/
theorem leading_bounds {m : Nat} (wide : 23 ≤ m.log2) :
    2 ^ 23 ≤ m / 2 ^ (m.log2 - 23) ∧ m / 2 ^ (m.log2 - 23) < 2 ^ 24 := by
  have nonzero : m ≠ 0 := by
    intro h
    simp [h] at wide
  have positive : 0 < 2 ^ (m.log2 - 23) := Nat.two_pow_pos _
  constructor
  · rw [Nat.le_div_iff_mul_le positive, ← Nat.pow_add, show 23 + (m.log2 - 23) = m.log2 by omega]
    exact Nat.log2_self_le nonzero
  · rw [Nat.div_lt_iff_lt_mul positive, ← Nat.pow_add,
      show 24 + (m.log2 - 23) = m.log2 + 1 by omega]
    exact Nat.lt_log2_self

/-- In the range of the normal numbers the leading 24 bits are kept, and the exponent grows by
what was dropped. -/
theorem shiftToTargetExponent_normal {m : Nat} {e : Int} (acc : Accuracy) (wide : 23 ≤ m.log2)
    (low : -149 ≤ m.log2 + e - 23) :
    (shiftToTargetExponent Format.binary32 m e acc).1.mantissa = m / 2 ^ (m.log2 - 23) ∧
      (shiftToTargetExponent Format.binary32 m e acc).2 = m.log2 + e - 23 := by
  have amount : (max ((m.log2 : Int) + e - 23) (-149) - e).toNat = m.log2 - 23 := by omega
  simp only [shiftToTargetExponent, shiftToExponent, targetExponent_eq, amount,
    mantissa_shiftRight]
  refine ⟨?_, by omega⟩
  cases acc with
  | exact => rfl
  | inexact o => cases o <;> rfl

/-- A number in the range of the normal numbers is rounded to 24 bits, with its sign, and is not
brought below its leading bit. -/
theorem roundWithAccuracy_normal (s : Sign) {m : Nat} {e : Int} (acc : Accuracy)
    (wide : 23 ≤ m.log2) (low : -149 ≤ m.log2 + e - 23) :
    ∃ m' e', ∃ pos : 0 < m', roundWithAccuracy Format.binary32 s m e acc = .finite s m' e' pos ∧
      2 ^ 23 ≤ m' ∧ m' < 2 ^ 24 ∧ m.log2 + e - 23 ≤ e' := by
  obtain ⟨leading, exponent⟩ := shiftToTargetExponent_normal acc wide low
  have bounds := leading_bounds wide
  have rounded := roundedMantissa_bounds (shiftToTargetExponent Format.binary32 m e acc).1
  rw [leading] at rounded
  -- Nothing else about the first shift matters.
  unfold roundWithAccuracy
  generalize shiftToTargetExponent Format.binary32 m e acc = first at *
  obtain ⟨em, e₁⟩ := first
  simp only at exponent rounded ⊢
  by_cases carry : em.roundedMantissa < 2 ^ 24
  · rw [shiftToTargetExponent_of_lt carry (by omega)]
    have nonzero : em.roundedMantissa ≠ 0 := by omega
    simp only [nonzero, ↓reduceDIte]
    exact ⟨em.roundedMantissa, e₁, Nat.pos_of_ne_zero nonzero, rfl, by omega, carry, by omega⟩
  · -- Rounding carried out of the 24 bits, which leaves a power of two.
    have full : em.roundedMantissa = 2 ^ 24 := by omega
    rw [full, shiftToTargetExponent_carry (by omega)]
    exact ⟨2 ^ 23, e₁ + 1, by decide, rfl, by decide, by decide, by omega⟩

/-- A number whose leading 24 bits are all that it has is held as it is. -/
theorem roundWithAccuracy_exact (s : Sign) {m : Nat} {e : Int} (wide : 23 ≤ m.log2)
    (low : -149 ≤ m.log2 + e - 23) (whole : 2 ^ (m.log2 - 23) ∣ m) :
    ∃ pos, roundWithAccuracy Format.binary32 s m e .exact =
      .finite s (m / 2 ^ (m.log2 - 23)) (m.log2 + e - 23) pos := by
  have amount : (max ((m.log2 : Int) + e - 23) (-149) - e).toNat = m.log2 - 23 := by omega
  have bounds := leading_bounds wide
  have first : shiftToTargetExponent Format.binary32 m e .exact =
      (⟨m / 2 ^ (m.log2 - 23), false, false⟩, m.log2 + e - 23) := by
    simp only [shiftToTargetExponent, shiftToExponent, targetExponent_eq, amount,
      ExtendedMantissa.ofMantissaAndAccuracy, shiftRight_exact whole]
    congr 1
    omega
  unfold roundWithAccuracy
  rw [first]
  have rounded : (ExtendedMantissa.mk (m / 2 ^ (m.log2 - 23)) false false).roundedMantissa =
      m / 2 ^ (m.log2 - 23) := rfl
  simp only [rounded, shiftToTargetExponent_of_lt bounds.2 low]
  have nonzero : m / 2 ^ (m.log2 - 23) ≠ 0 := by omega
  simp only [nonzero, ↓reduceDIte]
  exact ⟨Nat.pos_of_ne_zero nonzero, trivial⟩

theorem log2_shiftLeft {m : Nat} (pos : 0 < m) (k : Nat) : (m <<< k).log2 = m.log2 + k := by
  rw [Nat.shiftLeft_eq]
  refine (Nat.log2_eq_iff (Nat.ne_of_gt (Nat.mul_pos pos (Nat.two_pow_pos k)))).mpr ⟨?_, ?_⟩
  · rw [Nat.pow_add]
    exact Nat.mul_le_mul_right _ (Nat.log2_self_le (by omega))
  · rw [Nat.add_right_comm, Nat.pow_add]
    exact Nat.mul_lt_mul_of_pos_right Nat.lt_log2_self (Nat.two_pow_pos k)

/-- A positive integer brought to a significand of at least 24 bits. -/
theorem round_nat (s : Sign) (m : Nat) :
    UnpackedFloat.round Format.binary32 s m 0 =
      roundWithAccuracy Format.binary32 s (m <<< (23 - m.log2)) (-(23 - m.log2 : Nat)) .exact := by
  have amount : (0 - max ((m.log2 : Int) + 0 - 23) (-149)).toNat = 23 - m.log2 := by omega
  simp only [UnpackedFloat.round, decreaseExponent, targetExponent_eq, amount]
  congr 1
  omega

/-- The integer part of `m · 2 ^ e`. -/
def wholePart (m : Nat) (e : Int) : Nat := m * 2 ^ e.toNat / 2 ^ (-e).toNat

theorem roundToInt_eq (s : Sign) (m : Nat) (e : Int) :
    roundToInt s m e = s.apply (wholePart m e) := by
  have first : (e - 0).toNat = e.toNat := by omega
  have second : (0 - (e - (e.toNat : Int))).toNat = (-e).toNat := by omega
  simp only [roundToInt, decreaseExponent, shiftToExponent, first, second, mantissa_shiftRight,
    Nat.shiftLeft_eq]
  rfl

/-- An integer other than zero becomes a number of its sign that is at least one. -/
theorem round_nat_normal (s : Sign) {m : Nat} (pos : 0 < m) :
    ∃ m' e', ∃ pos' : 0 < m',
      UnpackedFloat.round Format.binary32 s m 0 = .finite s m' e' pos' ∧ 2 ^ 23 ≤ m' ∧
        m' < 2 ^ 24 ∧ -23 ≤ e' := by
  rw [round_nat s m]
  have log := log2_shiftLeft pos (23 - m.log2)
  have wide : 23 ≤ (m <<< (23 - m.log2)).log2 := by omega
  obtain ⟨m', e', pos', eq, low, high, exponent⟩ :=
    roundWithAccuracy_normal s (e := -(23 - m.log2 : Nat)) .exact wide (by omega)
  exact ⟨m', e', pos', eq, low, high, by omega⟩

/-- An integer of at most 24 bits, followed by zeros, is held as it is. -/
theorem round_nat_exact (s : Sign) {m : Nat} (pos : 0 < m) (whole : 2 ^ (m.log2 - 23) ∣ m) :
    ∃ m' e', ∃ pos' : 0 < m',
      UnpackedFloat.round Format.binary32 s m 0 = .finite s m' e' pos' ∧ 2 ^ 23 ≤ m' ∧
        m' < 2 ^ 24 ∧ e' = m.log2 - 23 ∧ wholePart m' e' = m := by
  have log := log2_shiftLeft pos (23 - m.log2)
  have up (k : Nat) : ((k : Int) - 23).toNat = k - 23 := by omega
  have down (k : Nat) : (-((k : Int) - 23)).toNat = 23 - k := by omega
  rw [round_nat s m]
  generalize shift : 23 - m.log2 = k at log ⊢
  have same : (m <<< k).log2 - 23 = m.log2 - 23 := by omega
  have whole' : 2 ^ ((m <<< k).log2 - 23) ∣ m <<< k := by
    rw [same, Nat.shiftLeft_eq]
    exact Nat.dvd_trans whole (Nat.dvd_mul_right _ _)
  obtain ⟨pos', eq⟩ := roundWithAccuracy_exact s (e := -(k : Int)) (by omega) (by omega) whole'
  have bounds := leading_bounds (m := m <<< k) (by omega)
  have exponent : ((m <<< k).log2 : Int) + -(k : Int) - 23 = m.log2 - 23 := by omega
  refine ⟨_, _, pos', eq, bounds.1, bounds.2, exponent, ?_⟩
  rw [wholePart, exponent, up, down, shift, same, Nat.shiftLeft_eq]
  -- Either nothing was appended or nothing is dropped.
  rcases Nat.eq_zero_or_pos k with none | some
  · rw [none, Nat.pow_zero, Nat.mul_one, Nat.div_one, Nat.div_mul_cancel whole]
  · rw [show m.log2 - 23 = 0 by omega, Nat.pow_zero, Nat.mul_one, Nat.div_one,
      Nat.mul_div_cancel _ (Nat.two_pow_pos k)]

end SensorHost.Single
