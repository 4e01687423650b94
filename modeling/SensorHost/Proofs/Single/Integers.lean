import SensorHost.Proofs.Single.Rounding

/-!
# Singles, integers and reciprocals

What a single keeps when it is cut to an integer and that integer is taken as a single again:
its sign and whether it reaches one (`reachesOne_ofInt_toInt32`), and the integer itself
(`toInt32_ofInt_toInt32`). A fraction keeps neither, but its reciprocal does
(`reachesOne_one_div`).
-/

namespace SensorHost.Single

open Float.Model Float.Model.UnpackedFloat

/-! ## Singles -/

/-- The number that the bits of a single stand for. -/
def parts (x : Float32) : UnpackedFloat := x.toModel.unpack

theorem wellformed_parts (x : Float32) : Wellformed (parts x) := wellformed_unpack _

theorem parts_zero : parts 0 = .zero .positive := rfl

theorem parts_one : ∃ pos, parts 1 = .finite .positive (2 ^ 23) (-23) pos := ⟨by decide, rfl⟩

theorem lt_iff (x y : Float32) : x < y ↔ (parts x).lt (parts y) = true := by
  show (decide (x.toModel.lt y.toModel = true) = true) ↔ _
  rw [decide_eq_true_iff]
  rfl

theorem parts_abs (x : Float32) : parts x.abs = (parts x).abs := by
  show held (parts x).abs = _
  have h := wellformed_parts x
  cases hx : parts x with
  | infinity s => exact held_infinity _
  | notANumber => exact held_notANumber
  | zero s => exact held_zero _
  | finite s m e pos =>
      rw [hx] at h
      exact held_finite pos h.1 h.2

theorem bne_zero_iff (x : Float32) : (x != 0) = true ↔ ∀ s, parts x ≠ .zero s := by
  have h : (x == 0) = (parts x).beq (.zero .positive) := rfl
  rw [bne, h]
  cases hx : parts x with
  | infinity s => cases s <;> simp [UnpackedFloat.beq, UnpackedFloat.compare]
  | notANumber => simp [UnpackedFloat.beq, UnpackedFloat.compare]
  | zero s => simp [UnpackedFloat.beq, UnpackedFloat.compare]
  | finite s m e pos => cases s <;> simp [UnpackedFloat.beq, UnpackedFloat.compare]

theorem isNaN_iff (x : Float32) : x.isNaN = true ↔ parts x = .notANumber := by
  show (parts x).isNaN = true ↔ _
  cases parts x <;> simp [UnpackedFloat.isNaN]

/-- A number with this sign that is one or more without it. -/
def ReachesOne (s : Sign) : UnpackedFloat → Prop
  | .infinity s' => s' = s
  | .finite s' m e _ => s' = s ∧ 2 ^ 23 ≤ m ∧ -23 ≤ e
  | _ => False

theorem forms_of_reachesOne {x : Float32} {s : Sign} (h : ReachesOne s (parts x)) :
    parts x = .infinity s ∨
      ∃ m e pos, parts x = .finite s m e pos ∧ 2 ^ 23 ≤ m ∧ -23 ≤ e := by
  cases hx : parts x with
  | infinity s' =>
      rw [hx] at h
      obtain rfl : s' = s := h
      exact .inl rfl
  | notANumber => rw [hx] at h; exact h.elim
  | zero s' => rw [hx] at h; exact h.elim
  | finite s' m e pos =>
      rw [hx] at h
      obtain ⟨rfl, large, high⟩ := h
      exact .inr ⟨m, e, pos, rfl, large, high⟩

theorem lt_zero_of_reachesOne {x : Float32} {s : Sign} (h : ReachesOne s (parts x)) :
    x < 0 ↔ s = .negative := by
  rw [lt_iff, parts_zero]
  rcases forms_of_reachesOne h with form | ⟨m, e, pos, form, -⟩ <;> rw [form] <;>
    cases s <;> simp [UnpackedFloat.lt, UnpackedFloat.compare]

theorem not_abs_lt_one_of_reachesOne {x : Float32} {s : Sign} (h : ReachesOne s (parts x)) :
    ¬ x.abs < 1 := by
  obtain ⟨onePos, one⟩ := parts_one
  rw [lt_iff, parts_abs, one]
  rcases forms_of_reachesOne h with form | ⟨m, e, pos, form, large, high⟩
  · rw [form]
    simp [UnpackedFloat.abs, UnpackedFloat.lt, UnpackedFloat.compare]
  · rw [form]
    simp only [UnpackedFloat.abs, UnpackedFloat.lt, UnpackedFloat.compare]
    rcases Int.lt_or_eq_of_le high with lt | eq
    · rw [Std.OrientedCmp.gt_iff_lt.mpr (Int.compare_eq_lt.mpr lt)]
      simp
    · rw [← eq, Std.compare_self, Ordering.then]
      intro below
      have : m < 2 ^ 23 := Nat.compare_eq_lt.mp (by simpa using below)
      omega

/-- A number with this sign that is neither zero nor reaches one. -/
def IsFraction (s : Sign) : UnpackedFloat → Prop
  | .finite s' m e _ => s' = s ∧ (m.log2 : Int) + e < 0 ∧ Canonical m e
  | _ => False

theorem form_of_isFraction {x : Float32} {s : Sign} (h : IsFraction s (parts x)) :
    ∃ m e pos, parts x = .finite s m e pos ∧ (m.log2 : Int) + e < 0 ∧ Canonical m e := by
  cases hx : parts x with
  | infinity s' => rw [hx] at h; exact h.elim
  | notANumber => rw [hx] at h; exact h.elim
  | zero s' => rw [hx] at h; exact h.elim
  | finite s' m e pos =>
      rw [hx] at h
      obtain ⟨rfl, fraction, canonical⟩ := h
      exact ⟨m, e, pos, rfl, fraction, canonical⟩

theorem lt_zero_of_isFraction {x : Float32} {s : Sign} (h : IsFraction s (parts x)) :
    x < 0 ↔ s = .negative := by
  obtain ⟨m, e, pos, form, -⟩ := form_of_isFraction h
  rw [lt_iff, parts_zero, form]
  cases s <;> simp [UnpackedFloat.lt, UnpackedFloat.compare]

theorem abs_lt_one_of_isFraction {x : Float32} {s : Sign} (h : IsFraction s (parts x)) :
    x.abs < 1 := by
  obtain ⟨onePos, one⟩ := parts_one
  obtain ⟨m, e, pos, form, below, small, -, full⟩ := form_of_isFraction h
  rw [lt_iff, parts_abs, one, form]
  have log : 2 ^ 23 ≤ m → 23 ≤ m.log2 := fun large => (Nat.le_log2 (by omega)).mpr large
  have lower : e < -23 := by omega
  simp only [UnpackedFloat.abs, UnpackedFloat.lt, UnpackedFloat.compare]
  rw [Int.compare_eq_lt.mpr lower]
  rfl

theorem bne_zero_of_isFraction {x : Float32} {s : Sign} (h : IsFraction s (parts x)) :
    (x != 0) = true := by
  rw [bne_zero_iff]
  intro s' zero
  rw [zero] at h
  exact h

theorem not_lt_zero_of_zero {x : Float32} {s : Sign} (h : parts x = .zero s) : ¬ x < 0 := by
  rw [lt_iff, parts_zero, h]
  simp [UnpackedFloat.lt, UnpackedFloat.compare]

theorem abs_lt_one_of_zero {x : Float32} {s : Sign} (h : parts x = .zero s) : x.abs < 1 := by
  obtain ⟨onePos, one⟩ := parts_one
  rw [lt_iff, parts_abs, one, h]
  rfl

/-- A number reaches one, is a zero or is a fraction. -/
theorem reachesOne_or_zero_or_isFraction {x : Float32} (number : x.isNaN = false) :
    ∃ s, ReachesOne s (parts x) ∨ parts x = .zero s ∨ IsFraction s (parts x) := by
  have h := wellformed_parts x
  cases hx : parts x with
  | infinity s => exact ⟨s, .inl rfl⟩
  | notANumber =>
      rw [(isNaN_iff x).mpr hx] at number
      contradiction
  | zero s => exact ⟨s, .inr (.inl rfl)⟩
  | finite s m e pos =>
      rw [hx] at h
      obtain ⟨canonical, high⟩ := h
      have log : m.log2 < 24 := (Nat.log2_lt (by omega)).mpr canonical.1
      by_cases large : 2 ^ 23 ≤ m ∧ -23 ≤ e
      · exact ⟨s, .inl ⟨rfl, large⟩⟩
      · refine ⟨s, .inr (.inr ⟨rfl, ?_, canonical⟩)⟩
        obtain ⟨small, low, full⟩ := canonical
        omega

/-! ## Integers -/

theorem toInt_ofIntClamp (n : Int) :
    (Int32.ofIntClamp n).toInt = max (-2 ^ 31) (min n (2 ^ 31 - 1)) := by
  have low : Int32.minValue.toInt = -2 ^ 31 := rfl
  have high : Int32.maxValue.toInt = 2 ^ 31 - 1 := rfl
  unfold Int32.ofIntClamp
  split
  · split
    · rw [Int32.toInt_ofIntLE]
      omega
    · omega
  · omega

theorem toInt32_eq (x : Float32) :
    toInt32 x = max (-2 ^ 31) (min ((parts x).toInt (-2 ^ 31) (2 ^ 31 - 1)) (2 ^ 31 - 1)) :=
  toInt_ofIntClamp _

/-- The sign of an integer. -/
def signOf (n : Int) : Sign := if n < 0 then .negative else .positive

theorem signOf_of_neg {n : Int} (h : n < 0) : signOf n = .negative := if_pos h

theorem signOf_of_nonneg {n : Int} (h : 0 ≤ n) : signOf n = .positive := if_neg (by omega)

theorem parts_ofInt {n : Int} (h : n ≠ 0) :
    parts (ofInt n) = held (UnpackedFloat.round Format.binary32 (signOf n) n.natAbs 0) := by
  show held (UnpackedFloat.normalize Format.binary32 n 0 .positive) = _
  congr 1
  unfold UnpackedFloat.normalize signOf
  rcases Int.lt_trichotomy n 0 with neg | zero | pos
  · rw [Int.compare_eq_lt.mpr neg, if_pos neg]
    simp only
    congr 1
    omega
  · exact absurd zero h
  · rw [Int.compare_eq_gt.mpr pos, if_neg (by omega)]
    simp only
    congr 1
    omega

/-- An integer other than zero becomes a number of its sign that is one or more. -/
theorem reachesOne_ofInt {n : Int} (h : n ≠ 0) : ReachesOne (signOf n) (parts (ofInt n)) := by
  rw [parts_ofInt h]
  obtain ⟨m, e, pos, eq, low, high, exponent⟩ :=
    round_nat_normal (signOf n) (Int.natAbs_pos.mpr h)
  rw [eq]
  by_cases fits : e ≤ 104
  · rw [held_finite pos ⟨high, by omega, .inl low⟩ fits]
    exact ⟨rfl, low, exponent⟩
  · rw [held_overflow pos (by omega)]
    rfl

theorem wholePart_pos {m : Nat} {e : Int} (large : 2 ^ 23 ≤ m) (high : -23 ≤ e) :
    0 < wholePart m e := by
  refine Nat.div_pos ?_ (Nat.two_pow_pos _)
  calc 2 ^ (-e).toNat ≤ 2 ^ 23 := Nat.pow_le_pow_right (by decide) (by omega)
    _ ≤ m := large
    _ ≤ m * 2 ^ e.toNat := Nat.le_mul_of_pos_right m (Nat.two_pow_pos _)

/-- The integer part of a number that is one or more, held to a range around zero, is not zero and
has the sign of the number. -/
theorem clamp_toInt_of_reachesOne {x : Float32} {s : Sign} (h : ReachesOne s (parts x))
    {low high : Int} (below : low < 0) (above : 0 < high) :
    max low (min ((parts x).toInt low high) high) ≠ 0 ∧
      signOf (max low (min ((parts x).toInt low high) high)) = s := by
  rcases forms_of_reachesOne h with form | ⟨m, e, pos, form, large, reach⟩
  · rw [form]
    cases s with
    | negative =>
        rw [show (UnpackedFloat.infinity .negative).toInt low high = low from rfl]
        exact ⟨by omega, signOf_of_neg (by omega)⟩
    | positive =>
        rw [show (UnpackedFloat.infinity .positive).toInt low high = high from rfl]
        exact ⟨by omega, signOf_of_nonneg (by omega)⟩
  · have whole := wholePart_pos large reach
    rw [form, UnpackedFloat.toInt, roundToInt_eq]
    cases s with
    | negative =>
        rw [show Sign.negative.apply (wholePart m e) = -(wholePart m e : Int) from rfl]
        exact ⟨by omega, signOf_of_neg (by omega)⟩
    | positive =>
        rw [show Sign.positive.apply (wholePart m e) = (wholePart m e : Int) from rfl]
        exact ⟨by omega, signOf_of_nonneg (by omega)⟩

theorem toInt32_of_reachesOne {x : Float32} {s : Sign} (h : ReachesOne s (parts x)) :
    toInt32 x ≠ 0 ∧ signOf (toInt32 x) = s := by
  rw [toInt32_eq]
  exact clamp_toInt_of_reachesOne h (by decide) (by decide)

theorem apply_signOf (n : Int) : (signOf n).apply n.natAbs = n := by
  by_cases h : n < 0
  · rw [signOf_of_neg h]
    show -(n.natAbs : Int) = n
    omega
  · rw [signOf_of_nonneg (by omega)]
    show (n.natAbs : Int) = n
    omega

theorem toInt32_range (x : Float32) : -2 ^ 31 ≤ toInt32 x ∧ toInt32 x ≤ 2 ^ 31 - 1 := by
  rw [toInt32_eq]
  omega

/-- The integer part of a significand of 24 bits is such a significand and zeros. -/
theorem whole_wholePart {m : Nat} {e : Int} (pos : 0 < m) (small : m < 2 ^ 24) :
    2 ^ ((wholePart m e).log2 - 23) ∣ wholePart m e := by
  by_cases h : 0 ≤ e
  · -- Zeros are appended.
    have down : (-e).toNat = 0 := by omega
    have part : wholePart m e = m <<< e.toNat := by
      rw [wholePart, down, Nat.pow_zero, Nat.div_one, Nat.shiftLeft_eq]
    have log : m.log2 < 24 := (Nat.log2_lt (by omega)).mpr small
    rw [part, log2_shiftLeft pos, Nat.shiftLeft_eq]
    exact Nat.dvd_trans (Nat.pow_dvd_pow 2 (by omega)) (Nat.dvd_mul_left _ _)
  · -- Bits are dropped, so no more than 24 are left.
    have up : e.toNat = 0 := by omega
    have less : wholePart m e ≤ m := by
      rw [wholePart, up, Nat.pow_zero, Nat.mul_one]
      exact Nat.div_le_self _ _
    have log : (wholePart m e).log2 - 23 = 0 := by
      by_cases zero : wholePart m e = 0
      · rw [zero]; rfl
      · have := (Nat.log2_lt zero).mpr (Nat.lt_of_le_of_lt less small)
        omega
    rw [log, Nat.pow_zero]
    exact Nat.one_dvd _

/-- What is beyond the range of 32 bits becomes one of its ends. -/
theorem clamp_apply (s : Sign) (k : Nat) {n : Int}
    (h : n = max (-2 ^ 31) (min (s.apply k) (2 ^ 31 - 1))) :
    n = 2 ^ 31 - 1 ∨ n.natAbs = 2 ^ 31 ∨ n.natAbs = k := by
  cases s with
  | negative =>
      rw [show Sign.negative.apply k = -(k : Int) from rfl] at h
      omega
  | positive =>
      rw [show Sign.positive.apply k = (k : Int) from rfl] at h
      omega

/-- The integer that a single is cut to is the largest one, or has no more than 24 bits before its
zeros. -/
theorem toInt32_whole (x : Float32) :
    toInt32 x = 2 ^ 31 - 1 ∨ 2 ^ ((toInt32 x).natAbs.log2 - 23) ∣ (toInt32 x).natAbs := by
  have form := wellformed_parts x
  have range := toInt32_eq x
  cases hx : parts x with
  | notANumber =>
      rw [hx] at range
      exact .inr (by rw [range]; decide)
  | zero s =>
      rw [hx] at range
      have none : toInt32 x = 0 := range
      exact .inr (by rw [none]; decide)
  | infinity s =>
      rw [hx] at range
      cases s with
      | positive => exact .inl range
      | negative => exact .inr (by rw [range]; decide)
  | finite s m e pos =>
      rw [hx] at range form
      have whole := whole_wholePart (e := e) pos form.1.1
      rw [UnpackedFloat.toInt, roundToInt_eq] at range
      rcases clamp_apply s _ range with top | lowest | kept
      · exact .inl top
      · rw [lowest]
        exact .inr (by decide)
      · rw [kept]
        exact .inr whole

/-- An integer with no more than 24 bits before its zeros is kept. -/
theorem toInt32_ofInt {n : Int} (low : -2 ^ 31 ≤ n) (high : n ≤ 2 ^ 31 - 1)
    (whole : 2 ^ (n.natAbs.log2 - 23) ∣ n.natAbs) : toInt32 (ofInt n) = n := by
  by_cases zero : n = 0
  · rw [zero]
    rfl
  obtain ⟨m, e, pos, eq, large, small, exponent, value⟩ :=
    round_nat_exact (signOf n) (Int.natAbs_pos.mpr zero) whole
  have log : n.natAbs.log2 < 32 := (Nat.log2_lt (by omega)).mpr (by omega)
  have form : parts (ofInt n) = .finite (signOf n) m e pos := by
    rw [parts_ofInt zero, eq]
    exact held_finite pos ⟨small, by omega, .inl large⟩ (by omega)
  rw [toInt32_eq, form, UnpackedFloat.toInt, roundToInt_eq, value, apply_signOf]
  omega

/-- Cutting to an integer, taking that as a single and cutting again gives the same integer. -/
theorem toInt32_ofInt_toInt32 (x : Float32) : toInt32 (ofInt (toInt32 x)) = toInt32 x := by
  rcases toInt32_whole x with top | whole
  · rw [top]
    rfl
  · exact toInt32_ofInt (toInt32_range x).1 (toInt32_range x).2 whole

/-- The sign of a number that is one or more, and that it is, survive being cut to an integer. -/
theorem reachesOne_ofInt_toInt32 {x : Float32} {s : Sign} (h : ReachesOne s (parts x)) :
    ReachesOne s (parts (ofInt (toInt32 x))) := by
  obtain ⟨nonzero, sign⟩ := toInt32_of_reachesOne h
  rw [← sign]
  exact reachesOne_ofInt nonzero

theorem toInt32_of_zero {x : Float32} {s : Sign} (h : parts x = .zero s) : toInt32 x = 0 := by
  rw [toInt32_eq, h]
  rfl

/-- A zero, and a number that reaches one, keep their sign and whether they reach one when they are
cut to an integer. -/
theorem ofInt_toInt32_of_whole {x : Float32} {s : Sign}
    (whole : ReachesOne s (parts x) ∨ parts x = .zero s) :
    (ofInt (toInt32 x) < 0 ↔ x < 0) ∧ ((ofInt (toInt32 x)).abs < 1 ↔ x.abs < 1) := by
  rcases whole with reaches | zero
  · have cut := reachesOne_ofInt_toInt32 reaches
    rw [lt_zero_of_reachesOne reaches, lt_zero_of_reachesOne cut]
    exact ⟨Iff.rfl, iff_of_false (not_abs_lt_one_of_reachesOne cut)
      (not_abs_lt_one_of_reachesOne reaches)⟩
  · have cut : parts (ofInt (toInt32 x)) = .zero .positive := by
      rw [toInt32_of_zero zero]
      rfl
    exact ⟨iff_of_false (not_lt_zero_of_zero cut) (not_lt_zero_of_zero zero),
      iff_of_true (abs_lt_one_of_zero cut) (abs_lt_one_of_zero zero)⟩

/-! ## Reciprocals -/

theorem one_div_form (x : Float32) :
    parts (1 / x) = held (UnpackedFloat.div Format.binary32 (parts 1) (parts x)) := rfl

/-- The reciprocal of a fraction has its sign and is one or more. -/
theorem reachesOne_one_div {x : Float32} {s : Sign} (h : IsFraction s (parts x)) :
    ReachesOne s (parts (1 / x)) := by
  obtain ⟨m, e, pos, form, fraction, small, low, full⟩ := form_of_isFraction h
  obtain ⟨onePos, one⟩ := parts_one
  have sign : Sign.positive / s = s := by cases s <;> rfl
  -- The quotient is brought to the exponent at which it has 24 bits, or 25 if it is a power of two.
  have target : min (-23 - e) (Format.binary32.targetExponent
      (totalExponent (2 ^ 23) (-23) - totalExponent m e)) = -24 - m.log2 - e := by
    simp only [Format.targetExponent, totalExponent, Format.mantissaBits, Format.minExponent,
      Nat.log2_two_pow]
    omega
  have amount : (-23 - e - (-24 - (m.log2 : Int) - e)).toNat = m.log2 + 1 := by omega
  have quotient : divCore Format.binary32 (2 ^ 23) (-23) m e =
      (2 ^ 23 * 2 ^ (m.log2 + 1) / m, -24 - m.log2 - e,
        accuracyOfFraction (2 ^ 23 * 2 ^ (m.log2 + 1) % m) m) := by
    simp only [divCore, target, amount, Nat.shiftLeft_eq]
  have lower : 2 ^ 23 ≤ 2 ^ 23 * 2 ^ (m.log2 + 1) / m := by
    rw [Nat.le_div_iff_mul_le pos]
    exact Nat.mul_le_mul_left _ (Nat.le_of_lt Nat.lt_log2_self)
  have nonzero : 2 ^ 23 * 2 ^ (m.log2 + 1) / m ≠ 0 := by omega
  have wide : 23 ≤ (2 ^ 23 * 2 ^ (m.log2 + 1) / m).log2 := (Nat.le_log2 nonzero).mpr lower
  obtain ⟨m', e', pos', eq, large, small', exponent⟩ :=
    roundWithAccuracy_normal s (e := -24 - m.log2 - e)
      (accuracyOfFraction (2 ^ 23 * 2 ^ (m.log2 + 1) % m) m) wide (by omega)
  rw [one_div_form, one, form, UnpackedFloat.div, quotient]
  simp only [sign, eq]
  -- The reciprocal of the smallest fractions is beyond the largest number.
  by_cases fits : e' ≤ 104
  · rw [held_finite pos' ⟨small', by omega, .inl large⟩ fits]
    exact ⟨rfl, large, by omega⟩
  · rw [held_overflow pos' (by omega)]
    rfl

/-- The reciprocal of a fraction keeps the sign of the fraction, and that it reaches one, when it is
cut to an integer. -/
theorem ofInt_toInt32_one_div {x : Float32} {s : Sign} (fraction : IsFraction s (parts x)) :
    (ofInt (toInt32 (1 / x)) < 0 ↔ x < 0) ∧ ¬ (ofInt (toInt32 (1 / x))).abs < 1 := by
  have cut := reachesOne_ofInt_toInt32 (reachesOne_one_div fraction)
  rw [lt_zero_of_isFraction fraction, lt_zero_of_reachesOne cut]
  exact ⟨Iff.rfl, not_abs_lt_one_of_reachesOne cut⟩

end SensorHost.Single
