import SensorHost.Number.Shortest

/-!
# Shortest decimals of positive numbers

The shortest decimal for a single other than zero has a digit other than zero, unless no power of
ten that is tried has a multiple among the numbers that round to it (`Single.shortest_pos`).
-/

namespace SensorHost

namespace RoundingCell

/-- A cell of positive numbers holds no multiple but of positive numbers. -/
theorem pos_of_multiple? {c : RoundingCell} (pos : 0 < c.low) {e : Int} {digits : Nat}
    (h : c.multiple? e = some digits) : 0 < digits := by
  unfold multiple? at h
  simp only at h
  have unit : 0 < c.low * (Nat.pow 2 c.exponent.toNat * Nat.pow 10 (-e).toNat) :=
    Nat.mul_pos pos (Nat.mul_pos (Nat.pow_pos (by decide)) (Nat.pow_pos (by decide)))
  generalize c.low * (Nat.pow 2 c.exponent.toNat * Nat.pow 10 (-e).toNat) = low at unit h
  generalize Nat.pow 2 (-c.exponent).toNat * Nat.pow 10 e.toNat = step at h
  generalize c.value * (Nat.pow 2 c.exponent.toNat * Nat.pow 10 (-e).toNat) = value at h
  generalize c.high * (Nat.pow 2 c.exponent.toNat * Nat.pow 10 (-e).toNat) = high at h
  generalize value / step = below at h
  rcases Nat.eq_zero_or_pos below with rfl | big
  · -- Zero lies below the cell, so the multiple can only be the one above it.
    have outside : (if c.closed = true then decide (low ≤ 0 * step) && decide (0 * step ≤ high)
        else decide (low < 0 * step) && decide (0 * step < high)) = false := by
      have above : ¬low ≤ 0 := Nat.not_le.mpr unit
      simp only [Nat.zero_mul, above, Nat.not_lt_zero, decide_false, Bool.false_and, ite_self]
    rw [outside] at h
    split at h <;> first | contradiction | (cases h; exact Nat.succ_pos _)
  · split at h
    · split at h
      · cases h
        exact big
      · split at h
        · cases h
          exact Nat.succ_pos _
        · cases h
          split <;> omega
    · cases h
      exact big
    · cases h
      exact Nat.succ_pos _
    · contradiction

/-- A search finds a positive number or nothing. -/
theorem pos_search {c : RoundingCell} (pos : 0 < c.low) (count : Nat) (e : Int) :
    0 < (c.search count e).digits ∨ c.search count e = ⟨0, 0⟩ := by
  induction count generalizing e with
  | zero => exact .inr rfl
  | succ count ih =>
      unfold search
      cases found : c.multiple? e with
      | none => exact ih (e - 1)
      | some digits => exact .inl (pos_of_multiple? pos found)

end RoundingCell

namespace Single

/-- A single is determined by its bits. -/
theorem ext_bits {x y : Float32} (same : x.toBits = y.toBits) : x = y := by
  obtain ⟨⟨bits, valid⟩⟩ := x
  obtain ⟨⟨bits', valid'⟩⟩ := y
  obtain rfl : bits = bits' := same
  rfl

/-- Zero and its negative are the singles of which no bit below the sign is set. -/
theorem eq_zero_of_bits {x : Float32} (clear : x.toBits.toNat % 0x80000000 = 0) :
    (x == 0) = true := by
  have bound : x.toBits.toNat < 2 ^ 32 := x.toBits.toNat_lt
  have zero : (0 : Float32).toBits = 0 := by decide +kernel
  have negative : (-0 : Float32).toBits = 0x80000000 := by decide +kernel
  have bits : x.toBits = 0 ∨ x.toBits = 0x80000000 := by
    rw [← UInt32.toNat_inj, ← UInt32.toNat_inj]
    simp
    omega
  rcases bits with bits | bits
  · rw [ext_bits (bits.trans zero.symm)]
    decide +kernel
  · rw [ext_bits (bits.trans negative.symm)]
    decide +kernel

theorem low_pos {x : Float32} (nonzero : (x == 0) = false) : 0 < (RoundingCell.ofSingle x).low := by
  have bits : x.toBits.toNat % 0x80000000 ≠ 0 := by
    intro clear
    rw [eq_zero_of_bits clear] at nonzero
    contradiction
  unfold RoundingCell.ofSingle RoundingCell.ofParts
  simp only
  split <;> split <;> omega

theorem shortest_pos {x : Float32} (nonzero : (x == 0) = false) :
    0 < (shortest x).digits ∨ shortest x = ⟨0, 0⟩ :=
  RoundingCell.pos_search (low_pos nonzero) 86 39

end Single

end SensorHost
