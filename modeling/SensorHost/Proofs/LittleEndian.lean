import Mathlib.Algebra.Group.Int.Defs
import Mathlib.Algebra.Group.Nat.Defs
import SensorHost.Bytes

/-!
# Integers written and read back

`unsigned_encode` and `signed_encode` say which integer is read back from the bytes of another:
the same one modulo the power of 256 that the width allows, in the range of an unsigned or of a
two's complement number. An integer of that range is read back unchanged.

Bytes above a number that only continue it do not change it: zeros above an unsigned number
(`unsigned_append_zeros`), copies of the sign above a two's complement one
(`signed_append_signBytes`).
-/

namespace SensorHost.LittleEndian

/-- A remainder by a multiple of 256 is the lowest byte and the remainder of what is above it. -/
theorem emod_byte (value : Int) {modulus : Nat} (pos : 0 < modulus) :
    value % ((modulus * 256 : Nat) : Int) = value % 256 + 256 * (value / 256 % modulus) := by
  have positive : (0 : Int) < modulus := by omega
  have low := Int.emod_nonneg (value / 256) (Int.ne_of_gt positive)
  have high := Int.emod_lt_of_pos (value / 256) positive
  have split : value = value % 256 + 256 * (value / 256 % modulus) +
      ((modulus * 256 : Nat) : Int) * (value / 256 / modulus) := by
    have upper := Int.emod_add_mul_ediv (value / 256) modulus
    have lower := Int.emod_add_mul_ediv value 256
    rw [Int.natCast_mul, Int.mul_comm (modulus : Int), Int.mul_assoc]
    omega
  calc value % ((modulus * 256 : Nat) : Int)
      = (value % 256 + 256 * (value / 256 % modulus)) % ((modulus * 256 : Nat) : Int) := by
        conv => lhs; rw [split]
        rw [Int.add_mul_emod_self_left]
    _ = value % 256 + 256 * (value / 256 % modulus) := by
        apply Int.emod_eq_of_lt <;> omega

/-- Read back without a sign, an integer is what it is modulo the power of 256. -/
theorem unsigned_encode (width : Nat) (value : Int) :
    (unsigned (encode width value) : Int) = value % (256 ^ width : Nat) := by
  induction width generalizing value with
  | zero => exact (Int.emod_one value).symm
  | succ n ih =>
      have first : ((UInt8.ofNat (value % 256).toNat).toNat : Int) = value % 256 := by
        rw [UInt8.toNat_ofNat']
        omega
      rw [encode, unsigned, Int.natCast_add, first, Int.natCast_mul, ih, Nat.pow_succ,
        emod_byte value (Nat.pow_pos (by decide))]
      rfl

theorem unsigned_encode_of_lt {width value : Nat} (h : value < 256 ^ width) :
    unsigned (encode width value) = value := by
  have := unsigned_encode width value
  rw [← Int.natCast_emod, Nat.mod_eq_of_lt h] at this
  exact Int.ofNat_inj.mp this

/-- The top bit of the last byte tells whether the number is in the upper half of its range. -/
theorem isNegative_iff {bytes : Frame} (nonempty : bytes ≠ []) :
    isNegative bytes = true ↔ 256 ^ bytes.length ≤ 2 * unsigned bytes := by
  induction bytes with
  | nil => contradiction
  | cons b rest ih =>
      cases rest with
      | nil =>
          simp only [isNegative, unsigned, List.getLast?_singleton, Option.any_some,
            decide_eq_true_eq, List.length_singleton]
          omega
      | cons c rest =>
          have step : isNegative (b :: c :: rest) = isNegative (c :: rest) := by
            simp [isNegative, List.getLast?_cons_cons]
          have low : b.toNat < 256 := UInt8.toNat_lt b
          -- Half of a power of 256 is a multiple of 256, so the lowest byte does not decide.
          have even : 256 ^ (c :: rest).length = 2 * (128 * 256 ^ rest.length) := by
            rw [List.length_cons, Nat.pow_succ]
            omega
          have power : 256 ^ (b :: c :: rest).length = 256 ^ (c :: rest).length * 256 :=
            Nat.pow_succ ..
          have value : unsigned (b :: c :: rest) = b.toNat + 256 * unsigned (c :: rest) := rfl
          rw [step, ih (List.cons_ne_nil c rest), power, value]
          omega

/-- Read back in two's complement, an integer is what it is modulo the power of 256, in the
balanced range. -/
theorem signed_encode {width : Nat} (pos : 0 < width) (value : Int) :
    signed (encode width value) = Int.bmod value (256 ^ width) := by
  have length := encode_length width value
  have nonempty : encode width value ≠ [] := by
    intro h
    rw [h] at length
    exact absurd length (by simpa using Nat.ne_of_lt pos)
  have residue := unsigned_encode width value
  have sign := isNegative_iff nonempty
  rw [length] at sign
  have even : 256 ^ width = 2 * (128 * 256 ^ (width - 1)) := by
    rw [show width = width - 1 + 1 by omega, Nat.pow_succ]
    simp only [Nat.add_sub_cancel]
    omega
  unfold signed Int.bmod
  rw [length]
  by_cases negative : isNegative (encode width value) = true
  · have upper := sign.mp negative
    rw [if_pos negative, if_neg (by omega), residue]
    rfl
  · have lower : ¬ 256 ^ width ≤ 2 * unsigned (encode width value) := fun h => negative (sign.mpr h)
    rw [if_neg negative, if_pos (by omega), residue]

/-- An integer of the two's complement range is read back as it is. -/
theorem signed_encode_of_range {width : Nat} (pos : 0 < width) {value : Int}
    (low : -(256 ^ width : Nat) ≤ 2 * value) (high : 2 * value < (256 ^ width : Nat)) :
    signed (encode width value) = value := by
  rw [signed_encode pos]
  exact Int.bmod_eq_of_le_mul_two (by omega) (by omega)

/-! ## Bytes that continue a number -/

theorem unsigned_append_zeros (bytes : Frame) (count : Nat) :
    unsigned (bytes ++ List.replicate count 0) = unsigned bytes := by
  induction bytes with
  | nil =>
      induction count with
      | zero => rfl
      | succ count ih =>
          have step : unsigned (0 :: List.replicate count 0) =
              0 + 256 * unsigned (List.replicate count 0) := rfl
          rw [List.nil_append] at ih ⊢
          rw [List.replicate_succ, step, ih]
          rfl
  | cons b rest ih => rw [List.cons_append, unsigned, unsigned, ih]

/-- Bytes of ones put a number just as far below the new power of 256 as it was below the old one. -/
theorem unsigned_append_ones (bytes : Frame) (count : Nat) :
    unsigned (bytes ++ List.replicate count 0xff) + 256 ^ bytes.length =
      unsigned bytes + 256 ^ (bytes.length + count) := by
  induction bytes with
  | nil =>
      induction count with
      | zero => rfl
      | succ count ih =>
          have step : unsigned (0xff :: List.replicate count 0xff) =
              255 + 256 * unsigned (List.replicate count 0xff) := rfl
          have none : unsigned [] = 0 := rfl
          simp only [List.nil_append, List.length_nil, Nat.zero_add, Nat.pow_zero, none] at ih ⊢
          rw [List.replicate_succ, step, Nat.pow_succ]
          omega
  | cons b rest ih =>
      have shifted : rest.length + 1 + count = rest.length + count + 1 := by omega
      rw [List.cons_append, unsigned, unsigned, List.length_cons, shifted, Nat.pow_succ, Nat.pow_succ]
      omega

/-- The byte that continues a two's complement number: ones if it is negative, else zeros. -/
def signByte (bytes : Frame) : UInt8 := if isNegative bytes then 0xff else 0

theorem isNegative_append_signBytes (bytes : Frame) (count : Nat) :
    isNegative (bytes ++ List.replicate count (signByte bytes)) = isNegative bytes := by
  cases count with
  | zero => rw [List.replicate_zero, List.append_nil]
  | succ count =>
      rw [isNegative, List.replicate_succ', ← List.append_assoc, List.getLast?_concat]
      cases negative : isNegative bytes <;> simp [signByte, negative]

theorem signed_append_signBytes (bytes : Frame) (count : Nat) :
    signed (bytes ++ List.replicate count (signByte bytes)) = signed bytes := by
  unfold signed
  rw [isNegative_append_signBytes]
  cases negative : isNegative bytes with
  | true =>
      have ones := unsigned_append_ones bytes count
      simp only [signByte, negative, if_true, List.length_append, List.length_replicate]
      simp only [Nat.pow_eq]
      omega
  | false =>
      simp only [signByte, negative, Bool.false_eq_true, if_false]
      rw [unsigned_append_zeros]

end SensorHost.LittleEndian
