import Mathlib.Algebra.Group.Nat.Defs
import SensorHost.Operator.Encoding

/-!
# Flag bytes

A flag byte is made of slots that do not overlap. Read at the position of one of them, the others
are zero (`slot_apart`), and the slot gives back what its mask let through (`slot_shiftRight`). As a
number, the byte is the sum of its slots (`toNat_or_slot`).
-/

namespace SensorHost.Operator

variable {value mask position kept : UInt8}

theorem or_and (a b kept : UInt8) : (a ||| b) &&& kept = (a &&& kept) ||| (b &&& kept) := by
  apply UInt8.eq_of_toBitVec_eq
  exact BitVec.and_or_distrib_right

theorem slot_eq : slot value mask position = value <<< position &&& mask <<< position :=
  UInt8.shiftLeft_and

/-- A slot is not seen through a mask that it lies beside. -/
theorem slot_and_of_apart (apart : mask <<< position &&& kept = 0) :
    slot value mask position &&& kept = 0 := by
  rw [slot_eq, UInt8.and_assoc, apart, UInt8.and_zero]

/-- A slot is seen whole through a mask that covers it. -/
theorem slot_and_of_covered (covered : mask <<< position &&& kept = mask <<< position) :
    slot value mask position &&& kept = slot value mask position := by
  rw [slot_eq, UInt8.and_assoc, covered]

/-- The slot at the lowest position is the masked value. -/
theorem slot_zero : slot value mask 0 = value &&& mask := by
  rw [slot, UInt8.shiftLeft_zero]

/-- A slot is not seen at the position of another one. -/
theorem slot_apart {other : UInt8} (apart : (mask <<< position) >>> other &&& kept = 0) :
    slot value mask position >>> other &&& kept = 0 := by
  rw [slot_eq, UInt8.shiftRight_and, UInt8.and_assoc, apart, UInt8.and_zero]

/-- A slot whose mask fits in the byte gives back the masked value. -/
theorem slot_shiftRight (fits : (mask <<< position) >>> position = mask) :
    slot value mask position >>> position = value &&& mask := by
  apply UInt8.eq_of_toBitVec_eq
  have bits := congrArg UInt8.toBitVec fits
  simp only [UInt8.toBitVec_shiftRight, UInt8.toBitVec_shiftLeft] at bits
  simp only [slot, UInt8.toBitVec_shiftRight, UInt8.toBitVec_shiftLeft, UInt8.toBitVec_and]
  ext i hi
  have bit := congrArg (fun b => b.getLsbD i) bits
  simp only [BitVec.ushiftRight_eq', BitVec.shiftLeft_eq', BitVec.getLsbD_ushiftRight,
    BitVec.getLsbD_shiftLeft] at bit
  simp only [← BitVec.getLsbD_eq_getElem, BitVec.ushiftRight_eq', BitVec.shiftLeft_eq',
    BitVec.getLsbD_ushiftRight, BitVec.getLsbD_shiftLeft, BitVec.getLsbD_and]
  rw [← bit, Nat.add_sub_cancel_left]
  ac_rfl

/-- A slot with room in the byte holds the lowest bits of the value. -/
theorem toNat_slot (bits : Nat) (low : mask.toNat = 2 ^ bits - 1) (inside : position.toNat < 8)
    (room : bits + position.toNat ≤ 8) :
    (slot value mask position).toNat = value.toNat % 2 ^ bits * 2 ^ position.toNat := by
  have small : value.toNat % 2 ^ bits * 2 ^ position.toNat < 2 ^ 8 :=
    calc value.toNat % 2 ^ bits * 2 ^ position.toNat
        < 2 ^ bits * 2 ^ position.toNat :=
          Nat.mul_lt_mul_of_pos_right (Nat.mod_lt _ (Nat.two_pow_pos bits)) (Nat.two_pow_pos _)
      _ = 2 ^ (bits + position.toNat) := (Nat.pow_add ..).symm
      _ ≤ 2 ^ 8 := Nat.pow_le_pow_right (by decide) room
  rw [slot, UInt8.toNat_shiftLeft, UInt8.toNat_and, low, Nat.and_two_pow_sub_one_eq_mod,
    Nat.mod_eq_of_lt inside, Nat.shiftLeft_eq, Nat.mod_eq_of_lt small]

/-- A slot adds to what lies below it. -/
theorem toNat_or_slot {below : UInt8} (beside : below.toNat < 2 ^ position.toNat) (bits : Nat)
    (low : mask.toNat = 2 ^ bits - 1) (inside : position.toNat < 8)
    (room : bits + position.toNat ≤ 8) :
    (below ||| slot value mask position).toNat =
      value.toNat % 2 ^ bits * 2 ^ position.toNat + below.toNat := by
  rw [UInt8.toNat_or, toNat_slot bits low inside room, Nat.or_comm, ← Nat.shiftLeft_eq,
    Nat.shiftLeft_add_eq_or_of_lt beside]

/-- A number from one to a power of two, written less one in as many bits. -/
theorem lessOne_and (low : 1 ≤ value) {width : Nat} (high : value.toNat ≤ 2 ^ width)
    (narrow : width < 8) : (value - 1 &&& UInt8.ofNat (2 ^ width - 1)) + 1 = value := by
  have one : 1 ≤ value.toNat := low
  have power : 2 ^ width ≤ 2 ^ 7 := Nat.pow_le_pow_right (by decide) (by omega)
  apply UInt8.toNat_inj.mp
  rw [UInt8.toNat_add, UInt8.toNat_and, UInt8.toNat_sub_of_le _ _ low, UInt8.toNat_ofNat',
    show (2 ^ width - 1) % 2 ^ 8 = 2 ^ width - 1 by omega, Nat.and_two_pow_sub_one_eq_mod,
    show UInt8.toNat 1 = 1 from rfl, Nat.mod_eq_of_lt (by omega : value.toNat - 1 < 2 ^ width)]
  omega

end SensorHost.Operator
