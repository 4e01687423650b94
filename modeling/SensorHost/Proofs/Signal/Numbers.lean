import Mathlib.Algebra.BigOperators.Ring.Finset
import SensorHost.Proofs.LittleEndian
import SensorHost.Signal.Decoding

/-!
# The number in a field

`widen` reads the number that starts a payload. It looks at no more bytes than the payload and the field
have, and at no more than eight. These bytes count as powers of 256, and the last of them carries the
sign, wherever the payload ends (`widen_number`). So an integer that fits in the field is read back from
its lowest bytes, whatever follows them.
-/

namespace SensorHost

namespace LittleEndian

/-- The number that bytes spell is the sum of their multiples of powers of 256. -/
theorem unsigned_eq_sum (bytes : Frame) :
    unsigned bytes = ∑ i ∈ Finset.range bytes.length, (bytes.getD i 0).toNat * 256 ^ i := by
  induction bytes with
  | nil => rfl
  | cons b rest ih =>
      have above (i : Nat) : ((b :: rest).getD (i + 1) 0).toNat * 256 ^ (i + 1) =
          256 * ((rest.getD i 0).toNat * 256 ^ i) := by
        rw [List.getD_cons_succ, Nat.pow_succ, Nat.mul_comm (256 ^ i), Nat.mul_left_comm]
      rw [unsigned, List.length_cons, Finset.sum_range_succ', List.getD_cons_zero, Nat.pow_zero,
        Nat.mul_one, Nat.add_comm, ih, Finset.mul_sum]
      simp only [above]

/-- The bytes of a part count as they do in the whole. -/
theorem unsigned_take (bytes : Frame) (count : Nat) :
    unsigned (bytes.take count) =
      ∑ i ∈ Finset.range (min bytes.length count), (bytes.getD i 0).toNat * 256 ^ i := by
  rw [unsigned_eq_sum, List.length_take, Nat.min_comm]
  refine Finset.sum_congr rfl fun i mem => ?_
  have inside : i < count := by
    have := Finset.mem_range.mp mem
    omega
  rw [List.getD_eq_getElem?_getD, List.getElem?_take_of_lt inside, ← List.getD_eq_getElem?_getD]

/-- The sign of a part is the top bit of its last byte; a part without bytes has none. -/
theorem isNegative_take_iff (bytes : Frame) (count : Nat) :
    isNegative (bytes.take count) = true ↔
      0 < min bytes.length count ∧ 128 ≤ (bytes.getD (min bytes.length count - 1) 0).toNat := by
  have last : (bytes.take count).getLast? =
      if 0 < min bytes.length count then bytes[min bytes.length count - 1]? else none := by
    rw [List.getLast?_eq_getElem?, List.length_take, Nat.min_comm]
    split
    · exact List.getElem?_take_of_lt (by omega)
    · exact List.getElem?_eq_none (by rw [List.length_take]; omega)
  rw [isNegative, last]
  split
  · rename_i some
    have inside : min bytes.length count - 1 < bytes.length := by omega
    rw [List.getD_eq_getElem?_getD, List.getElem?_eq_getElem inside]
    simp [some]
  · rename_i none
    simp [none]

/-- The lowest bytes of an integer are the first of its bytes. -/
theorem take_encode_of_le {width limit : Nat} (inside : width ≤ limit) (value : Int) :
    (encode limit value).take width = encode width value := by
  induction width generalizing limit value with
  | zero => rfl
  | succ width ih =>
      obtain ⟨limit, rfl⟩ : ∃ k, limit = k + 1 := ⟨limit - 1, by omega⟩
      rw [encode, List.take_succ_cons, ih (by omega), encode]

end LittleEndian

/-- The lowest bytes of an integer, as a field of their number reads them. -/
theorem take_field_encode {width : Nat} (narrow : width ≤ 8) (value : Int) (rest : Frame) :
    ((LittleEndian.encode 8 value).take width ++ rest).take (min width 8) =
      LittleEndian.encode width value := by
  rw [LittleEndian.take_encode_of_le narrow, Nat.min_eq_left narrow]
  exact List.take_left' (LittleEndian.encode_length width value)

theorem widen_signed_encode {width : Nat} (positive : 0 < width) (narrow : width ≤ 8) {value : Int}
    (low : -(256 ^ width : Nat) ≤ 2 * value) (high : 2 * value < (256 ^ width : Nat)) (rest : Frame) :
    widen ((LittleEndian.encode 8 value).take width ++ rest) width true = value := by
  rw [widen, take_field_encode narrow, if_pos rfl]
  exact LittleEndian.signed_encode_of_range positive low high

/-- An unsigned integer is read back as it is by those who take all 64 bits for an unsigned number. -/
theorem widen_unsigned_encode {width : Nat} (narrow : width ≤ 8) {value : Nat}
    (fits : value < 256 ^ width) (rest : Frame) :
    (BitVec.ofInt 64 (widen ((LittleEndian.encode 8 value).take width ++ rest) width false)).toNat =
      value := by
  have word : value < 2 ^ 64 :=
    Nat.lt_of_lt_of_le fits (Nat.pow_le_pow_right (by decide) narrow : 256 ^ width ≤ 256 ^ 8)
  rw [widen, take_field_encode narrow, if_neg Bool.false_ne_true,
    LittleEndian.unsigned_encode_of_lt fits, BitVec.toNat_ofInt]
  have residue : Int.bmod (value : Int) UInt64.size % ((2 ^ 64 : Nat) : Int) = value := by
    rw [show UInt64.size = 2 ^ 64 from rfl, Int.bmod_emod]
    exact Int.emod_eq_of_lt (by omega) (by omega)
  rw [residue, Int.toNat_natCast]

/-- The number in a field is the sum of the bytes that are there, each times its power of 256: in 64 bits
of two's complement, or less the next power of 256 if the last of these bytes has its top bit set. So an
integer that is representable in a field of one to eight bytes is read back from its lowest bytes. -/
theorem widen_number :
    (∀ (bytes : Frame) (width : Nat),
      let count := min bytes.length (min width 8)
      let sum := ∑ i ∈ Finset.range count, (bytes.getD i 0).toNat * 256 ^ i
      widen bytes width false = (BitVec.ofNat 64 sum).toInt ∧
      widen bytes width true =
        sum - if 0 < count ∧ 128 ≤ (bytes.getD (count - 1) 0).toNat then 256 ^ count else 0) ∧
    ∀ (width : Nat), 1 ≤ width → width ≤ 8 → ∀ (rest : Frame),
      (∀ value : Int, -(256 ^ width : Nat) ≤ 2 * value → 2 * value < (256 ^ width : Nat) →
        widen ((LittleEndian.encode 8 value).take width ++ rest) width true = value) ∧
      ∀ value : Nat, value < 256 ^ width →
        (BitVec.ofInt 64
          (widen ((LittleEndian.encode 8 value).take width ++ rest) width false)).toNat = value := by
  refine ⟨fun bytes width => ⟨?unsigned, ?signed⟩, fun width positive narrow rest => ⟨?read, ?word⟩⟩
  case unsigned =>
    rw [widen, if_neg Bool.false_ne_true, LittleEndian.unsigned_take, BitVec.toInt_ofNat']
  case signed =>
    have length : (bytes.take (min width 8)).length = min bytes.length (min width 8) := by
      rw [List.length_take, Nat.min_comm]
    rw [widen, if_pos rfl, LittleEndian.signed, LittleEndian.unsigned_take, length]
    simp only [LittleEndian.isNegative_take_iff, Nat.pow_eq]
    split
    · rw [Int.natCast_pow]
      rfl
    · rw [Int.sub_zero]
  case read =>
    exact fun value low high => widen_signed_encode positive narrow low high rest
  case word =>
    exact fun value fits => widen_unsigned_encode narrow fits rest

/-- A signed number of three bytes is read back, and so is the largest number of eight bytes. -/
theorem widen_number_three :
    widen ((LittleEndian.encode 8 (-70000)).take 3 ++ [0x7f]) 3 true = -70000 ∧
      (BitVec.ofInt 64
        (widen ((LittleEndian.encode 8 (2 ^ 64 - 1 : Nat)).take 8 ++ [1]) 8 false)).toNat =
        2 ^ 64 - 1 :=
  ⟨(widen_number.2 3 (by decide) (by decide) [0x7f]).1 (-70000) (by decide) (by decide),
    (widen_number.2 8 (by decide) (by decide) [1]).2 (2 ^ 64 - 1) (by decide)⟩

end SensorHost
