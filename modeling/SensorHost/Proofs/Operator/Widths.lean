import SensorHost.Proofs.Operator.Downstream
import SensorHost.Proofs.Operator.ReadBack

/-!
# Widths of computed fields

The bytes of a computation tell the firmware how wide the fields of its output are, less one and in
two bits, so a width beyond four bytes is told as another one (`Operator.lessOne_and_iff`). Fields of
one to four bytes are narrow. Every computation plans narrow fields for a narrow input
(`MathOp.narrow_outputPlan`), except a right shift: it holds its fields to one byte at least, but not
to four bytes at most, so a negative operand can widen them (`Operator.ShiftsPastField`).

Apart from that, output fields are narrow and the firmware is told their width
(`Operator.computed_width_told_iff`).
-/

namespace SensorHost

/-! ## Narrow fields -/

/-- Every planned field has one to four bytes. -/
def FramePlan.Narrow (plan : FramePlan) : Prop := ∀ width ∈ plan.widths, 1 ≤ width ∧ width ≤ 4

/-- Every field has one to four bytes. -/
def Geometry.Narrow (g : Geometry) : Prop := ∀ width ∈ g.widths, 1 ≤ width ∧ width ≤ 4

instance (g : Geometry) : Decidable g.Narrow :=
  inferInstanceAs (Decidable (∀ width ∈ g.widths, 1 ≤ width ∧ width ≤ 4))

namespace FramePlan

variable {plan : FramePlan}

theorem narrow_resized {width : Nat} (low : 1 ≤ width) (high : width ≤ 4) :
    (plan.resized width).Narrow := by
  intro width' mem
  rw [List.eq_of_mem_replicate mem]
  exact ⟨low, high⟩

theorem Narrow.signedBy (h : plan.Narrow) (operand : Float32) : (plan.signedBy operand).Narrow := by
  unfold FramePlan.signedBy
  split
  · exact h
  · exact h

theorem narrow_scalar {kind : Kind} {signed : Bool} {width : Nat} (low : 1 ≤ width)
    (high : width ≤ 4) : (scalar kind width signed).Narrow := by
  intro width' mem
  rw [List.mem_singleton.mp mem]
  exact ⟨low, high⟩

end FramePlan

namespace Geometry

variable {g : Geometry}

theorem firstWidth_mem (fields : g.widths ≠ []) : g.firstWidth ∈ g.widths := by
  unfold firstWidth
  cases widths : g.widths with
  | nil => contradiction
  | cons width rest => exact List.mem_cons_self

theorem Narrow.plan {s : Signal} (h : s.geometry.Narrow) : s.plan.Narrow := by
  intro planned mem
  obtain ⟨width, field, rfl⟩ := List.mem_map.mp mem
  exact h width field

/-- A geometry that follows a plan of narrow fields has narrow fields: none of them is cut. -/
theorem Follows.narrow {source : Geometry} {plan : FramePlan} {units : UInt8} {signed : Bool}
    (h : g.Follows source plan.widths units signed) (narrow : plan.Narrow) : g.Narrow := by
  intro width mem
  rw [h.widths] at mem
  obtain ⟨planned, field, rfl⟩ := List.mem_map.mp mem
  obtain ⟨low, high⟩ := narrow planned field
  have exact : (UInt8.ofNat planned).toNat = planned :=
    UInt8.toNat_ofNat_of_lt' (Nat.lt_of_le_of_lt high (by decide))
  refine ⟨show 1 ≤ (UInt8.ofNat planned).toNat from ?_, show (UInt8.ofNat planned).toNat ≤ 4 from ?_⟩
  · rwa [exact]
  · rwa [exact]

end Geometry

/-! ## Planned widths -/

namespace MathOp

theorem leftShiftBytes_narrow (width : UInt8) (operand : Float32) :
    1 ≤ leftShiftBytes width operand ∧ leftShiftBytes width operand ≤ 4 := by
  unfold leftShiftBytes
  omega

/-- Every computation but a right shift plans narrow fields for a narrow input. -/
theorem narrow_outputPlan {op : MathOp} {input : Signal} (fields : input.geometry.widths ≠ [])
    (narrow : input.geometry.Narrow) (other : op ≠ .rightShift) (operand : Float32) :
    (op.outputPlan input operand).Narrow := by
  have same : input.plan.Narrow := narrow.plan
  have first : 1 ≤ input.geometry.firstWidth.toNat ∧ input.geometry.firstWidth.toNat ≤ 4 :=
    narrow _ (Geometry.firstWidth_mem fields)
  have four : (input.plan.resized 4).Narrow := FramePlan.narrow_resized (by decide) (by decide)
  have kept : (input.plan.resized input.geometry.firstWidth.toNat).Narrow :=
    FramePlan.narrow_resized first.1 first.2
  cases op with
  | add => exact four.signedBy operand
  | multiply =>
      refine FramePlan.Narrow.signedBy ?_ operand
      split
      · exact kept
      · exact four
  | divide =>
      refine FramePlan.Narrow.signedBy ?_ operand
      split
      · exact four
      · exact kept
  | subtract => exact FramePlan.narrow_scalar (by decide) (by decide)
  | constant => exact FramePlan.narrow_scalar (by decide) (by decide)
  | absValue | modulus | sqrt => exact same
  | exponent => exact four
  | leftShift =>
      obtain ⟨low, high⟩ := leftShiftBytes_narrow input.geometry.firstWidth operand
      exact FramePlan.narrow_resized low high
  | rightShift => contradiction

/-- Every field that was shifted to the right has the same width, which is not zero. -/
theorem width_of_output_rightShift {input out : Signal} {operand : Float32}
    (h : output .rightShift input operand = .ok out) {width : UInt8}
    (mem : width ∈ out.geometry.widths) :
    width.toNat = rightShiftBytes input.geometry.firstWidth operand % 256 ∧ 1 ≤ width := by
  obtain ⟨g, lifted, made⟩ := bind_eq_ok h
  obtain rfl := Except.ok.inj made
  have resized := Geometry.lift_eq_ok lifted
  have nonzero : width ≠ 0 := by
    rintro rfl
    exact (Geometry.valid_of_make resized).1 mem
  have widths : g.widths = List.replicate input.geometry.widths.length
      (UInt8.ofNat (rightShiftBytes input.geometry.firstWidth operand)) := by
    rw [Geometry.eq_of_make resized]
    rfl
  have same : width = UInt8.ofNat (rightShiftBytes input.geometry.firstWidth operand) :=
    List.eq_of_mem_replicate (widths ▸ mem)
  refine ⟨?_, Nat.pos_of_ne_zero fun zero => nonzero (UInt8.toNat_inj.mp zero)⟩
  rw [same, UInt8.toNat_ofNat']

end MathOp

namespace Operator

/-- A right shift by a negative operand after which a field is wider than four bytes, its width cut
to one byte. -/
def ShiftsPastField (input : Signal) : Operator → Prop
  | math .rightShift operand _ =>
    4 < MathOp.rightShiftBytes input.geometry.firstWidth operand % 256
  | _ => False

/-! ## Output widths -/

variable {input : Signal} {op : MathOp} {operand : Float32} {every : Bool} {p : Product}

theorem output_of_product (accepted : (math op operand every).product input = .ok p) :
    op.output input operand = .ok p.output := by
  obtain ⟨-, out, output, rfl⟩ := product_math_eq_ok.mp accepted
  exact output

/-- An output has as many fields as its input, or one. -/
theorem fields_of_product (fields : input.geometry.widths ≠ [])
    (accepted : (math op operand every).product input = .ok p) : p.output.geometry.widths ≠ [] := by
  have follows := (op.follows_output input operand _ (output_of_product accepted)).geometry.widths
  have planned : (op.outputPlan input operand).widths ≠ [] := by
    cases op <;>
      simp [MathOp.outputPlan, FramePlan.signedBy, FramePlan.resized, FramePlan.opaqueBytes,
        FramePlan.scalar, Signal.plan, fields, apply_ite FramePlan.widths]
  rw [follows]
  exact mt List.map_eq_nil_iff.mp planned

theorem narrow_of_product (fields : input.geometry.widths ≠ []) (narrow : input.geometry.Narrow)
    (accepted : (math op operand every).product input = .ok p)
    (bounded : ¬ (math op operand every).ShiftsPastField input) : p.output.geometry.Narrow := by
  have output := output_of_product accepted
  by_cases shift : op = .rightShift
  · subst shift
    intro width mem
    obtain ⟨cut, low⟩ := MathOp.width_of_output_rightShift output mem
    refine ⟨low, show width.toNat ≤ 4 from ?_⟩
    rw [cut]
    exact Nat.le_of_not_lt bounded
  · have follows := (op.follows_output input operand _ output).geometry
    exact follows.narrow (MathOp.narrow_outputPlan fields narrow shift operand)

theorem four_lt_firstWidth (fields : input.geometry.widths ≠ [])
    (accepted : (math op operand every).product input = .ok p)
    (past : (math op operand every).ShiftsPastField input) : 4 < p.output.geometry.firstWidth := by
  have mem := Geometry.firstWidth_mem (fields_of_product fields accepted)
  cases op with
  | rightShift =>
      have cut := (MathOp.width_of_output_rightShift (output_of_product accepted) mem).1
      show 4 < p.output.geometry.firstWidth.toNat
      rw [cut]
      exact past
  | _ => contradiction

/-! ## The flags of a computation -/

/-- The flags of a computation: the output width, the input width and the output sign. -/
def mathFlags (input output : Signal) : UInt8 :=
  slot (widthByte output.geometry - 1) 0x3 0 ||| slot (widthByte input.geometry - 1) 0x3 2
    ||| slot output.geometry.signed.toUInt8 0x1 4

theorem mathFlags_width (input output : Signal) :
    mathFlags input output &&& 0x3 = (widthByte output.geometry - 1) &&& 0x3 := by
  simp (disch := decide) only [mathFlags, or_and, slot_and_of_apart, slot_zero, UInt8.or_zero,
    UInt8.and_assoc, UInt8.and_self]

theorem mathFlags_sign (input output : Signal) :
    mathFlags input output >>> 4 &&& 0x1 = output.geometry.signed.toUInt8 := by
  have field : mathFlags input output >>> 4 &&& 0x1 = output.geometry.signed.toUInt8 &&& 0x1 := by
    simp (disch := decide) only [mathFlags, UInt8.shiftRight_or, or_and, slot_apart,
      slot_shiftRight, UInt8.zero_or, UInt8.and_assoc, UInt8.and_self]
  rw [field]
  cases output.geometry.signed <;> rfl

/-- Two bits tell a width, less one, just if it is a width of one to four bytes. -/
theorem lessOne_and_iff {s : Signal} :
    (widthByte s.geometry - 1 &&& 0x3) + 1 = s.geometry.firstWidth ↔
      1 ≤ s.geometry.firstWidth ∧ s.geometry.firstWidth ≤ 4 := by
  constructor
  · intro told
    have small : (widthByte s.geometry - 1 &&& 0x3).toNat ≤ 3 := by
      rw [UInt8.toNat_and]
      exact Nat.and_le_right
    have number := congrArg UInt8.toNat told
    rw [UInt8.toNat_add, show UInt8.toNat 1 = 1 from rfl] at number
    exact ⟨show 1 ≤ s.geometry.firstWidth.toNat by omega,
      show s.geometry.firstWidth.toNat ≤ 4 by omega⟩
  · rintro ⟨low, high⟩
    rw [widthByte_of_pos low]
    exact @lessOne_and s.geometry.firstWidth low 2 high (by decide)

/-- A computation on narrow fields has narrow output fields, and its flags tell the firmware their
width, unless it is a right shift past a field: then neither holds. The sign is always told. -/
theorem computed_width_told_iff (fields : input.geometry.widths ≠ [])
    (narrow : input.geometry.Narrow)
    (accepted : (math op operand every).product input = .ok p) :
    ∃ flags, (encode (math op operand every) input p.output)[1]? = some flags ∧
      (p.output.geometry.Narrow ↔ ¬ (math op operand every).ShiftsPastField input) ∧
      ((flags &&& 0x3) + 1 = p.output.geometry.firstWidth ↔
        ¬ (math op operand every).ShiftsPastField input) ∧
      flags >>> 4 &&& 0x1 = p.output.geometry.signed.toUInt8 := by
  have first := Geometry.firstWidth_mem (fields_of_product fields accepted)
  have bounded_of_le (high : p.output.geometry.firstWidth ≤ 4) :
      ¬ (math op operand every).ShiftsPastField input := fun past =>
    UInt8.not_lt.mpr high (four_lt_firstWidth fields accepted past)
  refine ⟨mathFlags input p.output, rfl, ⟨?narrow, ?bounded⟩, ⟨?told, ?tells⟩, mathFlags_sign ..⟩
  case narrow => exact fun all => bounded_of_le (all _ first).2
  case bounded => exact narrow_of_product fields narrow accepted
  case told =>
    intro told
    rw [mathFlags_width] at told
    exact bounded_of_le (lessOne_and_iff.mp told).2
  case tells =>
    intro bounded
    rw [mathFlags_width]
    exact lessOne_and_iff.mpr (narrow_of_product fields narrow accepted bounded _ first)

/-- Sixteen bits to the left of a field of two bytes make four, which the flags can tell. -/
theorem computed_width_told_iff_triple :
    ∃ p flags, (math .rightShift (-16) true).product tripleRoot = .ok p ∧
      (encode (math .rightShift (-16) true) tripleRoot p.output)[1]? = some flags ∧
      p.output.geometry.widths = [4, 4, 4] ∧ p.output.geometry.Narrow ∧
      (flags &&& 0x3) + 1 = p.output.geometry.firstWidth := by
  have accepted : (math .rightShift (-16) true).product tripleRoot = .ok _ := rfl
  obtain ⟨flags, packed, narrow, told, -⟩ :=
    computed_width_told_iff (by decide) (by decide +kernel) accepted
  have bounded : ¬ (math .rightShift (-16) true).ShiftsPastField tripleRoot :=
    show ¬ 4 < MathOp.rightShiftBytes 2 (-16) % 256 by decide
  exact ⟨_, flags, rfl, packed, rfl, narrow.mpr bounded, told.mpr bounded⟩

/-- Eight bits to the left of a field of four bytes make five, and the flags tell the firmware one. -/
theorem five_bytes_told_as_one : ∃ (input : Signal) (p : Product) (flags : UInt8),
    input.kind = .uint ∧ input.geometry.widths = [4] ∧
      (math .rightShift (-8) false).product input = .ok p ∧
      (encode (math .rightShift (-8) false) input p.output)[1]? = some flags ∧
      p.output.geometry.widths = [5] ∧ (flags &&& 0x3) + 1 = 1 :=
  ⟨.root .uint ⟨1, 1, 255⟩ { widths := [4], units := 1, offset := 0, signed := false }, _, _,
    rfl, rfl, rfl, rfl, rfl, rfl⟩

end Operator

end SensorHost
