import SensorHost.Proofs.Operator.Frames

/-!
# Frames that do not fit in a byte

An output of more than 255 bytes is refused (`Operator.product_of_long`), so one that is accepted is
as long as its operator asked for (`Operator.frameLength_of_product`): no length is ever cut.

The exception is a right shift by a negative operand, which widens its input. The width of its fields
is cut to a byte before their length is looked at (`Operator.ShiftsPastByte`).
-/

namespace SensorHost

namespace Operator

/-- A right shift by a negative operand that makes a field wider than a byte can tell. -/
def ShiftsPastByte (input : Signal) : Operator → Prop
  | math .rightShift operand _ => 255 < MathOp.rightShiftBytes input.geometry.firstWidth operand
  | _ => False

end Operator

namespace Geometry

/-- Widths that add up to one byte are not cut. -/
theorem total_map_ofNat {widths : List Nat} (short : total id widths ≤ 255) :
    total UInt8.toNat (widths.map UInt8.ofNat) = total id widths := by
  induction widths with
  | nil => rfl
  | cons width rest ih =>
      rw [total_cons, id] at short
      have first : (UInt8.ofNat width).toNat = width := by
        rw [UInt8.toNat_ofNat']
        omega
      rw [List.map_cons, total_cons, first, ih (by omega), total_cons, id]

/-- A geometry whose plan fits in one byte is as long as it was planned. -/
theorem Follows.frameLength_eq {g source : Geometry} {widths : List Nat} {units : UInt8}
    {signed : Bool} (h : g.Follows source widths units signed)
    (short : total id widths * units.toNat ≤ 255) :
    g.frameLength = total id widths * units.toNat := by
  rw [frameLength, unitLength, h.widths, h.units]
  rcases Nat.eq_zero_or_pos units.toNat with none | some
  · rw [none, Nat.mul_zero, Nat.mul_zero]
  · have narrow : total id widths ≤ 255 := Nat.le_trans (Nat.le_mul_of_pos_right _ some) short
    rw [total_map_ofNat narrow]

theorem make_of_long {widths : List UInt8} {units : UInt8} {signed : Bool} {length : Nat}
    (nonzero : 0 ∉ widths) (same : total UInt8.toNat widths * units.toNat = length)
    (long : 255 < length) :
    lift (make widths units 0 signed) = .error (.geometry (.frameTooLong length)) := by
  subst same
  unfold make
  simp only [nonzero, if_false]
  rw [if_pos (show 255 < frameLength ⟨widths, units, 0, signed⟩ from long)]
  rfl

end Geometry

namespace Signal

theorem length_plan (s : Signal) : s.plan.length = s.geometry.frameLength := by
  rw [FramePlan.length, Geometry.frameLength, Geometry.unitLength]
  exact congrArg (· * _) (total_map id UInt8.toNat s.geometry.widths)

theorem length_resized (s : Signal) (width : Nat) :
    (s.plan.resized width).length =
      s.geometry.widths.length * width * s.geometry.units.toNat := by
  rw [FramePlan.length, FramePlan.resized, total_replicate]
  simp [plan]

/-- Fields are not resized beyond one byte. -/
theorem resized_of_long {s : Signal} {width : UInt8} (planned : Nat) (same : width.toNat = planned)
    (long : 255 < (s.plan.resized planned).length) :
    Geometry.lift (s.geometry.resized width) =
      .error (.geometry (.frameTooLong (s.plan.resized planned).length)) := by
  subst same
  rw [length_resized] at long ⊢
  have nonzero : 0 ∉ List.replicate s.geometry.widths.length width := by
    intro mem
    rw [← (List.mem_replicate.mp mem).2] at long
    simp at long
  exact Geometry.make_of_long nonzero (by rw [total_replicate]) long

end Signal

namespace Operator

variable {input : Signal}

theorem requireNumeric_or_refuse (op : Operator) (input : Signal) :
    op.requireNumeric input = .ok () ∨ op.requireNumeric input = op.refuse input := by
  unfold requireNumeric
  split
  · exact .inr rfl
  · exact .inr rfl
  · exact .inl rfl

end Operator

namespace MathOp

theorem output_of_long {op : MathOp} {input : Signal} {operand : Float32} {every : Bool}
    (valid : input.geometry.Valid)
    (bounded : ¬ (Operator.math op operand every).ShiftsPastByte input)
    (long : 255 < (op.outputPlan input operand).length) :
    op.output input operand =
      .error (.geometry (.frameTooLong (op.outputPlan input operand).length)) := by
  have fits : input.plan.length ≤ 255 := input.length_plan ▸ valid.2.1
  have grown (width : UInt8) (planned : Nat) (same : width.toNat = planned)
      (long : 255 < (input.plan.resized planned).length) (rest : Geometry → Except Fault Signal) :
      (Geometry.lift (input.geometry.resized width) >>= rest) =
        .error (.geometry (.frameTooLong (input.plan.resized planned).length)) := by
    rw [Signal.resized_of_long planned same long]
    rfl
  cases op with
  | add =>
      simp only [outputPlan, FramePlan.length_signedBy] at long ⊢
      exact grown 4 4 rfl long _
  | multiply =>
      simp only [outputPlan, FramePlan.length_signedBy] at long ⊢
      exact grown _ _ (by split <;> rfl) long _
  | divide =>
      simp only [outputPlan, FramePlan.length_signedBy] at long ⊢
      exact grown _ _ (by split <;> rfl) long _
  | exponent => exact grown 4 4 rfl long _
  | leftShift =>
      have narrow : leftShiftBytes input.geometry.firstWidth operand < 256 := by
        unfold leftShiftBytes
        omega
      exact grown _ _ (UInt8.toNat_ofNat_of_lt' narrow) long _
  | rightShift =>
      have narrow : rightShiftBytes input.geometry.firstWidth operand < 256 := by
        simpa [Operator.ShiftsPastByte, Nat.lt_succ_iff] using bounded
      exact grown _ _ (UInt8.toNat_ofNat_of_lt' narrow) long _
  | subtract => exact absurd long (by simp [outputPlan])
  | constant => exact absurd long (by simp [outputPlan])
  | modulus | absValue | sqrt => exact absurd fits (Nat.not_le.mpr long)

end MathOp

namespace Operator

variable {input : Signal}

/-- An output that would exceed 255 bytes is refused, for its length or for another reason. -/
theorem product_of_long {op : Operator} (valid : input.geometry.Valid)
    (bounded : ¬ op.ShiftsPastByte input) (long : 255 < (op.outputPlan input).length) :
    op.product input = op.refuse input ∨
      op.product input = .error (.geometry (.frameTooLong (op.outputPlan input).length)) := by
  -- Whatever is as long as the input fits, so only frames that grow are left.
  have fits : input.plan.length ≤ 255 := input.length_plan ▸ valid.2.1
  have unchanged (same : op.outputPlan input = input.plan) : False := by
    rw [same] at long
    omega
  cases op with
  | average | delay | time | passthrough | compareOne => exact (unchanged rfl).elim
  | buffer => exact absurd long (by simp [outputPlan, FramePlan.length])
  | accumulate counting width =>
      have narrow := width.toNat_lt
      cases counting <;> simp only [outputPlan, FramePlan.length_scalar] at long <;> omega
  | math op operand every =>
      rcases requireNumeric_or_refuse (.math op operand every) input with numeric | refused
      · refine .inr ?_
        simp only [product, numeric, MathOp.output_of_long valid bounded long]
        rfl
      · refine .inl ?_
        simp only [product, refused]
        rfl
  | pulse mode level width =>
      cases mode with
      | width | onDetect => exact absurd long (by simp [outputPlan])
      | area =>
          rcases requireNumeric_or_refuse (.pulse .area level width) input with numeric | refused
          · refine .inr ?_
            simp only [product, numeric]
            rw [Signal.resized_of_long 4 rfl long]
            rfl
          · refine .inl ?_
            simp only [product, refused]
            rfl
      | peak => exact (unchanged rfl).elim
  | compareMany _ reported _ =>
      cases reported with
      | passFail | zone => exact absurd long (by simp [outputPlan])
      | absolute | reference => exact (unchanged rfl).elim
  | threshold mode _ _ =>
      cases mode with
      | absolute => exact (unchanged rfl).elim
      | binary => exact absurd long (by simp [outputPlan])
  | differential mode _ =>
      cases mode with
      | absolute | difference => exact absurd fits (Nat.not_le.mpr long)
      | binary => exact absurd long (by simp [outputPlan])
  | packer count =>
      have length : (outputPlan (.packer count) input).length =
          total UInt8.toNat input.geometry.widths * count.toNat := by
        exact congrArg (· * _) (total_map id UInt8.toNat input.geometry.widths)
      rw [length] at long ⊢
      unfold product
      simp only
      split
      · refine .inr ?_
        unfold Geometry.repeated
        rw [Geometry.make_of_long valid.1 rfl long]
        rfl
      · exact .inl rfl
  | accounter mode width =>
      have length : (outputPlan (.accounter mode width) input).length =
          width.toNat + input.geometry.frameLength := by
        simp [outputPlan, FramePlan.length]
      rw [length] at long ⊢
      by_cases narrow : 1 ≤ width ∧ width ≤ 4
      · have accepted : (accounter mode width).requireWidth input width = .ok () := if_pos narrow
        have frame : lengthAsWidth input.geometry.frameLength =
            .ok (UInt8.ofNat input.geometry.frameLength) := if_pos valid.2.1
        have exact : (UInt8.ofNat input.geometry.frameLength).toNat = input.geometry.frameLength :=
          UInt8.toNat_ofNat_of_lt' (Nat.lt_succ_of_le valid.2.1)
        -- The width is at most four, so the input frame is not empty.
        have nonzero : 0 ∉ [width, UInt8.ofNat input.geometry.frameLength] := by
          have low : 1 ≤ width.toNat := narrow.1
          have high : width.toNat ≤ 4 := narrow.2
          simp only [List.mem_cons, List.not_mem_nil, or_false, ← UInt8.toNat_inj, exact,
            UInt8.toNat_zero]
          omega
        refine .inr ?_
        simp only [product, accepted, frame]
        show (Geometry.lift (Geometry.make _ 1 0 _) >>= _) = _
        rw [Geometry.make_of_long nonzero (by simp [exact]) long]
        rfl
      · refine .inl ?_
        simp only [product, requireWidth, if_neg narrow]
        rfl
  | fuser sources =>
      -- The sum is looked at before it becomes a width.
      simp only [outputPlan, FramePlan.length_scalar] at long ⊢
      refine .inr ?_
      simp only [product, lengthAsWidth]
      rw [if_neg (by omega)]
      rfl
  | combine mode =>
      have narrow := input.geometry.firstWidth.toNat_lt
      simp only [outputPlan, FramePlan.length_scalar] at long
      omega

/-- An output that is accepted is as long as it was planned. -/
theorem frameLength_of_product {op : Operator} {p : Product} (valid : input.geometry.Valid)
    (bounded : ¬ op.ShiftsPastByte input) (accepted : op.product input = .ok p) :
    p.output.geometry.frameLength = (op.outputPlan input).length := by
  have short : (op.outputPlan input).length ≤ 255 := by
    refine Nat.le_of_not_lt fun long => ?_
    rcases product_of_long valid bounded long with refused | refused <;>
      exact absurd (accepted.symm.trans refused) nofun
  exact (follows_product op input p accepted).output.geometry.frameLength_eq short

/-- A state never exceeds 255 bytes. -/
theorem length_of_statePlan?_le {op : Operator} {plan : FramePlan} (valid : input.geometry.Valid)
    (planned : op.statePlan? input = some plan) : plan.length ≤ 255 := by
  cases op with
  | buffer =>
      obtain rfl := Option.some.inj planned
      exact input.length_plan ▸ valid.2.1
  | accumulate counting width =>
      have narrow : width.toNat ≤ 255 := Nat.le_of_lt_succ width.toNat_lt
      cases counting <;>
        · obtain rfl := Option.some.inj planned
          rwa [FramePlan.length_scalar]
  | passthrough mode count =>
      obtain rfl := Option.some.inj planned
      decide
  | _ => contradiction

/-- A state that is kept is as long as it was planned. -/
theorem frameLength_of_state {op : Operator} {p : Product} {state : Signal}
    (valid : input.geometry.Valid) (accepted : op.product input = .ok p) (kept : state ∈ p.state) :
    ∃ plan, op.statePlan? input = some plan ∧ state.geometry.frameLength = plan.length := by
  obtain ⟨plan, follows, planned⟩ := (follows_product op input p accepted).state_of_mem kept
  have short := length_of_statePlan?_le valid planned
  exact ⟨plan, planned, follows.geometry.frameLength_eq short⟩

/-- A shift past a byte that is accepted has fewer bytes than it asked for, unless there is nothing
to shift. -/
theorem frameLength_lt_of_shiftsPastByte {op : Operator} {p : Product}
    (shifts : op.ShiftsPastByte input) (nonempty : 0 < input.geometry.frameLength)
    (accepted : op.product input = .ok p) :
    p.output.geometry.frameLength < (op.outputPlan input).length := by
  have follows := (follows_product op input p accepted).output.geometry
  cases op with
  | math op operand every =>
      cases op with
      | rightShift =>
          have fields : 0 < input.geometry.widths.length := by
            refine List.length_pos_iff.mpr fun none => ?_
            rw [Geometry.frameLength, Geometry.unitLength, none, total_nil, Nat.zero_mul] at nonempty
            exact Nat.lt_irrefl 0 nonempty
          have units : 0 < input.geometry.units.toNat := Nat.pos_of_mul_pos_left nonempty
          have planned := input.length_resized
            (MathOp.rightShiftBytes input.geometry.firstWidth operand)
          have actual : p.output.geometry.frameLength = input.geometry.widths.length *
              (MathOp.rightShiftBytes input.geometry.firstWidth operand % 256) *
                input.geometry.units.toNat := by
            rw [Geometry.frameLength, Geometry.unitLength, follows.widths, follows.units]
            simp only [outputPlan, MathOp.outputPlan, FramePlan.opaqueBytes, FramePlan.resized,
              Signal.plan, List.map_replicate, List.length_map, total_replicate,
              UInt8.toNat_ofNat']
          -- The width keeps its lowest byte only, which is below 256.
          have cut : MathOp.rightShiftBytes input.geometry.firstWidth operand % 256 <
              MathOp.rightShiftBytes input.geometry.firstWidth operand :=
            Nat.lt_of_lt_of_le (Nat.mod_lt _ (by decide)) shifts
          rw [actual]
          refine Nat.lt_of_lt_of_eq ?_ planned.symm
          exact Nat.mul_lt_mul_of_pos_right (Nat.mul_lt_mul_of_pos_left cut fields) units
      | _ => contradiction
  | _ => contradiction

end Operator

end SensorHost
