import SensorHost.Operator.Product
import SensorHost.Proofs.Success

/-!
# Why an operator has no product

An operator is refused for one of two reasons: it cannot work on what it is fed, or its frame cannot
be laid out.
-/

namespace SensorHost

/-- The faults of an operator that has no product. -/
inductive Fault.OfProduct : Fault → Prop
  | layout (cause : GeometryFault) : OfProduct (.geometry cause)
  | unsupported (kind operator : String) : OfProduct (.unsupported kind operator)

open Fault (OfProduct)

theorem Geometry.blames_lift {α : Type} (x : Except GeometryFault α) :
    Blames (Geometry.lift x) OfProduct := by
  cases x with
  | error cause => exact blames_error (.layout cause)
  | ok a => exact blames_pure OfProduct a

theorem Signal.blames_countOutput (input : Signal) (width : UInt8) :
    Blames (input.countOutput width) OfProduct :=
  blames_bind (Geometry.blames_lift _) fun _ => blames_pure _ _

theorem Signal.blames_passFailOutput (input : Signal) : Blames input.passFailOutput OfProduct :=
  blames_bind (Geometry.blames_lift _) fun _ => blames_pure _ _

theorem MathOp.blames_output (op : MathOp) (input : Signal) (operand : Float32) :
    Blames (op.output input operand) OfProduct := by
  cases op with
  | subtract => exact input.blames_passFailOutput
  | absValue | modulus | sqrt => exact blames_pure _ _
  | add | multiply | divide | exponent | leftShift | rightShift | constant =>
      exact blames_bind (Geometry.blames_lift _) fun _ => blames_pure _ _

namespace Operator

variable (op : Operator) (input : Signal)

theorem blames_refuse {α : Type} : Blames (op.refuse input : Except Fault α) OfProduct :=
  blames_error (.unsupported _ _)

theorem blames_requireNumeric : Blames (op.requireNumeric input) OfProduct := by
  unfold requireNumeric
  split
  · exact op.blames_refuse input
  · exact op.blames_refuse input
  · exact blames_pure _ _

theorem blames_requireScalar : Blames (op.requireScalar input) OfProduct := by
  unfold requireScalar
  split
  · exact op.blames_refuse input
  · exact op.blames_refuse input
  · exact op.blames_refuse input
  · exact blames_pure _ _

theorem blames_requireWidth (width : UInt8) : Blames (op.requireWidth input width) OfProduct := by
  unfold requireWidth
  split
  · exact blames_pure _ _
  · exact op.blames_refuse input

theorem blames_lengthAsWidth (length : Nat) : Blames (lengthAsWidth length) OfProduct := by
  unfold lengthAsWidth
  split
  · exact blames_pure _ _
  · exact blames_error (.layout _)

theorem blames_difference : Blames (op.difference input) OfProduct := by
  unfold difference
  cases input.kind with
  | uint | int | ufloat | sfloat => exact blames_pure _ _
  | _ => exact op.blames_refuse input

theorem blames_product : Blames (op.product input) OfProduct := by
  have laid {α β : Type} {x : Except GeometryFault α} {f : α → β} :
      Blames (Geometry.lift x >>= fun a => pure (f a)) OfProduct :=
    blames_bind (Geometry.blames_lift x) fun _ => blames_pure _ _
  have alone {x : Except Fault Signal} (h : Blames x OfProduct) :
      Blames (x >>= fun output => pure (⟨output, none⟩ : Product)) OfProduct :=
    blames_bind h fun _ => blames_pure _ _
  cases op with
  | average | delay | time | buffer => exact blames_pure _ _
  | passthrough => exact laid
  | accumulate counting width =>
      refine blames_bind (blames_requireWidth _ input width) fun _ => ?_
      refine blames_bind (Geometry.blames_lift _) fun _ => ?_
      cases counting with
      | true => exact blames_pure _ _
      | false => exact blames_bind (blames_requireScalar _ input) fun _ => blames_pure _ _
  | math op operand every =>
      exact blames_bind (blames_requireNumeric _ input) fun _ => alone (op.blames_output input operand)
  | pulse mode threshold width =>
      refine blames_bind (blames_requireNumeric _ input) fun _ => ?_
      cases mode with
      | width => exact alone (input.blames_countOutput 2)
      | onDetect => exact alone (input.blames_countOutput 1)
      | area => exact laid
      | peak => exact blames_pure _ _
  | compareOne => exact blames_bind (blames_requireNumeric _ input) fun _ => blames_pure _ _
  | compareMany op reported references =>
      refine blames_bind (blames_requireNumeric _ input) fun _ => ?_
      cases reported with
      | passFail | zone => exact alone (input.blames_countOutput 1)
      | absolute | reference => exact blames_pure _ _
  | threshold mode boundary hysteresis =>
      refine blames_bind (blames_requireNumeric _ input) fun _ => ?_
      cases mode with
      | absolute => exact blames_pure _ _
      | binary => exact alone input.blames_passFailOutput
  | differential mode distance =>
      refine blames_bind (blames_requireNumeric _ input) fun _ => ?_
      cases mode with
      | absolute => exact blames_pure _ _
      | binary => exact alone input.blames_passFailOutput
      | difference => exact alone (blames_difference _ input)
  | packer count =>
      unfold product
      simp only
      split
      · exact laid
      · exact blames_bind (blames_refuse _ input) fun _ => laid
  | accounter mode length =>
      refine blames_bind (blames_requireWidth _ input length) fun _ => ?_
      exact blames_bind (blames_lengthAsWidth _) fun _ => laid
  | fuser sources => exact blames_bind (blames_lengthAsWidth _) fun _ => laid
  | combine mode =>
      unfold product
      simp only
      split
      · exact laid
      · exact blames_bind (blames_refuse _ input) fun _ => laid

end Operator

end SensorHost
