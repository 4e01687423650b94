import SensorHost.Operator.Product
import SensorHost.Proofs.Processor.Creation
import SensorHost.Proofs.Signal.Anonymity

/-!
# Products of signals without ids

A chain is planned before its processors have ids, so an operator is applied twice: to an input that
was only planned, and to the one that the board made. The two products have the same surface
(`Operator.surface_product`), so planning fails exactly where creating would, and what was planned is
what is created.
-/

namespace SensorHost

/-- The product without ids in what is behind its signals. -/
def Product.surface (p : Product) : Product := ⟨p.output.surface, p.state⟩

namespace Signal

variable {a b : Signal}

theorem surface_outputOfKind (alike : b.Alike a) (kind : Kind) (g : Geometry) :
    (b.outputOfKind kind g).surface = (a.outputOfKind kind g).surface := by
  refine surface_withAxes ?_
  unfold surface
  simp only [Option.map_some, show b.anonymous = a.anonymous from alike]

theorem surface_outputLike (alike : b.Alike a) (g : Geometry) :
    (b.outputLike g).surface = (a.outputLike g).surface := by
  refine surface_withAxes ?_
  unfold surface
  simp only [Option.map_some, show b.anonymous = a.anonymous from alike, alike.kind, alike.members]

theorem surface_outputAs (alike : b.Alike a) (kind : Kind) (g : Geometry) :
    (b.outputAs kind g).surface = (a.outputAs kind g).surface := by
  unfold outputAs
  rw [alike.kind]
  split
  · exact surface_outputLike alike g
  · exact surface_outputOfKind alike kind g

theorem stateLike_congr (alike : b.Alike a) (g : Geometry) : b.stateLike g = a.stateLike g := by
  unfold stateLike
  rw [alike.kind, alike.scale]

theorem surface_array (alike : b.Alike a) (address : Address) (g : Geometry)
    (members : List Signal) :
    (array (some b) address g (b :: members)).surface =
      (array (some a) address g (a :: members)).surface := by
  unfold array surface
  simp only [Option.map_some, List.map_cons, show b.anonymous = a.anonymous from alike]

end Signal

variable {a b : Signal}

theorem map_ok {ε α β : Type} (f : α → β) (x : α) :
    Except.map f (pure x : Except ε α) = pure (f x) :=
  rfl

theorem MathOp.surface_output (alike : b.Alike a) (op : MathOp) (x : Float32) :
    (op.output b x).map Signal.surface = (op.output a x).map Signal.surface := by
  have signedBy (g : Geometry) : signedBy b x g = signedBy a x g := by
    rw [MathOp.signedBy, alike.kind, alike.geometry]
    rfl
  cases op <;>
    simp only [output, map_bind, map_ok, signedBy, alike.kind, alike.geometry,
      Signal.surface_outputAs alike, Signal.surface_outputLike alike,
      Signal.surface_outputOfKind alike, Signal.passFailOutput]

namespace Operator

theorem refuse_congr {α : Type} (alike : b.Alike a) (op : Operator) :
    (op.refuse b : Except Fault α) = op.refuse a := by
  unfold refuse
  rw [alike.kind]

theorem surface_difference (alike : b.Alike a) (op : Operator) :
    (op.difference b).map Signal.surface = (op.difference a).map Signal.surface := by
  have outputAs (kind : Kind) (g : Geometry) :
      (Except.ok (b.outputAs kind g) : Except Fault Signal).map Signal.surface =
        (Except.ok (a.outputAs kind g)).map Signal.surface :=
    congrArg Except.ok (Signal.surface_outputAs alike kind g)
  unfold difference
  rw [alike.kind, alike.geometry, refuse_congr alike]
  cases a.kind with
  | uint | int | ufloat | sfloat => exact outputAs _ _
  | _ => rfl

/-- Whether anything comes out, why not, and the surface of what does depend on an input but for the
ids in it. -/
theorem surface_product (alike : b.Alike a) (op : Operator) :
    (op.product b).map Product.surface = (op.product a).map Product.surface := by
  have kind := alike.kind
  have geometry := alike.geometry
  have refused {α : Type} (op : Operator) : (op.refuse b : Except Fault α) = op.refuse a :=
    refuse_congr alike op
  have made (output : Signal) (state : Option Signal) :
      Product.surface ⟨output, state⟩ = ⟨output.surface, state⟩ := rfl
  have output (x : Except Fault Signal) :
      (x >>= fun output => pure ⟨output, none⟩).map Product.surface =
        (x.map Signal.surface) >>= fun output => pure ⟨output, none⟩ := by
    cases x <;> rfl
  have outputLike := Signal.surface_outputLike alike
  have outputOfKind := Signal.surface_outputOfKind alike
  have stateLike := Signal.stateLike_congr alike
  -- Both sides make the same checks; what they return differs behind its surface only.
  cases op with
  | accumulate counting width =>
      cases counting <;>
        simp only [product, map_bind, map_ok, requireWidth, requireScalar, kind, geometry, refused,
          made, outputLike, outputOfKind, stateLike, Bool.false_eq_true, if_false, if_true]
  | math op x every =>
      simp only [product, map_bind, output, MathOp.surface_output alike, requireNumeric, kind,
        refused]
  | pulse mode x width =>
      cases mode <;>
        simp only [product, map_bind, map_ok, requireNumeric, kind, geometry, refused, made,
          outputLike, Signal.countOutput, outputOfKind, output]
  | compareMany op reported references =>
      cases reported <;>
        simp only [product, map_bind, map_ok, requireNumeric, kind, geometry, refused, made,
          outputLike, Signal.countOutput, outputOfKind, output]
  | threshold mode x y =>
      cases mode <;>
        simp only [product, map_bind, map_ok, requireNumeric, kind, geometry, refused, made,
          outputLike, Signal.passFailOutput, outputOfKind, output]
  | differential mode x =>
      cases mode <;>
        simp only [product, map_bind, map_ok, requireNumeric, kind, geometry, refused, made,
          outputLike, Signal.passFailOutput, outputOfKind, output, surface_difference alike]
  | packer count =>
      simp only [product, geometry, refused]
      split <;> simp only [map_bind, map_ok, made, outputLike]
  | combine mode =>
      simp only [product, kind, geometry, refused]
      split <;> simp only [map_bind, map_ok, made, outputOfKind]
  | fuser sources =>
      simp only [product, map_bind, map_ok, geometry, made, Signal.surface_array alike]
  | _ =>
      simp only [product, map_bind, map_ok, requireNumeric, requireWidth, kind, geometry, refused,
        made, outputLike, outputOfKind, stateLike]

end Operator

end SensorHost
