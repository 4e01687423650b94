import SensorHost.Operator.Product
import SensorHost.Proofs.Signal.Axes

/-!
# The frames that operators ask for

The length of a frame travels in one byte. A `FramePlan` tells the frame that an operator asks for
in natural numbers, where nothing is cut: `Operator.outputPlan` for what comes out of a processor,
`Operator.statePlan?` for what it keeps. Whatever a processor produces follows these plans in kind,
sign and fields, at the place of an output or a state (`Operator.follows_product`).
-/

namespace SensorHost

/-! ## Plans -/

/-- A frame before its widths have to fit in a byte each, and its length in one byte. -/
structure FramePlan where
  kind : Kind
  widths : List Nat
  units : UInt8
  signed : Bool

namespace FramePlan

/-- The bytes of the whole frame. -/
def length (plan : FramePlan) : Nat := total id plan.widths * plan.units.toNat

/-- One field in one unit. -/
def scalar (kind : Kind) (width : Nat) (signed : Bool) : FramePlan := ⟨kind, [width], 1, signed⟩

/-- Every field resized to `width`. -/
def resized (plan : FramePlan) (width : Nat) : FramePlan :=
  { plan with widths := List.replicate plan.widths.length width }

/-- A result that becomes signed with its input or its operand. -/
def signedBy (plan : FramePlan) (operand : Float32) : FramePlan :=
  if plan.signed || operand < 0 then { plan with kind := plan.kind.toSigned, signed := true }
  else plan

/-- The same frame, its meaning unknown to the host. -/
def opaqueBytes (plan : FramePlan) : FramePlan := { plan with kind := .bytes }

@[simp] theorem length_scalar (kind : Kind) (width : Nat) (signed : Bool) :
    (scalar kind width signed).length = width := by
  simp [length, scalar]

@[simp] theorem length_signedBy (plan : FramePlan) (operand : Float32) :
    (plan.signedBy operand).length = plan.length := by
  unfold signedBy
  split <;> rfl

end FramePlan

/-- The frame of a signal as it is. -/
def Signal.plan (s : Signal) : FramePlan :=
  ⟨s.kind, s.geometry.widths.map UInt8.toNat, s.geometry.units, s.geometry.signed⟩

namespace MathOp

/-- The bytes of a field after a left shift, between one and four. -/
def leftShiftBytes (width : UInt8) (operand : Float32) : Nat :=
  (min (max (width.toNat + (Single.toInt32 operand).tdiv 8) 1) 4).toNat

/-- The bytes of a field after a right shift, at least one. -/
def rightShiftBytes (width : UInt8) (operand : Float32) : Nat :=
  (max (width.toNat - (Single.toInt32 operand).tdiv 8) 1).toNat

/-- The output frame of a computation with `operand`. -/
def outputPlan (op : MathOp) (input : Signal) (operand : Float32) : FramePlan :=
  let width := input.geometry.firstWidth
  match op with
  | .add => (input.plan.resized 4).signedBy operand
  | .multiply => (input.plan.resized (if operand.abs < 1 then width.toNat else 4)).signedBy operand
  | .divide => (input.plan.resized (if operand.abs < 1 then 4 else width.toNat)).signedBy operand
  | .subtract => .scalar .int 1 true
  | .absValue => { input.plan with kind := input.kind.toUnsigned, signed := false }
  | .modulus => input.plan
  | .exponent => (input.plan.resized 4).opaqueBytes
  | .leftShift => (input.plan.resized (leftShiftBytes width operand)).opaqueBytes
  | .rightShift => (input.plan.resized (rightShiftBytes width operand)).opaqueBytes
  | .sqrt => { input.plan.opaqueBytes with signed := false }
  | .constant =>
    let signed : Bool := operand < 0
    .scalar (if signed then .int else .uint) 4 signed

end MathOp

namespace Operator

/-- The frame of differences between values. -/
def differencePlan (input : Signal) : FramePlan :=
  { input.plan with
    kind := match input.kind with
      | .ufloat | .sfloat => .sfloat
      | _ => .int
    signed := true }

/-- The output frame of a processor. -/
def outputPlan (op : Operator) (input : Signal) : FramePlan :=
  match op with
  | .buffer => ⟨.bytes, [], 0, false⟩
  | .accumulate true width => .scalar .uint width.toNat false
  | .accumulate false width => .scalar input.kind width.toNat input.geometry.signed
  | .passthrough .. | .average .. | .delay _ | .time .. | .compareOne .. => input.plan
  | .math mathOp operand _ => mathOp.outputPlan input operand
  | .pulse mode .. =>
    match mode with
    | .width => .scalar .uint 2 false
    | .area => input.plan.resized 4
    | .peak => input.plan
    | .onDetect => .scalar .uint 1 false
  | .compareMany _ reported _ =>
    match reported with
    | .passFail | .zone => .scalar .uint 1 false
    | .absolute | .reference => input.plan
  | .threshold mode .. =>
    match mode with
    | .absolute => input.plan
    | .binary => .scalar .int 1 true
  | .differential mode _ =>
    match mode with
    | .absolute => input.plan
    | .binary => .scalar .int 1 true
    | .difference => differencePlan input
  | .packer count => { input.plan with units := count }
  | .accounter _ length =>
    ⟨input.kind, [length.toNat, input.geometry.frameLength], 1, input.geometry.signed⟩
  | .fuser sources =>
    .scalar .array
      (input.geometry.frameLength + total (fun source => source.state.geometry.frameLength) sources)
      false
  | .combine _ => .scalar .ufloat input.geometry.firstWidth.toNat false

/-- The frame that a processor keeps, if it keeps one. -/
def statePlan? (op : Operator) (input : Signal) : Option FramePlan :=
  match op with
  | .buffer => some input.plan
  | .accumulate true width => some (.scalar .uint width.toNat false)
  | .accumulate false width => some (.scalar input.kind width.toNat input.geometry.signed)
  | .passthrough .. => some (.scalar .uint 2 false)
  | _ => none

end Operator

/-! ## Following a plan -/

/-- The geometry has the planned fields, cut to bytes, and starts at zero. If `source`, which it was
made from, is valid, then so is it. -/
structure Geometry.Follows (g source : Geometry) (widths : List Nat) (units : UInt8)
    (signed : Bool) : Prop where
  widths : g.widths = widths.map UInt8.ofNat
  units : g.units = units
  offset : g.offset = 0
  signed : g.signed = signed
  valid : source.Valid → g.Valid

/-- The signal is found at `place`, has the planned kind and a geometry that follows the plan, and
its axes are the views of its own frame. -/
structure Signal.Follows (s input : Signal) (place : Address) (plan : FramePlan) : Prop where
  address : s.address = place
  kind : s.kind = plan.kind
  geometry : s.geometry.Follows input.geometry plan.widths plan.units plan.signed
  axes : s.withAxes = s

theorem Signal.Follows.isAxis_of_mem {s input axis : Signal} {place : Address} {plan : FramePlan}
    (h : s.Follows input place plan) (mem : axis ∈ s.axes) : axis.IsAxis s := by
  rw [← h.axes] at mem
  exact isAxis_of_mem_withAxes mem

/-- The output and the state follow their plans. -/
structure Product.Follows (p : Product) (op : Operator) (input : Signal) : Prop where
  output : p.output.Follows input (.processorOutput noId) (op.outputPlan input)
  state : Option.Rel (·.Follows input (.processorState noId) ·) p.state (op.statePlan? input)

theorem Product.Follows.state_of_mem {p : Product} {op : Operator} {input state : Signal}
    (h : p.Follows op input) (kept : state ∈ p.state) :
    ∃ plan, state.Follows input (.processorState noId) plan ∧ op.statePlan? input = some plan := by
  have follows := h.state
  rw [Option.mem_def.mp kept] at follows
  generalize planned : op.statePlan? input = plan? at follows
  cases follows with
  | some follows => exact ⟨_, follows, rfl⟩

namespace Geometry

theorem map_ofNat_toNat (widths : List UInt8) :
    widths = (widths.map UInt8.toNat).map UInt8.ofNat := by
  induction widths with
  | nil => rfl
  | cons width rest ih => simpa using ih

theorem follows_fromStart (g : Geometry) :
    g.fromStart.Follows g (g.widths.map UInt8.toNat) g.units g.signed where
  widths := map_ofNat_toNat g.widths
  units := rfl
  offset := rfl
  signed := rfl
  valid := by
    rintro ⟨nonzero, short, inside⟩
    exact ⟨nonzero, short, Nat.le_trans (Nat.add_le_add_right (Nat.zero_le _) _) inside⟩

theorem Follows.withSign {g source : Geometry} {widths : List Nat} {units : UInt8} {old : Bool}
    (h : g.Follows source widths units old) (signed : Bool) :
    (g.withSign signed).Follows source widths units signed where
  widths := h.widths
  units := h.units
  offset := rfl
  signed := rfl
  valid source := g.follows_fromStart.valid (h.valid source)

theorem follows_empty (source : Geometry) : empty.Follows source [] 0 false where
  widths := rfl
  units := rfl
  offset := rfl
  signed := rfl
  valid _ := by decide

theorem follows_make (source : Geometry) {widths : List UInt8} (planned : List Nat)
    (same : widths = planned.map UInt8.ofNat) (units : UInt8) (signed : Bool) :
    Yields (lift (make widths units 0 signed)) (·.Follows source planned units signed) := by
  intro g made
  have accepted := lift_eq_ok made
  obtain rfl := eq_of_make accepted
  exact ⟨same, rfl, rfl, rfl, fun _ => valid_of_make accepted⟩

theorem follows_scalar (source : Geometry) (width : UInt8) (signed : Bool) :
    Yields (lift (scalar width signed)) (·.Follows source [width.toNat] 1 signed) :=
  follows_make source _ (map_ofNat_toNat [width]) 1 signed

theorem follows_resized (g : Geometry) {width : UInt8} (planned : Nat)
    (same : width = UInt8.ofNat planned) :
    Yields (lift (g.resized width)) (·.Follows g
      (List.replicate (g.widths.map UInt8.toNat).length planned) g.units g.signed) := by
  refine follows_make g _ ?_ g.units g.signed
  rw [List.map_replicate, List.length_map, same]

end Geometry

namespace Signal

variable {input : Signal} {g : Geometry} {plan : FramePlan}

theorem follows_outputOfKind (plan : FramePlan)
    (h : g.Follows input.geometry plan.widths plan.units plan.signed) :
    (input.outputOfKind plan.kind g).Follows input (.processorOutput noId) plan :=
  ⟨rfl, rfl, h, withAxes_withAxes _⟩

theorem follows_outputLike (kind : plan.kind = input.kind)
    (h : g.Follows input.geometry plan.widths plan.units plan.signed) :
    (input.outputLike g).Follows input (.processorOutput noId) plan :=
  ⟨rfl, kind.symm, h, withAxes_withAxes _⟩

theorem follows_outputAs {kind : Kind} (same : plan.kind = kind)
    (h : g.Follows input.geometry plan.widths plan.units plan.signed) :
    (input.outputAs kind g).Follows input (.processorOutput noId) plan := by
  subst same
  unfold outputAs
  split
  · rename_i alike
    exact follows_outputLike alike h
  · exact follows_outputOfKind plan h

theorem follows_stateLike (kind : plan.kind = input.kind)
    (h : g.Follows input.geometry plan.widths plan.units plan.signed) :
    (input.stateLike g).Follows input (.processorState noId) plan :=
  ⟨rfl, kind.symm, h, withAxes_withAxes _⟩

/-- The frame of the input, from its start. -/
theorem follows_unchanged (input : Signal) :
    (input.outputLike input.geometry.fromStart).Follows input (.processorOutput noId) input.plan :=
  follows_outputLike rfl input.geometry.follows_fromStart

theorem follows_countOutput (input : Signal) (width : UInt8) :
    Yields (input.countOutput width)
      (·.Follows input (.processorOutput noId) (.scalar .uint width.toNat false)) :=
  yields_bind_of (Geometry.follows_scalar input.geometry width false) fun _ made =>
    yields_pure (follows_outputOfKind (.scalar .uint width.toNat false) made)

theorem follows_passFailOutput (input : Signal) :
    Yields input.passFailOutput
      (·.Follows input (.processorOutput noId) (.scalar .int 1 true)) :=
  yields_bind_of (Geometry.follows_scalar input.geometry 1 true) fun _ made =>
    yields_pure (follows_outputOfKind (.scalar .int 1 true) made)

end Signal

/-! ## Products follow their plans -/

namespace MathOp

/-- A resized result takes its sign from its input or its operand. -/
theorem follows_signedBy {input : Signal} {g : Geometry} {width : Nat} (operand : Float32)
    (h : g.Follows input.geometry (input.plan.resized width).widths input.geometry.units
      input.geometry.signed) :
    (input.outputAs (signedBy input operand g).1 (signedBy input operand g).2).Follows input
      (.processorOutput noId) ((input.plan.resized width).signedBy operand) := by
  by_cases signed : (input.geometry.signed || decide (operand < 0)) = true
  · have plan : (input.plan.resized width).signedBy operand =
        { input.plan.resized width with kind := input.kind.toSigned, signed := true } :=
      if_pos signed
    have result : signedBy input operand g = (input.kind.toSigned, g.withSign true) :=
      if_pos signed
    rw [plan, result]
    exact Signal.follows_outputAs rfl (h.withSign true)
  · have plan : (input.plan.resized width).signedBy operand = input.plan.resized width :=
      if_neg signed
    have result : signedBy input operand g = (input.kind, g) := if_neg signed
    rw [plan, result]
    exact Signal.follows_outputAs rfl h

theorem follows_output (op : MathOp) (input : Signal) (operand : Float32) :
    Yields (op.output input operand)
      (·.Follows input (.processorOutput noId) (op.outputPlan input operand)) := by
  have resized {width : UInt8} {planned : Nat} (same : width = UInt8.ofNat planned) :=
    input.geometry.follows_resized planned same
  -- Products and quotients choose between two widths; the plan makes the same choice.
  have sized (whole : Prop) [Decidable whole] (a b : UInt8) :
      (if whole then a else b) = UInt8.ofNat (if whole then a.toNat else b.toNat) := by
    split <;> exact UInt8.ofNat_toNat.symm
  cases op with
  | add => exact yields_bind_of (resized rfl) fun _ made => yields_pure (follows_signedBy _ made)
  | multiply =>
      exact yields_bind_of (resized (sized _ _ 4)) fun _ made =>
        yields_pure (follows_signedBy _ made)
  | divide =>
      exact yields_bind_of (resized (sized _ 4 _)) fun _ made =>
        yields_pure (follows_signedBy _ made)
  | subtract => exact input.follows_passFailOutput
  | absValue =>
      exact yields_pure
        (Signal.follows_outputAs rfl (input.geometry.follows_fromStart.withSign false))
  | modulus => exact yields_pure input.follows_unchanged
  | exponent | leftShift | rightShift =>
      exact yields_bind_of (resized rfl) fun _ made =>
        yields_pure (Signal.follows_outputOfKind ((input.plan.resized _).opaqueBytes) made)
  | sqrt =>
      exact yields_pure (Signal.follows_outputOfKind { input.plan.opaqueBytes with signed := false }
        (input.geometry.follows_fromStart.withSign false))
  | constant =>
      exact yields_bind_of (Geometry.follows_scalar input.geometry 4 _) fun _ made =>
        yields_pure (Signal.follows_outputOfKind (outputPlan .constant input operand) made)

end MathOp

namespace Operator

theorem follows_difference (op : Operator) (input : Signal) :
    Yields (op.difference input)
      (·.Follows input (.processorOutput noId) (differencePlan input)) := by
  have geometry := input.geometry.follows_fromStart.withSign true
  unfold difference differencePlan
  cases input.kind with
  | uint | int | ufloat | sfloat => exact yields_pure (Signal.follows_outputAs rfl geometry)
  | _ => exact yields_error _

theorem yields_lengthAsWidth (length : Nat) :
    Yields (lengthAsWidth length) (· = UInt8.ofNat length) := by
  unfold lengthAsWidth
  split
  · exact yields_pure rfl
  · exact yields_error _

/-- Whatever a processor puts out and keeps has the frame that its operator asks for. -/
theorem follows_product (op : Operator) (input : Signal) :
    Yields (op.product input) (·.Follows op input) := by
  -- Most operators keep no state and either compute their output or pass their input on.
  have alone {op : Operator} (stateless : op.statePlan? input = none) {x : Except Fault Signal}
      (h : Yields x (·.Follows input (.processorOutput noId) (op.outputPlan input))) :
      Yields (x >>= fun output => pure (⟨output, none⟩ : Product)) (·.Follows op input) :=
    yields_bind_of h fun _ output => yields_pure ⟨output, stateless ▸ .none⟩
  have unchanged {op : Operator} (stateless : op.statePlan? input = none)
      (same : op.outputPlan input = input.plan) :
      Yields (pure ⟨input.outputLike input.geometry.fromStart, none⟩ : Except Fault Product)
        (·.Follows op input) :=
    yields_pure ⟨same ▸ input.follows_unchanged, stateless ▸ .none⟩
  cases op with
  | average | delay | time => exact unchanged rfl rfl
  | buffer =>
      exact yields_pure ⟨Signal.follows_outputOfKind ⟨.bytes, [], 0, false⟩ (Geometry.follows_empty _),
        .some (Signal.follows_stateLike rfl input.geometry.follows_fromStart)⟩
  | passthrough mode count =>
      refine yields_bind_of (Geometry.follows_scalar input.geometry 2 false) fun _ made => ?_
      exact yields_pure ⟨input.follows_unchanged, .some ⟨rfl, rfl, made, rfl⟩⟩
  | accumulate counting width =>
      refine yields_bind fun _ => ?_
      refine yields_bind_of (Geometry.follows_scalar input.geometry width _) fun _ made => ?_
      cases counting with
      | true =>
          exact yields_pure ⟨Signal.follows_outputOfKind (.scalar .uint width.toNat false) made,
            .some ⟨rfl, rfl, made, rfl⟩⟩
      | false =>
          refine yields_bind fun _ => yields_pure ⟨Signal.follows_outputLike rfl ?_, .some ?_⟩
          · exact made
          · exact Signal.follows_stateLike rfl made
  | math op operand every =>
      exact yields_bind fun _ => alone rfl (op.follows_output input operand)
  | pulse mode _ _ =>
      refine yields_bind fun _ => ?_
      cases mode with
      | width => exact alone rfl (input.follows_countOutput 2)
      | onDetect => exact alone rfl (input.follows_countOutput 1)
      | area =>
          refine yields_bind_of (input.geometry.follows_resized 4 rfl) fun _ made => ?_
          exact yields_pure ⟨Signal.follows_outputLike rfl made, .none⟩
      | peak => exact unchanged rfl rfl
  | compareOne => exact yields_bind fun _ => unchanged rfl rfl
  | compareMany _ reported _ =>
      refine yields_bind fun _ => ?_
      cases reported with
      | passFail | zone => exact alone rfl (input.follows_countOutput 1)
      | absolute | reference => exact unchanged rfl rfl
  | threshold mode _ _ =>
      refine yields_bind fun _ => ?_
      cases mode with
      | absolute => exact unchanged rfl rfl
      | binary => exact alone rfl input.follows_passFailOutput
  | differential mode _ =>
      refine yields_bind fun _ => ?_
      cases mode with
      | absolute => exact unchanged rfl rfl
      | binary => exact alone rfl input.follows_passFailOutput
      | difference => exact alone rfl (follows_difference _ input)
  | packer count =>
      have repeated := Geometry.follows_make input.geometry _
        (Geometry.map_ofNat_toNat input.geometry.widths) count input.geometry.signed
      unfold product
      simp only
      split
      · refine yields_bind_of repeated fun _ made => ?_
        exact yields_pure ⟨Signal.follows_outputLike rfl made, .none⟩
      · exact yields_bind fun _ => yields_bind_of repeated fun _ made =>
          yields_pure ⟨Signal.follows_outputLike rfl made, .none⟩
  | accounter mode length =>
      refine yields_bind fun _ => yields_bind_of (yields_lengthAsWidth _) ?_
      rintro _ rfl
      refine yields_bind_of (Geometry.follows_make input.geometry
        [length.toNat, input.geometry.frameLength] ?_ 1 input.geometry.signed)
        fun _ made => yields_pure ⟨Signal.follows_outputLike rfl made, .none⟩
      rw [List.map_cons, List.map_singleton, UInt8.ofNat_toNat]
  | fuser sources =>
      refine yields_bind_of (yields_lengthAsWidth _) ?_
      rintro _ rfl
      refine yields_bind_of (Geometry.follows_make input.geometry [_] rfl 1 false)
        fun _ made => yields_pure ⟨⟨rfl, rfl, made, rfl⟩, .none⟩
  | combine mode =>
      have combined : Yields (Geometry.lift (Geometry.scalar input.geometry.firstWidth false) >>=
          fun g => pure (⟨input.outputOfKind .ufloat g, none⟩ : Product))
          (·.Follows (.combine mode) input) :=
        yields_bind_of (Geometry.follows_scalar input.geometry _ false) fun _ made =>
          yields_pure ⟨Signal.follows_outputOfKind (.scalar .ufloat _ false) made, .none⟩
      unfold product
      simp only
      split
      · exact combined
      · exact yields_bind fun _ => combined

end Operator

end SensorHost
