import SensorHost.Operator.Basic

/-!
# What a processor produces

The board never reports the geometry of a processor's output, so the host works it out from the
signal that feeds the processor and the operator: `Operator.product` states one rule per
operator. Outputs and states are placed at the processor registers with no id, and get the id
that the board assigns later.

A product is refused if the kind of the input has no rule, if a parameter is outside of what the
operator bytes can carry, or if the output frame would exceed 255 bytes.
-/

namespace SensorHost

/-- What comes out of a processor, and what it keeps. -/
structure Product where
  output : Signal
  state : Option Signal
deriving DecidableEq

namespace Product

/-- The product of the processor that got `id` from the board. -/
def withId (p : Product) (id : UInt8) : Product :=
  ⟨p.output.withId id, p.state.map (·.withId id)⟩

end Product

namespace Signal

/-! ## Outputs of processors fed by a signal -/

/-- An output of another kind. -/
def outputOfKind (input : Signal) (kind : Kind) (geometry : Geometry) : Signal :=
  derived kind input (.processorOutput noId) geometry

/-- An output of the same kind. -/
def outputLike (input : Signal) (geometry : Geometry) : Signal :=
  input.reparent input (.processorOutput noId) geometry

/-- An output of the given kind, which keeps everything of the input if that is its kind. -/
def outputAs (input : Signal) (kind : Kind) (geometry : Geometry) : Signal :=
  if kind = input.kind then input.outputLike geometry else input.outputOfKind kind geometry

/-- A state of the same kind and scale. -/
def stateLike (input : Signal) (geometry : Geometry) : Signal :=
  persisted input.kind (.processorState noId) geometry input.scale

/-- One signed byte that tells whether a test passed. -/
def passFailOutput (input : Signal) : Except Fault Signal := do
  return input.outputOfKind .int (← Geometry.lift (Geometry.scalar 1 true))

/-- An unsigned integer of `width` bytes. -/
def countOutput (input : Signal) (width : UInt8) : Except Fault Signal := do
  return input.outputOfKind .uint (← Geometry.lift (Geometry.scalar width false))

end Signal

namespace Operator

/-- The fault of an operator that the input cannot feed. -/
def refuse {α : Type} (op : Operator) (input : Signal) : Except Fault α :=
  .error (.unsupported input.kind.name op.name)

/-- Bytes and bundles have no numbers to compute with. -/
def requireNumeric (op : Operator) (input : Signal) : Except Fault Unit :=
  match input.kind with
  | .bytes | .array => op.refuse input
  | _ => .ok ()

/-- Only a single number can be summed up. -/
def requireScalar (op : Operator) (input : Signal) : Except Fault Unit :=
  match input.kind with
  | .bytes | .array | .vector => op.refuse input
  | _ => .ok ()

/-- A width or length that the operator bytes can carry. -/
def requireWidth (op : Operator) (input : Signal) (width : UInt8) : Except Fault Unit :=
  if 1 ≤ width ∧ width ≤ 4 then .ok () else op.refuse input

end Operator

namespace MathOp

/-- The kind and geometry of a result that becomes signed with its input or its operand. -/
def signedBy (input : Signal) (operand : Float32) (geometry : Geometry) : Kind × Geometry :=
  if input.geometry.signed || operand < 0 then (input.kind.toSigned, geometry.withSign true)
  else (input.kind, geometry)

/-- The output width of a left shift by `operand` bits, between one and four bytes. -/
def leftShiftWidth (width : UInt8) (operand : Float32) : UInt8 :=
  UInt8.ofNat (min (max (width.toNat + (Single.toInt32 operand).tdiv 8) 1) 4).toNat

/-- The output width of a right shift by `operand` bits, at least one byte; a width that exceeds
a byte loses its upper bits. -/
def rightShiftWidth (width : UInt8) (operand : Float32) : UInt8 :=
  UInt8.ofNat (max (width.toNat - (Single.toInt32 operand).tdiv 8) 1).toNat

/-- The output of a processor that computes with `operand`. -/
def output (op : MathOp) (input : Signal) (operand : Float32) : Except Fault Signal := do
  let g := input.geometry
  let width := g.firstWidth
  let resized (width : UInt8) : Except Fault Geometry := Geometry.lift (g.resized width)
  match op with
  | .add =>
    let (kind, geometry) := signedBy input operand (← resized 4)
    return input.outputAs kind geometry
  | .multiply =>
    let (kind, geometry) := signedBy input operand (← resized (if operand.abs < 1 then width else 4))
    return input.outputAs kind geometry
  | .divide =>
    let (kind, geometry) := signedBy input operand (← resized (if operand.abs < 1 then 4 else width))
    return input.outputAs kind geometry
  | .subtract => input.passFailOutput
  | .absValue => return input.outputAs input.kind.toUnsigned (g.withSign false)
  | .modulus => return input.outputLike g.fromStart
  | .exponent => return input.outputOfKind .bytes (← resized 4)
  | .leftShift => return input.outputOfKind .bytes (← resized (leftShiftWidth width operand))
  | .rightShift => return input.outputOfKind .bytes (← resized (rightShiftWidth width operand))
  | .sqrt => return input.outputOfKind .bytes (g.withSign false)
  | .constant =>
    let signed : Bool := operand < 0
    return input.outputOfKind (if signed then .int else .uint)
      (← Geometry.lift (Geometry.scalar 4 signed))

end MathOp

namespace Operator

/-- The output of a processor that reports differences between values. -/
def difference (op : Operator) (input : Signal) : Except Fault Signal :=
  let geometry := input.geometry.withSign true
  match input.kind with
  | .uint | .int => .ok (input.outputAs .int geometry)
  | .ufloat | .sfloat => .ok (input.outputAs .sfloat geometry)
  | _ => op.refuse input

/-- A frame length as the width of a field. -/
def lengthAsWidth (length : Nat) : Except Fault UInt8 :=
  if length ≤ 255 then .ok (UInt8.ofNat length) else .error (.geometry (.frameTooLong length))

/-- What a processor with this operator produces when `input` feeds it. -/
def product (op : Operator) (input : Signal) : Except Fault Product := do
  let g := input.geometry
  let unchanged : Signal := input.outputLike g.fromStart
  match op with
  | .buffer =>
    return ⟨input.outputOfKind .bytes .empty, some (input.stateLike g.fromStart)⟩
  | .accumulate counting width =>
    op.requireWidth input width
    let geometry ← Geometry.lift (Geometry.make [width] 1 0 (!counting && g.signed))
    if counting then
      return ⟨input.outputOfKind .uint geometry,
        some (Signal.root .uint (.processorState noId) geometry)⟩
    op.requireScalar input
    return ⟨input.outputLike geometry, some (input.stateLike geometry)⟩
  | .average .. | .delay _ | .time .. => return ⟨unchanged, none⟩
  | .passthrough .. =>
    let counter ← Geometry.lift (Geometry.scalar 2 false)
    return ⟨unchanged, some (Signal.root .uint (.processorState noId) counter)⟩
  | .math mathOp operand _ =>
    op.requireNumeric input
    return ⟨← mathOp.output input operand, none⟩
  | .pulse mode .. =>
    op.requireNumeric input
    match mode with
    | .width => return ⟨← input.countOutput 2, none⟩
    | .area => return ⟨input.outputLike (← Geometry.lift (g.resized 4)), none⟩
    | .peak => return ⟨unchanged, none⟩
    | .onDetect => return ⟨← input.countOutput 1, none⟩
  | .compareOne .. =>
    op.requireNumeric input
    return ⟨unchanged, none⟩
  | .compareMany _ output _ =>
    op.requireNumeric input
    match output with
    | .passFail | .zone => return ⟨← input.countOutput 1, none⟩
    | .absolute | .reference => return ⟨unchanged, none⟩
  | .threshold mode .. =>
    op.requireNumeric input
    match mode with
    | .absolute => return ⟨unchanged, none⟩
    | .binary => return ⟨← input.passFailOutput, none⟩
  | .differential mode _ =>
    op.requireNumeric input
    match mode with
    | .absolute => return ⟨unchanged, none⟩
    | .binary => return ⟨← input.passFailOutput, none⟩
    | .difference => return ⟨← op.difference input, none⟩
  | .packer count =>
    unless 1 ≤ count ∧ count ≤ 32 do
      op.refuse input
    return ⟨input.outputLike (← Geometry.lift (g.repeated count)), none⟩
  | .accounter _ length =>
    op.requireWidth input length
    let frame ← lengthAsWidth g.frameLength
    let geometry ← Geometry.lift (Geometry.make [length, frame] 1 0 g.signed)
    return ⟨input.outputLike geometry, none⟩
  | .fuser sources =>
    let fused ← lengthAsWidth
      (g.frameLength + total (fun source => source.state.geometry.frameLength) sources)
    let geometry ← Geometry.lift (Geometry.make [fused] 1 0 false)
    return ⟨Signal.array (some input) (.processorOutput noId) geometry
      (input :: sources.map (·.state)), none⟩
  | .combine _ =>
    unless input.kind = .vector do
      op.refuse input
    return ⟨input.outputOfKind .ufloat (← Geometry.lift (Geometry.scalar g.firstWidth false)), none⟩

end Operator

end SensorHost
