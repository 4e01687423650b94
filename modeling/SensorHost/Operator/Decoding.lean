import SensorHost.Operator.Encoding

/-!
# Operators found on a board

After a reconnect the host pulls operator bytes off the board and turns them back into
operators. Firmware units become host values again against the signal that feeds the processor;
a fuser names the processors that it joins by their ids, which the caller resolves to the states
that they keep.

Flag bits that no operator sets are ignored. Bytes that end too early, an unknown code and an
unresolved id are faults.
-/

namespace SensorHost

def MathOp.ofByte? : UInt8 → Option MathOp
  | 1 => some add
  | 2 => some multiply
  | 3 => some divide
  | 4 => some modulus
  | 5 => some exponent
  | 6 => some sqrt
  | 7 => some leftShift
  | 8 => some rightShift
  | 9 => some subtract
  | 10 => some absValue
  | 11 => some constant
  | _ => none

theorem MathOp.ofByte?_toByte (op : MathOp) : ofByte? op.toByte = some op := by
  cases op <;> rfl

def PassthroughMode.ofByte : UInt8 → PassthroughMode
  | 0 => all
  | 1 => conditional
  | _ => count

def PulseMode.ofByte : UInt8 → PulseMode
  | 0 => width
  | 1 => area
  | 2 => peak
  | _ => onDetect

def ComparisonOp.ofByte : UInt8 → ComparisonOp
  | 0 => eq
  | 1 => neq
  | 2 => lt
  | 3 => lte
  | 4 => gt
  | _ => gte

def ComparisonOutput.ofByte : UInt8 → ComparisonOutput
  | 0 => absolute
  | 1 => reference
  | 2 => zone
  | _ => passFail

def DifferentialMode.ofByte : UInt8 → DifferentialMode
  | 0 => absolute
  | 1 => difference
  | _ => binary

namespace Signal

/-- A host value of firmware units: divided by the scale where the kind has one. -/
def ofWire (s : Signal) (wire : Int) : Float32 :=
  if s.kind.isScaled then Single.ofInt wire / s.scale else Single.ofInt wire

end Signal

namespace Operator

/-- At most `count` pieces of `width` bytes each, the last one perhaps shorter. -/
def pieces (width : Nat) : Nat → Frame → List Frame
  | 0, _ => []
  | _, [] => []
  | count + 1, bytes => bytes.take width :: pieces width count (bytes.drop width)

/-- Looks up every id in the order given; the first without a state is a fault. -/
def resolveFused (fusedState : UInt8 → Option Signal) : Frame → Except Fault (List FusedSource)
  | [] => .ok []
  | id :: ids =>
    match fusedState id with
    | none => .error (.unknownProcessor s!"fused id {id}")
    | some state => do return ⟨id, state⟩ :: (← resolveFused fusedState ids)

/-- The operator that bytes ask for when `input` feeds their processor. -/
def decode (bytes : Frame) (input : Signal) (fusedState : UInt8 → Option Signal) :
    Except Fault Operator := do
  let short {α : Type} : Except Fault α := .error (.operatorTooShort bytes)
  let byte (i : Nat) : Except Fault UInt8 :=
    match bytes[i]? with
    | some b => .ok b
    | none => short
  let field (i width : Nat) : Except Fault Frame :=
    if i + width ≤ bytes.length then .ok ((bytes.drop i).take width) else short
  let operand (i : Nat) : Except Fault Float32 := do
    return input.ofWire (LittleEndian.signed (← field i 4))
  let code ← byte 0
  let some code := OperatorCode.ofByte? code | throw (.operatorUnknown code)
  match code with
  | .passthrough =>
    let mode := PassthroughMode.ofByte (← byte 1)
    return .passthrough mode (UInt16.ofNat (LittleEndian.unsigned (← field 2 2)))
  | .accumulator =>
    let flags ← byte 1
    return .accumulate (flags &&& 0x10 != 0) ((flags &&& 0x3) + 1)
  | .average =>
    let samples ← byte 2
    let flags ← byte 1
    return .average samples (flags &&& 0x80 != 0)
  | .delay => return .delay (← byte 2)
  | .time =>
    let period ← field 2 4
    let flags ← byte 1
    return .time (if (flags >>> 3) &&& 0x1 = 0 then .absolute else .differential)
      (UInt32.ofNat (LittleEndian.unsigned period))
  | .buffer => return .buffer
  | .math =>
    let some op := MathOp.ofByte? (← byte 2) | short
    let wire := LittleEndian.signed (← field 3 4)
    let value := match op with
      | .multiply | .divide | .leftShift | .rightShift => Single.ofInt wire
      | _ => input.ofWire wire
    return .math op value (bytes[7]?.any (· != 0))
  | .pulse =>
    let mode := PulseMode.ofByte (← byte 3)
    let threshold ← operand 4
    return .pulse mode threshold (UInt16.ofNat (LittleEndian.unsigned (← field 8 2)))
  | .comparison =>
    let flags ← byte 1
    if bytes.length = 8 ∧ bytes[3]? = some 0 ∧ flags ≤ 1 then
      return .compareOne (ComparisonOp.ofByte (← byte 2)) (← operand 4)
    let signed := flags &&& 0x1 != 0
    let width := ((flags >>> 1) &&& 0x3).toNat + 1
    let references := (pieces width bytes.length (bytes.drop 2)).map fun piece =>
      input.ofWire (widen piece width signed)
    return .compareMany (ComparisonOp.ofByte ((flags >>> 3) &&& 0x7))
      (ComparisonOutput.ofByte ((flags >>> 6) &&& 0x3)) references
  | .threshold =>
    let flags ← byte 1
    let boundary ← operand 2
    let hysteresis := input.ofWire (LittleEndian.unsigned (← field 6 2))
    return .threshold (if (flags >>> 3) &&& 0x1 = 0 then .absolute else .binary)
      boundary hysteresis
  | .differential =>
    let mode := DifferentialMode.ofByte (((← byte 1) >>> 3) &&& 0x3)
    return .differential mode (← operand 2)
  | .packer => return .packer (((← byte 2) &&& 0x1f) + 1)
  | .accounter =>
    let flags ← byte 1
    return .accounter (if flags &&& 0x3 = 0 then .count else .time)
      (((flags >>> 4) &&& 0x3) + 1)
  | .fuser =>
    let count ← byte 1
    return .fuser (← resolveFused fusedState (← field 2 count.toNat))
  | .combiner => return .combine (if (← byte 2) = 0 then .rms else .rss)

end Operator

end SensorHost
