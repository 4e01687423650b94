import SensorHost.Signal.Decoding
import SensorHost.Operator.Basic

/-!
# Operator bytes

The bytes that ask the board for a processor, after the byte that selects its input frame.
The first is the operator's code; widths and flags are packed into the second, where a width
is written less one and cut to the bits that the firmware reads. Operands are written in
firmware units.
-/

namespace SensorHost

/-- The code of each operator. -/
inductive OperatorCode where
  | passthrough
  | accumulator
  | average
  | comparison
  | combiner
  | time
  | math
  | delay
  | pulse
  | differential
  | threshold
  | buffer
  | packer
  | accounter
  | fuser
deriving DecidableEq, Repr

namespace OperatorCode

def toByte : OperatorCode → UInt8
  | passthrough => 0x01
  | accumulator => 0x02
  | average => 0x03
  | comparison => 0x06
  | combiner => 0x07
  | time => 0x08
  | math => 0x09
  | delay => 0x0a
  | pulse => 0x0b
  | differential => 0x0c
  | threshold => 0x0d
  | buffer => 0x0f
  | packer => 0x10
  | accounter => 0x11
  | fuser => 0x1b

def ofByte? : UInt8 → Option OperatorCode
  | 0x01 => some passthrough
  | 0x02 => some accumulator
  | 0x03 => some average
  | 0x06 => some comparison
  | 0x07 => some combiner
  | 0x08 => some time
  | 0x09 => some math
  | 0x0a => some delay
  | 0x0b => some pulse
  | 0x0c => some differential
  | 0x0d => some threshold
  | 0x0f => some buffer
  | 0x10 => some packer
  | 0x11 => some accounter
  | 0x1b => some fuser
  | _ => none

theorem ofByte?_toByte (code : OperatorCode) : ofByte? code.toByte = some code := by
  cases code <;> rfl

end OperatorCode

/-! ## Codes of modes -/

def PassthroughMode.toByte : PassthroughMode → UInt8
  | all => 0
  | conditional => 1
  | count => 2

def TimeMode.toByte : TimeMode → UInt8
  | absolute => 0
  | differential => 1

def MathOp.toByte : MathOp → UInt8
  | add => 1
  | multiply => 2
  | divide => 3
  | modulus => 4
  | exponent => 5
  | sqrt => 6
  | leftShift => 7
  | rightShift => 8
  | subtract => 9
  | absValue => 10
  | constant => 11

def PulseMode.toByte : PulseMode → UInt8
  | width => 0
  | area => 1
  | peak => 2
  | onDetect => 3

def ComparisonOp.toByte : ComparisonOp → UInt8
  | eq => 0
  | neq => 1
  | lt => 2
  | lte => 3
  | gt => 4
  | gte => 5

def ComparisonOutput.toByte : ComparisonOutput → UInt8
  | absolute => 0
  | reference => 1
  | zone => 2
  | passFail => 3

def ThresholdMode.toByte : ThresholdMode → UInt8
  | absolute => 0
  | binary => 1

def DifferentialMode.toByte : DifferentialMode → UInt8
  | absolute => 0
  | difference => 1
  | binary => 2

def AccounterMode.toByte : AccounterMode → UInt8
  | count => 0
  | time => 1

def CombineMode.toByte : CombineMode → UInt8
  | rms => 0
  | rss => 1

namespace MathOp

/-- The operation and operand that the firmware gets. It multiplies and divides by integers only,
so a fraction is sent as the opposite operation with its reciprocal. -/
def onBoard (op : MathOp) (input : Signal) (operand : Float32) : MathOp × Int :=
  let isFraction : Bool := operand.abs < 1 && operand != 0
  match op with
  | .multiply =>
    if isFraction then (.divide, Single.toInt32 (1 / operand)) else (op, Single.toInt32 operand)
  | .divide =>
    if isFraction then (.multiply, Single.toInt32 (1 / operand)) else (op, Single.toInt32 operand)
  | .leftShift | .rightShift => (op, Single.toInt32 operand)
  | _ => (op, input.toWire operand)

end MathOp

namespace Operator

/-- The prescaler that the firmware expects of an accounter. -/
def accounterPrescale : UInt8 := 3

/-- The bits of `value` under `mask`, moved to where a flag byte holds them. -/
def slot (value mask position : UInt8) : UInt8 := (value &&& mask) <<< position

/-- A frame length as a byte that is neither zero nor beyond 255. -/
def lengthByte (g : Geometry) : UInt8 := UInt8.ofNat (max (min g.frameLength 255) 1)

/-- The width of the first field as a byte that is not zero. -/
def widthByte (g : Geometry) : UInt8 := max g.firstWidth 1

/-- The operator bytes of a processor that `input` feeds and that produces `output`. -/
def encode (op : Operator) (input output : Signal) : Frame :=
  let g := input.geometry
  let frame := lengthByte g
  let width := widthByte g
  let signed := g.signed.toUInt8
  let fieldCount := max g.widths.length 1
  match op with
  | .passthrough mode count =>
    [OperatorCode.passthrough.toByte, mode.toByte] ++ LittleEndian.encode 2 count.toNat
  | .accumulate counting outputWidth =>
    [OperatorCode.accumulator.toByte,
      slot (outputWidth - 1) 0x3 0 ||| slot (frame - 1) 0x3 2 ||| slot counting.toUInt8 0x1 4]
  | .average samples highPass =>
    let values := UInt8.ofNat (min (fieldCount * max g.units.toNat 1) 255)
    [OperatorCode.average.toByte,
      slot (width - 1) 0x3 0 ||| slot (width - 1) 0x3 2 ||| slot (values - 1) 0x3 4
        ||| slot signed 0x1 6 ||| slot highPass.toUInt8 0x1 7,
      samples]
  | .delay samples => [OperatorCode.delay.toByte, slot (frame - 1) 0x0f 0, samples]
  | .time mode period =>
    [OperatorCode.time.toByte, slot (frame - 1) 0x7 0 ||| slot mode.toByte 0x1 3]
      ++ LittleEndian.encode 4 period.toNat
  | .buffer => [OperatorCode.buffer.toByte, slot (frame - 1) 0x1f 0]
  | .math mathOp operand everyField =>
    let outputWidth := widthByte output.geometry
    let (boardOp, boardOperand) := mathOp.onBoard input operand
    [OperatorCode.math.toByte,
      slot (outputWidth - 1) 0x3 0 ||| slot (width - 1) 0x3 2
        ||| slot output.geometry.signed.toUInt8 0x1 4,
      boardOp.toByte]
      ++ LittleEndian.encode 4 boardOperand
      ++ [if everyField then UInt8.ofNat (fieldCount - 1) else 0]
  | .pulse mode level pulseWidth =>
    [OperatorCode.pulse.toByte, frame - 1, 0x00, mode.toByte]
      ++ LittleEndian.encode 4 (input.toWire level)
      ++ LittleEndian.encode 2 pulseWidth.toNat
  | .compareOne comparison reference =>
    [OperatorCode.comparison.toByte, signed, comparison.toByte, 0x00]
      ++ LittleEndian.encode 4 (input.toWire reference)
  | .compareMany comparison reported references =>
    [OperatorCode.comparison.toByte,
      slot signed 0x1 0 ||| slot (width - 1) 0x3 1 ||| slot comparison.toByte 0x7 3
        ||| slot reported.toByte 0x3 6]
      ++ references.flatMap fun reference => input.toWireBytes reference width.toNat
  | .threshold mode boundary hysteresis =>
    [OperatorCode.threshold.toByte,
      slot (frame - 1) 0x3 0 ||| slot signed 0x1 2 ||| slot mode.toByte 0x3 3]
      ++ LittleEndian.encode 4 (input.toWire boundary)
      ++ LittleEndian.encode 2 (input.toWire hysteresis)
  | .differential mode distance =>
    [OperatorCode.differential.toByte,
      slot (frame - 1) 0x3 0 ||| slot signed 0x1 2 ||| slot mode.toByte 0x3 3]
      ++ LittleEndian.encode 4 (input.toWire distance)
  | .packer count => [OperatorCode.packer.toByte, slot (frame - 1) 0x1f 0, slot (count - 1) 0x1f 0]
  | .accounter mode length =>
    [OperatorCode.accounter.toByte, slot mode.toByte 0x3 0 ||| slot (length - 1) 0x3 4,
      accounterPrescale]
  | .fuser sources =>
    [OperatorCode.fuser.toByte, UInt8.ofNat sources.length] ++ sources.map (·.id)
  | .combine mode =>
    let count := UInt8.ofNat fieldCount
    [OperatorCode.combiner.toByte,
      slot (width - 1) 0x3 0 ||| slot (width - 1) 0x3 2 ||| slot (count - 1) 0x3 4
        ||| slot signed 0x1 6,
      mode.toByte]

end Operator

end SensorHost
