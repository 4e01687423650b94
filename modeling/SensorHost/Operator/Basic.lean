import SensorHost.Signal.Basic

/-!
# Operators

An operator is the work that one on-board processor does. The host never does it; it only has to
know what comes out (`Operator.product`), how to ask for it (`Operator.encode`), and what a
processor found on the board was asked for (`Operator.decode`). Operands are host values; they
become firmware units when the operator is encoded.
-/

namespace SensorHost

inductive PassthroughMode where
  | all
  | conditional
  | count
deriving DecidableEq, Repr

inductive TimeMode where
  | absolute
  | differential
deriving DecidableEq, Repr

inductive MathOp where
  | add
  | multiply
  | divide
  | modulus
  | exponent
  | sqrt
  | leftShift
  | rightShift
  | subtract
  | absValue
  | constant
deriving DecidableEq, Repr

inductive PulseMode where
  | width
  | area
  | peak
  | onDetect
deriving DecidableEq, Repr

inductive ComparisonOp where
  | eq
  | neq
  | lt
  | lte
  | gt
  | gte
deriving DecidableEq, Repr

/-- What a comparison with several references reports. -/
inductive ComparisonOutput where
  /-- The input, when the comparison passes. -/
  | absolute
  /-- The reference that matched. -/
  | reference
  /-- The index of the reference that matched. -/
  | zone
  /-- One on a pass and zero on a failure. -/
  | passFail
deriving DecidableEq, Repr

inductive ThresholdMode where
  | absolute
  | binary
deriving DecidableEq, Repr

inductive DifferentialMode where
  | absolute
  | difference
  | binary
deriving DecidableEq, Repr

inductive AccounterMode where
  | count
  | time
deriving DecidableEq, Repr

inductive CombineMode where
  /-- The root of the mean of the squares. -/
  | rms
  /-- The root of the sum of the squares. -/
  | rss
deriving DecidableEq, Repr

/-- A processor whose persisted state a fuser joins to its input. -/
structure FusedSource where
  id : UInt8
  state : Signal
deriving DecidableEq

inductive Operator where
  | passthrough (mode : PassthroughMode) (count : UInt16)
  /-- Adds values up, or counts them. -/
  | accumulate (counting : Bool) (width : UInt8)
  | average (samples : UInt8) (highPass : Bool)
  | delay (samples : UInt8)
  | time (mode : TimeMode) (period : UInt32)
  | buffer
  | math (op : MathOp) (operand : Float32) (everyField : Bool)
  | pulse (mode : PulseMode) (threshold : Float32) (width : UInt16)
  | compareOne (op : ComparisonOp) (reference : Float32)
  | compareMany (op : ComparisonOp) (output : ComparisonOutput) (references : List Float32)
  | threshold (mode : ThresholdMode) (boundary hysteresis : Float32)
  | differential (mode : DifferentialMode) (distance : Float32)
  | packer (count : UInt8)
  | accounter (mode : AccounterMode) (length : UInt8)
  | fuser (sources : List FusedSource)
  | combine (mode : CombineMode)
deriving DecidableEq

/-! ## Names in messages -/

def MathOp.name : MathOp → String
  | add => "add"
  | multiply => "multiply"
  | divide => "divide"
  | modulus => "modulus"
  | exponent => "exponent"
  | sqrt => "sqrt"
  | leftShift => "leftshift"
  | rightShift => "rightshift"
  | subtract => "subtract"
  | absValue => "absvalue"
  | constant => "constant"

def PulseMode.name : PulseMode → String
  | width => "width"
  | area => "area"
  | peak => "peak"
  | onDetect => "ondetect"

def ComparisonOutput.name : ComparisonOutput → String
  | absolute => "absolute"
  | reference => "reference"
  | zone => "zone"
  | passFail => "passfail"

def ThresholdMode.name : ThresholdMode → String
  | absolute => "absolute"
  | binary => "binary"

def DifferentialMode.name : DifferentialMode → String
  | absolute => "absolute"
  | difference => "difference"
  | binary => "binary"

def CombineMode.name : CombineMode → String
  | rms => "rms"
  | rss => "rss"

namespace Operator

/-- The operator as messages name it. -/
def name : Operator → String
  | passthrough .. => "passthrough"
  | accumulate true _ => "counter"
  | accumulate false _ => "accumulate"
  | average .. => "average"
  | delay .. => "delay"
  | time .. => "time"
  | buffer => "buffer"
  | math op .. => "math." ++ op.name
  | pulse mode .. => "pulse." ++ mode.name
  | compareOne .. => "comparison.single"
  | compareMany _ output _ => "comparison.multi." ++ output.name
  | threshold mode .. => "threshold." ++ mode.name
  | differential mode _ => "differential." ++ mode.name
  | packer .. => "packer"
  | accounter .. => "accounter"
  | fuser .. => "fuser"
  | combine mode => "combine." ++ mode.name

/-- The state that a fuser joins under an id; of several the first. -/
def fusedState? : Operator → UInt8 → Option Signal
  | fuser sources, id => (sources.find? (·.id = id)).map (·.state)
  | _, _ => none

/-! ## Equality of operands as numbers -/

/-- Whether two operators are the same, their operands compared as numbers. -/
def sameValue : Operator → Operator → Bool
  | math op x every, math op' x' every' => op == op' && x == x' && every == every'
  | pulse mode x width, pulse mode' x' width' => mode == mode' && x == x' && width == width'
  | compareOne op x, compareOne op' x' => op == op' && x == x'
  | compareMany op out xs, compareMany op' out' xs' => op == op' && out == out' && xs == xs'
  | threshold mode x y, threshold mode' x' y' => mode == mode' && x == x' && y == y'
  | differential mode x, differential mode' x' => mode == mode' && x == x'
  | fuser sources, fuser sources' =>
    sources.length == sources'.length &&
      (sources.zip sources').all fun (a, b) => a.id == b.id && a.state.sameValue b.state
  | a, b => decide (a = b)

end Operator

end SensorHost
