import SensorHost.Bytes
import SensorHost.Number.Single

/-!
# Readings

The value that a frame stands for. A reading keeps the shape that its signal gave it; the
accessors below convert between shapes where nothing is lost but the shape.
-/

namespace SensorHost

/-- A decoded value. -/
inductive Reading where
  /-- An unsigned integer of at most 64 bits. -/
  | unsigned (value : Nat)
  /-- A signed integer of at most 64 bits. -/
  | signed (value : Int)
  /-- A fixed-point value divided by its scale. -/
  | real (value : Float32)
  | flag (value : Bool)
  /-- The scaled components of a vector. -/
  | vector (components : List Float32)
  /-- Bytes without a meaning known to the host. -/
  | bytes (data : Frame)
  /-- One reading per member of a bundle. -/
  | array (items : List Reading)

namespace Reading

/-- The value as an unsigned 64-bit integer. -/
def toNat? : Reading → Option Nat
  | unsigned n => some n
  | signed n => if 0 ≤ n then some n.toNat else none
  | flag b => some b.toNat
  | _ => none

/-- The value as a signed 64-bit integer. -/
def toInt? : Reading → Option Int
  | signed n => some n
  | unsigned n => if n < 0x8000000000000000 then some n else none
  | flag b => some b.toNat
  | _ => none

/-- Any scalar as a number. -/
def toSingle? : Reading → Option Float32
  | real x => some x
  | unsigned n => some (Single.ofInt n)
  | signed n => some (Single.ofInt n)
  | flag b => some (Single.ofInt b.toNat)
  | _ => none

/-- Whether an integer differs from zero. -/
def toBool? : Reading → Option Bool
  | flag b => some b
  | unsigned n => some (n != 0)
  | signed n => some (n != 0)
  | _ => none

def components? : Reading → Option (List Float32)
  | vector components => some components
  | _ => none

def data? : Reading → Option Frame
  | bytes data => some data
  | _ => none

def items? : Reading → Option (List Reading)
  | array items => some items
  | _ => none

end Reading

end SensorHost
