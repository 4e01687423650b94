import SensorHost.Reading
import SensorHost.Signal.Basic

/-!
# Decoding frames

How a signal turns the payload of a frame into a reading, and a host value into the integer that
the firmware expects.

A live payload is read from the signal's offset. The payload of a replayed log is cut to the
signal already and is read from its start. Bytes that a payload lacks count as zeros, or as ones
above a negative signed number; bytes beyond the first unit do not count.
-/

namespace SensorHost

/-- A reading and where it came from. -/
structure Sample where
  address : Address
  reading : Reading

/-- The number in the first `width` bytes of `data`, held to 64 bits in two's complement. -/
def widen (data : Frame) (width : Nat) (signed : Bool) : Int :=
  let field := data.take (min width 8)
  if signed then LittleEndian.signed field
  else Int.bmod (LittleEndian.unsigned field) UInt64.size

namespace Signal

/-- The part of a payload that the signal reads. -/
def positioned (s : Signal) (payload : Frame) (replayed : Bool) : Frame :=
  if replayed then payload else payload.drop s.geometry.offset.toNat

/-- The numbers in consecutive fields of `data`, divided by `scale`. -/
def componentsOf (signed : Bool) (scale : Float32) : List UInt8 → Frame → List Float32
  | [], _ => []
  | width :: widths, data =>
    Single.ofInt (widen data width.toNat signed) / scale ::
      componentsOf signed scale widths (data.drop width.toNat)

mutual

/-- The reading of data that starts where the signal starts. -/
def readingOf : Signal → Frame → Reading
  | ⟨kind, address, geometry, ownScale, feed, axes, members⟩, data =>
    let s : Signal := ⟨kind, address, geometry, ownScale, feed, axes, members⟩
    let width := geometry.firstWidth.toNat
    match kind with
    | .uint =>
      if geometry.signed then .signed (widen data width true)
      else .unsigned (LittleEndian.unsigned (data.take (min width 8)))
    | .int => .signed (widen data width geometry.signed)
    | .bool => .flag (data.head?.any (· != 0))
    | .ufloat => .real (Single.ofInt (LittleEndian.unsigned (data.take (min width 8))) / s.scale)
    | .sfloat => .real (Single.ofInt (widen data width true) / s.scale)
    | .vector => .vector (componentsOf geometry.signed s.scale geometry.widths data)
    | .bytes => .bytes (if geometry.unitLength = 0 then data else data.take geometry.unitLength)
    | .array => if members.isEmpty then .bytes data else .array (readingsOf members data)

/-- The readings of members whose frames follow each other in `data`. -/
def readingsOf : List Signal → Frame → List Reading
  | [], _ => []
  | member :: rest, data =>
    readingOf member data :: readingsOf rest (data.drop member.geometry.frameLength)

end

/-- The reading of a payload. -/
def reading (s : Signal) (payload : Frame) (replayed : Bool) : Reading :=
  s.readingOf (s.positioned payload replayed)

/-- The reading of a payload as a sample. -/
def sample (s : Signal) (payload : Frame) (replayed : Bool) : Sample :=
  ⟨s.address, s.reading payload replayed⟩

/-- One sample per unit of a payload, in order. -/
def samples (s : Signal) (payload : Frame) (replayed : Bool) : List Sample :=
  let unit := s.geometry.unitLength
  if s.geometry.units ≤ 1 ∨ unit = 0 then [s.sample payload replayed]
  else
    let data := s.positioned payload replayed
    (List.range s.geometry.units.toNat).map fun i => ⟨s.address, s.readingOf (data.drop (i * unit))⟩

/-- A host value in firmware units: multiplied by the scale where the kind has one, and cut to
an integer. -/
def toWire (s : Signal) (value : Float32) : Int :=
  match s.kind with
  | .uint | .int | .bool | .bytes => Single.toInt64 value
  | _ => Single.toInt64 (value * s.scale)

/-- The lowest bytes of a host value in firmware units, never more than eight. -/
def toWireBytes (s : Signal) (value : Float32) (width : Nat) : Frame :=
  LittleEndian.encode (min width 8) (s.toWire value)

end Signal

end SensorHost
