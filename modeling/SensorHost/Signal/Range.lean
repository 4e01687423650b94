import SensorHost.Signal.Basic

/-!
# Byte ranges

A range names some bytes of a signal's frame, so that an event can copy them into a command. It
only points: it can neither be decoded nor fed to a processor.
-/

namespace SensorHost

/-- Some bytes of the frame at an address. -/
structure ByteRange where
  address : Address
  offset : UInt8
  length : UInt8
deriving DecidableEq, Repr

namespace Signal

/-- `length` bytes of the signal's frame from `offset` on. -/
def range (s : Signal) (offset length : Int) : Except Fault ByteRange :=
  if offset < 0 ∨ length < 0 ∨ offset + length > s.geometry.frameLength then
    .error (.index offset length s.geometry.frameLength)
  else .ok ⟨s.address, UInt8.ofNat offset.toNat, UInt8.ofNat length.toNat⟩

/-- The first unit of the signal's frame. -/
def wholeRange (s : Signal) : ByteRange :=
  ⟨s.address, s.geometry.offset, UInt8.ofNat s.geometry.unitLength⟩

end Signal

end SensorHost
