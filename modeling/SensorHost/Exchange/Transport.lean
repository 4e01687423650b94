import SensorHost.Fault

/-!
# Transports

A transport pushes one frame at a time towards a board. It takes the frame or refuses it, and a
board that answers at once hands its answers back in the same step, in order. The state of a
transport is a parameter of everything built on it, so that a law about a link holds of every
board.
-/

namespace SensorHost

/-- What can carry frames to a board. -/
class Transport (σ : Type) where
  /-- Sends a frame: the frames that come back at once, or why it was refused. -/
  send : σ → Frame → Except Fault (List Frame) × σ
  /-- The longest command that fits in one frame. -/
  frameLimit : σ → Nat

end SensorHost
