import SensorHost.Recording.Recorder

/-!
# Events on the board

An event makes the board run a command whenever its trigger produces data. Two frames create it:
an entry that names the trigger, the module and register of the command and the number of its
parameters, and then the parameters themselves. The board answers with the event's id.
-/

namespace SensorHost

/-- An event that exists on the board. -/
structure Event where
  id : UInt8
  trigger : Address
  command : Frame
  copy : Option PayloadCopy
deriving DecidableEq, Repr

namespace Event

/-- The entry frame and the parameter frame that bind a command to a trigger. -/
def frames (trigger : Address) (command : Frame) (copy : Option PayloadCopy) :
    Except Fault (List Frame) :=
  match command with
  | moduleId :: register :: parameters =>
    .ok [
      [ModuleId.event, Register.Event.entry] ++ trigger.toBytes
        ++ [moduleId, register, UInt8.ofNat parameters.length]
        ++ (copy.map PayloadCopy.encode).getD [],
      [ModuleId.event, Register.Event.parameters] ++ parameters]
  | _ =>
    .error (.recorder s!"command of {command.length} bytes has no module/register header")

/-- The frame that removes an event. -/
def removeFrame (id : UInt8) : Frame := [ModuleId.event, Register.Event.remove, id]

/-- The frame that removes every event. -/
def removeAllFrame : Frame := [ModuleId.event, Register.Event.removeAll]

end Event

end SensorHost
