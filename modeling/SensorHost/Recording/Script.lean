import SensorHost.Address

/-!
# Scripts on the board

A script is a list of commands that the board keeps, and may run when it starts. It is written
between a start frame, which the board answers with the script's id, and a finish frame.
-/

namespace SensorHost

/-- A script that exists on the board. -/
structure Script where
  id : UInt8
  autoRun : Bool
  commands : List Frame
deriving DecidableEq, Repr

namespace Script

/-- The frames that add one command to the script being written. A command of `limit` bytes or
more does not fit behind the header of one frame, so its first two bytes go ahead of the rest. -/
def commandFrames (command : Frame) (limit : Nat) : List Frame :=
  if limit ≤ command.length ∧ 2 < command.length then
    [[ModuleId.script, Register.Script.addHead] ++ command.take 2,
      [ModuleId.script, Register.Script.addCommand] ++ command.drop 2]
  else
    [[ModuleId.script, Register.Script.addCommand] ++ command]

def startFrame (autoRun : Bool) : Frame :=
  [ModuleId.script, Register.Script.start, autoRun.toUInt8]

def finishFrame : Frame := [ModuleId.script, Register.Script.finish]

def executeFrame (id : UInt8) : Frame := [ModuleId.script, Register.Script.execute, id]

def eraseAllFrame : Frame := [ModuleId.script, Register.Script.eraseAll]

end Script

end SensorHost
