import SensorHost.Processor.Chain
import SensorHost.Session.Call

/-!
# Reading, writing and streaming signals
-/

namespace SensorHost.Call

variable {waits : Bool}

/-- Makes a producer known under a name. -/
def register (name : String) (signal : Signal) : Call waits Unit :=
  update fun h => { h with producers := h.producers.insert name signal }

/-- Asks a module what it is. -/
def discover (moduleId : UInt8) : Call true ModuleInfo := do
  let register := Register.read Register.moduleInfo
  let reply ← ask ⟨moduleId, register⟩ (← host).settings.responseTimeout [[moduleId, register]]
  let info ← orFail (.protocol s!"empty info reply from module {moduleId}")
    (ModuleInfo.ofReply? reply)
  update fun h => { h with modules := h.modules.insert moduleId info }
  return info

/-- Reads the current value of a signal. -/
def read (signal : Signal) : Call true Sample := do
  let a := signal.address
  let register := Register.read a.register
  let frame := a.header register
  let reply ← ask ⟨a.moduleId, register⟩ (← host).settings.responseTimeout [frame]
  return signal.sample (reply.drop frame.length) false

/-- The bytes that set a signal to a host value. -/
def valueBytes (signal : Signal) (value : Float32) : Frame :=
  signal.toWireBytes value (max signal.geometry.frameLength 1)

/-- Writes a host value to the register of a signal. -/
def write (signal : Signal) (value : Float32) : Call waits Unit :=
  command (signal.address.header signal.address.register ++ valueBytes signal value)

/-- Turns the reports of a processor on or off. -/
def setNotify (id : UInt8) (enable : Bool) : Call waits Unit :=
  command (Processor.notifyFrame id enable)

/-- Subscribes to the samples of a signal. The reports of a processor are turned on; those of
other producers are the caller's matter. -/
def stream (number : Nat) (signal : Signal) : Call waits Unit := do
  if signal.address.isProcessorOutput then setNotify signal.address.id true
  update (·.subscribe number signal)

/-- Drops every subscription to the address of a signal, and turns the reports of a processor
off. -/
def unstream (signal : Signal) : Call waits Unit := do
  update (·.unsubscribe signal.address)
  if signal.address.isProcessorOutput then setNotify signal.address.id false

end SensorHost.Call
