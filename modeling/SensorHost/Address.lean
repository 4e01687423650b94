import SensorHost.Bytes

/-!
# Addresses and registers

A data source on a board is named by three bytes: the firmware module, a register of that
module, and an id for registers that exist many times. The register byte of a command packs
two flags above a six-bit opcode: bit 7 asks for a read, bit 6 makes the read silent.
-/

namespace SensorHost

/-- The id of a register that exists once. -/
def noId : UInt8 := 0xff

/-! The ids of the firmware modules. -/

namespace ModuleId

def switch : UInt8 := 0x01
def led : UInt8 := 0x02
def accelerometer : UInt8 := 0x03
def temperature : UInt8 := 0x04
def gpio : UInt8 := 0x05
def haptic : UInt8 := 0x08
def processor : UInt8 := 0x09
def event : UInt8 := 0x0a
def logging : UInt8 := 0x0b
def timer : UInt8 := 0x0c
def script : UInt8 := 0x0f
def gyro : UInt8 := 0x13
def sensorFusion : UInt8 := 0x19
def debug : UInt8 := 0xfe

/-- Every module of the firmware, in the order of their ids. -/
def all : List UInt8 :=
  [switch, led, accelerometer, temperature, gpio, haptic, processor, event, logging, timer,
   script, gyro, sensorFusion, debug]

end ModuleId

namespace Register

/-- The register at which every module reports what it is. -/
def moduleInfo : UInt8 := 0x00

/-! Registers of the processor module. -/

namespace Processor

def create : UInt8 := 0x02
def output : UInt8 := 0x03
def state : UInt8 := 0x04
def parameter : UInt8 := 0x05
def remove : UInt8 := 0x06
def notify : UInt8 := 0x07
def removeAll : UInt8 := 0x08

end Processor

/-! Registers of the event module. -/

namespace Event

def entry : UInt8 := 0x02
def parameters : UInt8 := 0x03
def remove : UInt8 := 0x04
def removeAll : UInt8 := 0x05

end Event

/-! Registers of the script module. -/

namespace Script

def start : UInt8 := 0x02
def addCommand : UInt8 := 0x03
def finish : UInt8 := 0x04
def execute : UInt8 := 0x05
def eraseAll : UInt8 := 0x08
def addHead : UInt8 := 0x09

end Script

/-- The register byte that asks for a read. -/
def read (register : UInt8) : UInt8 := register ||| 0x80

/-- The register byte that asks for a silent read. -/
def silentRead (register : UInt8) : UInt8 := register ||| 0x80 ||| 0x40

/-- Whether a register byte asks for a read. -/
def isRead (register : UInt8) : Bool := register &&& 0x80 != 0

/-- The register byte without its flags. -/
def opcode (register : UInt8) : UInt8 := register &&& 0x3f

end Register

/-- The name of a data source on the board. -/
structure Address where
  moduleId : UInt8
  register : UInt8
  id : UInt8
deriving DecidableEq, Repr, Inhabited

/-- What a frame and the answer to it have in common: their module and register bytes. -/
structure ReplyKey where
  moduleId : UInt8
  register : UInt8
deriving DecidableEq, Repr, Inhabited

namespace ReplyKey

/-- The key as messages quote it. -/
def text (key : ReplyKey) : String :=
  Hex.byte key.moduleId ++ ":" ++ Hex.byte key.register

/-- The key of a frame; a frame without module and register has none. -/
def ofFrame? : Frame → Option ReplyKey
  | moduleId :: register :: _ => some ⟨moduleId, register⟩
  | _ => none

end ReplyKey

namespace Address

/-- The address of a register that exists once. -/
def unindexed (moduleId register : UInt8) : Address := ⟨moduleId, register, noId⟩

/-- Where the processor `id` reports its output. -/
def processorOutput (id : UInt8) : Address := ⟨ModuleId.processor, Register.Processor.output, id⟩

/-- Where the processor `id` keeps its state. -/
def processorState (id : UInt8) : Address :=
  ⟨ModuleId.processor, Register.silentRead Register.Processor.state, id⟩

/-- Whether processors report at this address. -/
def isProcessorOutput (a : Address) : Bool :=
  a.moduleId == ModuleId.processor && a.register == Register.Processor.output

/-- Whether the address names one of many registers. -/
def isIndexed (a : Address) : Bool := a.id != noId

/-- The same register under another id. -/
def withId (a : Address) (id : UInt8) : Address := { a with id }

def toBytes (a : Address) : Frame := [a.moduleId, a.register, a.id]

/-- The key of frames that come from this address. -/
def key (a : Address) : ReplyKey := ⟨a.moduleId, a.register⟩

/-- The address as messages quote it. -/
def text (a : Address) : String :=
  Hex.byte a.moduleId ++ ":" ++ Hex.byte a.register ++ ":" ++ Hex.byte a.id

/-- Addresses are ordered by module, then register, then id. -/
instance : Ord Address where
  compare a b :=
    (compare a.moduleId b.moduleId).then <|
      (compare a.register b.register).then (compare a.id b.id)

/-- The module and register of a command, and the id if the register exists many times. -/
def header (a : Address) (register : UInt8) : Frame :=
  a.moduleId :: register :: (if a.isIndexed then [a.id] else [])

end Address

end SensorHost
