import SensorHost.SortedMap
import SensorHost.Exchange.Transport

/-!
# A simulated board

A board that answers as the firmware does, for trying a host without hardware. It numbers
processors, events and scripts in the order in which they are created, stores what it was told
under those numbers, and remembers plain writes so that later reads find them. Faults can be
injected: a creation may lose its answer, the board may fall silent, and frames to one register
may be refused.
-/

namespace SensorHost

/-- What a board is asked to do by the module and register of a frame. -/
inductive BoardCommand where
  | reportModule
  | createProcessor
  | readProcessor
  | readState
  | writeState
  | setParameter
  | removeProcessor
  | removeProcessors
  | setNotify
  | eventEntry
  | eventParameters
  | removeEvent
  | removeEvents
  | startScript
  | addHead
  | addCommand
  | finishScript
  | executeScript
  | eraseScripts
  | readRegister
  | writeRegister
deriving DecidableEq, Repr

namespace BoardCommand

/-- Reads other than those of processors and module reports are reads of a plain register. -/
def ofRead (moduleId opcode : UInt8) : BoardCommand :=
  if opcode = Register.moduleInfo then reportModule
  else if moduleId = ModuleId.processor then
    if opcode = Register.Processor.create then readProcessor
    else if opcode = Register.Processor.state then readState
    else readRegister
  else readRegister

def ofProcessorWrite (opcode : UInt8) : BoardCommand :=
  if opcode = Register.Processor.create then createProcessor
  else if opcode = Register.Processor.state then writeState
  else if opcode = Register.Processor.parameter then setParameter
  else if opcode = Register.Processor.remove then removeProcessor
  else if opcode = Register.Processor.removeAll then removeProcessors
  else if opcode = Register.Processor.notify then setNotify
  else writeRegister

def ofEventWrite (opcode : UInt8) : BoardCommand :=
  if opcode = Register.Event.entry then eventEntry
  else if opcode = Register.Event.parameters then eventParameters
  else if opcode = Register.Event.remove then removeEvent
  else if opcode = Register.Event.removeAll then removeEvents
  else writeRegister

def ofScriptWrite (opcode : UInt8) : BoardCommand :=
  if opcode = Register.Script.start then startScript
  else if opcode = Register.Script.addHead then addHead
  else if opcode = Register.Script.addCommand then addCommand
  else if opcode = Register.Script.finish then finishScript
  else if opcode = Register.Script.execute then executeScript
  else if opcode = Register.Script.eraseAll then eraseScripts
  else writeRegister

/-- The command that a frame to this register gives. -/
def ofRegister (moduleId register : UInt8) : BoardCommand :=
  let opcode := Register.opcode register
  if Register.isRead register then ofRead moduleId opcode
  else if moduleId = ModuleId.processor then ofProcessorWrite opcode
  else if moduleId = ModuleId.event then ofEventWrite opcode
  else if moduleId = ModuleId.script then ofScriptWrite opcode
  else writeRegister

end BoardCommand

/-- The state of a simulated board. -/
structure Board where
  /-- Every frame that the board took, in order. -/
  sent : List Frame
  /-- For each processor the bytes of its creation after module and register. -/
  processors : SortedMap UInt8 Frame
  states : SortedMap UInt8 Frame
  nextProcessor : UInt8
  /-- The number of creations asked for so far, and the one that gets no answer. -/
  creations : Nat
  lostCreation : Option Nat
  /-- For each event its entry bytes and its parameter bytes. -/
  events : SortedMap UInt8 (Frame × Frame)
  /-- An entry that waits for its parameters. -/
  pendingEntry : Option Frame
  nextEvent : UInt8
  entries : Nat
  lostEntry : Option Nat
  scripts : SortedMap UInt8 (List Frame)
  /-- The script being written. -/
  openScript : Option UInt8
  /-- The first bytes of a command whose rest is still to come. -/
  head : Option Frame
  nextScript : UInt8
  /-- The scripts that were asked to run, in order. -/
  executed : List UInt8
  modules : SortedMap UInt8 Frame
  /-- The values of plain registers, by module, opcode and id; the newest first. -/
  registers : List (Address × Frame)
  notify : SortedMap UInt8 Bool
  silent : Bool
  /-- The register whose frames are refused. -/
  rejected : Option ReplyKey
  frameLimit : Nat

namespace Board

/-- The longest command that the firmware takes in one frame. -/
def firmwareFrameLimit : Nat := 18

/-- A board on which nothing has been created. -/
def new (frameLimit : Nat) : Board where
  sent := []
  processors := .empty
  states := .empty
  nextProcessor := 0
  creations := 0
  lostCreation := none
  events := .empty
  pendingEntry := none
  nextEvent := 0
  entries := 0
  lostEntry := none
  scripts := .empty
  openScript := none
  head := none
  nextScript := 0
  executed := []
  modules := .empty
  registers := []
  notify := .empty
  silent := false
  rejected := none
  frameLimit

instance : Inhabited Board := ⟨new firmwareFrameLimit⟩

/-! ## What a test sets up -/

/-- Gives a module something to report. -/
def addModule (b : Board) (moduleId : UInt8) (report : Frame) : Board :=
  { b with modules := b.modules.insert moduleId report }

/-- The registers with a value set. -/
def written (registers : List (Address × Frame)) (place : Address) (value : Frame) :
    List (Address × Frame) :=
  (place, value) :: registers.filter (·.1 != place)

/-- Sets what reads of an address find. -/
def setRegister (b : Board) (a : Address) (value : Frame) : Board :=
  { b with registers := written b.registers ⟨a.moduleId, Register.opcode a.register, a.id⟩ value }

/-- Loses the answer to the `n`-th creation from now. -/
def loseCreation (b : Board) (n : Nat) : Board := { b with lostCreation := some (b.creations + n) }

/-- Loses the answer to the `n`-th event from now. -/
def loseEvent (b : Board) (n : Nat) : Board := { b with lostEntry := some (b.entries + n) }

def reject (b : Board) (key : ReplyKey) : Board := { b with rejected := some key }

def setSilent (b : Board) (silent : Bool) : Board := { b with silent }

/-! ## What a test looks at -/

/-- The frames taken so far that begin with this module and register. -/
def sentTo (b : Board) (key : ReplyKey) : List Frame :=
  b.sent.filter fun frame => ReplyKey.ofFrame? frame == some key

/-- The commands of a script. -/
def scriptCommands? (b : Board) (id : UInt8) : Option (List Frame) := b.scripts.get? id

/-- Whether a processor reports its output. -/
def isNotifying (b : Board) (id : UInt8) : Bool := (b.notify.get? id).getD false

/-! ## What the firmware does -/

/-- Creates a processor and answers with its id, unless this answer is to be lost; then nothing
is created. -/
def createProcessor (b : Board) (payload : Frame) : List Frame × Board :=
  let b := { b with creations := b.creations + 1 }
  if b.lostCreation = some b.creations then ([], b)
  else
    let id := b.nextProcessor
    ([[ModuleId.processor, Register.Processor.create, id]],
      { b with nextProcessor := id + 1, processors := b.processors.insert id payload })

/-- Creates the event whose entry is waiting and answers with its id, unless this answer is to be
lost; then nothing is created. -/
def createEvent (b : Board) (parameters : Frame) : List Frame × Board :=
  match b.pendingEntry with
  | none => ([], b)
  | some entry =>
    let b := { b with pendingEntry := none, entries := b.entries + 1 }
    if b.lostEntry = some b.entries then ([], b)
    else
      let id := b.nextEvent
      ([[ModuleId.event, Register.Event.entry, id]],
        { b with nextEvent := id + 1, events := b.events.insert id (entry, parameters) })

/-- Adds a command to the script being written, if there is one. -/
def addScriptCommand (b : Board) (rest : Frame) : Board :=
  let command := b.head.getD [] ++ rest
  let b := { b with head := none }
  match b.openScript with
  | none => b
  | some id =>
    match b.scripts.get? id with
    | none => b
    | some commands => { b with scripts := b.scripts.insert id (commands ++ [command]) }

/-- Obeys a command and answers it. -/
def obey (b : Board) (moduleId register : UInt8) (payload : Frame) : List Frame × Board :=
  let header : Frame := [moduleId, register]
  let plain (id : UInt8) : Address := ⟨moduleId, Register.opcode register, id⟩
  match BoardCommand.ofRegister moduleId register with
  | .reportModule => ([header ++ (b.modules.get? moduleId).getD []], b)
  | .createProcessor => b.createProcessor payload
  | .readProcessor =>
    match b.processors.get? (payload.head?.getD 0) with
    | some stored => ([header ++ stored], b)
    | none => ([], b)
  | .readState =>
    let id := payload.head?.getD 0
    ([header ++ id :: (b.states.get? id).getD []], b)
  | .writeState =>
    match payload with
    | id :: value => ([], { b with states := b.states.insert id value })
    | [] => ([], b)
  | .setParameter =>
    match payload with
    | id :: operator =>
      match b.processors.get? id with
      | some stored =>
        -- The input address and the frame selector stay.
        ([], { b with processors := b.processors.insert id (stored.take 4 ++ operator) })
      | none => ([], b)
    | [] => ([], b)
  | .removeProcessor =>
    match payload with
    | id :: _ => ([], { b with processors := b.processors.erase id, states := b.states.erase id })
    | [] => ([], b)
  | .removeProcessors => ([], { b with processors := .empty, states := .empty })
  | .setNotify =>
    match payload with
    | id :: enable :: _ => ([], { b with notify := b.notify.insert id (enable != 0) })
    | _ => ([], b)
  | .eventEntry => ([], { b with pendingEntry := some payload })
  | .eventParameters => b.createEvent payload
  | .removeEvent =>
    match payload with
    | id :: _ => ([], { b with events := b.events.erase id })
    | [] => ([], b)
  | .removeEvents => ([], { b with events := .empty })
  | .startScript =>
    let id := b.nextScript
    ([header ++ [id]],
      { b with nextScript := id + 1, scripts := b.scripts.insert id [], openScript := some id })
  | .addHead => ([], { b with head := some payload })
  | .addCommand => ([], b.addScriptCommand payload)
  | .finishScript => ([], { b with openScript := none })
  | .executeScript =>
    match payload with
    | id :: _ => ([], { b with executed := b.executed ++ [id] })
    | [] => ([], b)
  | .eraseScripts => ([], { b with scripts := .empty })
  | .readRegister =>
    match b.registers.lookup (plain (payload.head?.getD noId)) with
    | some value => ([header ++ payload.take 1 ++ value], b)
    | none => ([], b)
  | .writeRegister =>
    -- Whether the first byte is an id is not known, so a later read finds either reading.
    let registers := written b.registers (plain noId) payload
    match payload with
    | id :: value => ([], { b with registers := written registers (plain id) value })
    | [] => ([], { b with registers })

/-- Takes a frame, unless it is too short or its register is rejected. -/
def receive (b : Board) (frame : Frame) : Except Fault (List Frame) × Board :=
  match frame with
  | moduleId :: register :: payload =>
    if b.rejected = some ⟨moduleId, register⟩ then
      (.error (.transport ("rejected " ++ Hex.dashed frame)), b)
    else
      let (replies, b) := { b with sent := b.sent ++ [frame] }.obey moduleId register payload
      (.ok (if b.silent then [] else replies), b)
  | _ => (.error (.transport ("frame too short: " ++ Hex.dashed frame)), b)

instance : Transport Board := ⟨receive, frameLimit⟩

end Board

end SensorHost
