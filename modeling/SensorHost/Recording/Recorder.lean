import SensorHost.Signal.Range

/-!
# Recording commands

While a recording is open, commands that would go to the board are kept instead, and become
events or a script of the board when the recording is committed. A recorder without an open
recording holds no commands, so nothing kept under one recording can turn up in another.
-/

namespace SensorHost

/-- Copies bytes of the triggering payload into the command, from `destination` on. -/
structure PayloadCopy where
  source : ByteRange
  destination : UInt8
deriving DecidableEq, Repr

namespace PayloadCopy

/-- The two bytes that an event entry ends with: a mark, three bits of length and four bits of
offset, then the destination. -/
def encode (copy : PayloadCopy) : Frame :=
  let length : UInt8 := (copy.source.length &&& 0x7) <<< 1
  let offset : UInt8 := (copy.source.offset &&& 0xf) <<< 4
  [0x01 ||| length ||| offset, copy.destination]

end PayloadCopy

/-- What an open recording becomes. -/
inductive RecordingTarget where
  /-- Commands that run whenever `trigger` produces data. -/
  | event (trigger : Address) (copy : Option PayloadCopy)
  /-- Commands that the board keeps as a script. -/
  | script (autoRun : Bool)
deriving DecidableEq, Repr

namespace RecordingTarget

def addressText (a : Address) : String :=
  s!"Address \x7b module: {a.moduleId}, register: {a.register}, id: {a.id} \x7d"

def copyText : Option PayloadCopy → String
  | none => "None"
  | some copy =>
    let source := copy.source
    s!"Some(Feedback \x7b source: DataSlice \x7b address: {addressText source.address}, " ++
      s!"offset: {source.offset}, length: {source.length} \x7d, " ++
      s!"dest_offset: {copy.destination} \x7d)"

/-- The target as the message about a second recording spells it out. -/
def text : RecordingTarget → String
  | event trigger copy =>
    s!"Event \x7b trigger: {addressText trigger}, feedback: {copyText copy} \x7d"
  | script autoRun => s!"Macro \x7b auto_run: {autoRun} \x7d"

end RecordingTarget

/-- The commands of an open recording, or none. Whether a recording is open and what it holds are one
thing here, so there are no commands to be held while the recorder is idle. -/
inductive Recorder where
  | idle
  | recording (target : RecordingTarget) (captured : List Frame)
deriving DecidableEq, Repr, Inhabited

namespace Recorder

def isRecording : Recorder → Bool
  | idle => false
  | recording .. => true

/-- The commands kept so far. -/
def captured : Recorder → List Frame
  | idle => []
  | recording _ frames => frames

/-- Opens a recording, unless one is open. -/
def start (target : RecordingTarget) : Recorder → Except Fault Recorder
  | idle => .ok (recording target [])
  | recording current _ => .error (.recorder ("already recording " ++ current.text))

/-- Keeps a command if a recording is open; otherwise the command is to be sent. -/
def capture? (frame : Frame) : Recorder → Option Recorder
  | idle => none
  | recording target frames => some (recording target (frames ++ [frame]))

/-- What the open recording was for and the commands it kept. The recorder is idle afterwards. -/
def take : Recorder → Except Fault (RecordingTarget × List Frame)
  | idle => .error (.recorder "no recording in progress")
  | recording target frames => .ok (target, frames)

end Recorder

end SensorHost
