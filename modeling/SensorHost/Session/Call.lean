import SensorHost.Exchange.Transport
import SensorHost.Session.Host

/-!
# Calls on a session

A call is a dialogue between a caller, the host and the board: it looks at what the host knows,
changes it, sends frames, and asks the board for an answer or pauses before it goes on. A
dialogue only says what is done; whoever runs it decides when an answer comes and what else
happens in the meantime. Whether a dialogue may wait is part of its type.
-/

namespace SensorHost

/-- What a caller does, step by step. -/
inductive Dialogue (waits : Bool) (α : Type) where
  | done (result : α)
  | look (resume : Host → Dialogue waits α)
  | update (change : Host → Host) (next : Dialogue waits α)
  /-- Asks for the longest frame that the transport takes. -/
  | measure (resume : Nat → Dialogue waits α)
  /-- Sends a frame now. -/
  | transmit (frame : Frame) (resume : Except Fault Unit → Dialogue waits α)
  /-- Queues frames to be sent when it is their turn, and waits for the first frame on the key
  after that. -/
  | ask (may : waits = true) (key : ReplyKey) (timeout : Nat) (frames : List Frame)
    (resume : Except Fault Frame → Dialogue waits α)
  | pause (may : waits = true) (milliseconds : Nat) (next : Dialogue waits α)

namespace Dialogue

variable {waits : Bool} {α β : Type}

/-- Goes on with `f` when a dialogue is done. -/
def bind : Dialogue waits α → (α → Dialogue waits β) → Dialogue waits β
  | done result, f => f result
  | look resume, f => look fun host => (resume host).bind f
  | update change next, f => update change (next.bind f)
  | measure resume, f => measure fun limit => (resume limit).bind f
  | transmit frame resume, f => transmit frame fun result => (resume result).bind f
  | ask may key timeout frames resume, f =>
    ask may key timeout frames fun reply => (resume reply).bind f
  | pause may milliseconds next, f => pause may milliseconds (next.bind f)

instance : Monad (Dialogue waits) where
  pure := done
  bind := bind

end Dialogue

/-- A dialogue that may fail. -/
abbrev Call (waits : Bool) (α : Type) := ExceptT Fault (Dialogue waits) α

namespace Call

variable {waits : Bool} {α β : Type}

/-- What the host knows. -/
def host : Call waits Host := ExceptT.lift (.look .done)

/-- Changes what the host knows. -/
def update (change : Host → Host) : Call waits Unit := ExceptT.lift (.update change (.done ()))

def updateRoster (change : Roster → Roster) : Call waits Unit :=
  update fun h => { h with roster := change h.roster }

/-- The longest command that fits into one frame. -/
def frameLimit : Call waits Nat := do
  let limit ← ExceptT.lift (.measure .done)
  return min limit (← host).settings.frameLimit

/-- Sends a frame now. -/
def transmit (frame : Frame) : Call waits Unit := ExceptT.mk (.transmit frame .done)

/-- Sends frames when it is their turn; the first frame on the key after that is the result. -/
def ask (key : ReplyKey) (timeout : Nat) (frames : List Frame) : Call true Frame :=
  ExceptT.mk (.ask rfl key timeout frames .done)

def pause (milliseconds : Nat) : Call true Unit :=
  ExceptT.lift (.pause rfl milliseconds (.done ()))

/-- Makes a call and goes on whether it fails or not. -/
def attempt (call : Call waits α) : Call waits (Except Fault α) := ExceptT.lift call.run

/-- Says what was attempted if a call fails. -/
def within (context : String) (call : Call waits α) : Call waits α := do
  match ← attempt call with
  | .ok a => return a
  | .error fault => throw (.inContext context fault)

/-- The value, or the fault if there is none. -/
def orFail (fault : Fault) : Option α → Call waits α
  | some a => return a
  | none => throw fault

/-- Goes on if a check passes. -/
def check (result : Except Fault α) : Call waits α := ExceptT.mk (.done result)

/-- Sends a command, or keeps it if a recording is open. -/
def command (frame : Frame) : Call waits Unit := do
  match (← host).recorder.capture? frame with
  | some recorder => update fun h => { h with recorder }
  | none => transmit frame

end Call

end SensorHost
