import SensorHost.Session.Call

/-!
# Committing recordings

An open recording becomes events of the board, one for each command, or a script with all of
them. Events are created one after the other, and if one fails, those created before it are
removed again. A script is opened, given time to settle, and then written; if writing fails it is
closed, so that the board takes no later command for a part of it.
-/

namespace SensorHost.Call

variable {waits : Bool}

def updateEvents (change : SortedMap UInt8 Event → SortedMap UInt8 Event) : Call waits Unit :=
  update fun h => { h with events := change h.events }

/-- Opens a recording. -/
def beginRecording (target : RecordingTarget) : Call waits Unit := do
  let recorder ← check ((← host).recorder.start target)
  update fun h => { h with recorder }

/-- Discards the open recording, if there is one. -/
def abortRecording : Call waits Unit := update fun h => { h with recorder := .idle }

/-- Closes the open recording and takes what it kept. -/
def takeRecording : Call waits (RecordingTarget × List Frame) := do
  let taken := (← host).recorder.take
  abortRecording
  check taken

/-! ## Events -/

/-- Creates the event of two frames. -/
def createEvent (frames : List Frame) : Call true UInt8 := do
  let reply ← ask ⟨ModuleId.event, Register.Event.entry⟩ (← host).settings.responseTimeout frames
  orFail (.protocol "event echo carries no id") reply[2]?

/-- Removes events, on the board if it can be reached, and from the host in any case. -/
def rollbackEvents : List Event → Call waits Unit
  | [] => return ()
  | event :: rest => do
    let _ ← attempt (transmit (Event.removeFrame event.id))
    updateEvents (·.erase event.id)
    rollbackEvents rest

/-- Creates the rest of `total` events on one trigger. -/
def createEvents (total : Nat) (trigger : Address) (copy : Option PayloadCopy) :
    List (Frame × List Frame) → List Event → Call true (List Event)
  | [], created => return created
  | (command, frames) :: rest, created => do
    match ← attempt (createEvent frames) with
    | .ok id =>
      let event : Event := ⟨id, trigger, command, copy⟩
      updateEvents (·.insert id event)
      createEvents total trigger copy rest (created ++ [event])
    | .error fault =>
      rollbackEvents created.reverse
      throw (.inContext s!"creating event {created.length + 1} of {total}" fault)

/-- Creates one event for each command. -/
def createEventsFor (trigger : Address) (copy : Option PayloadCopy) (commands : List Frame) :
    Call true (List Event) := do
  let copy := if (← host).settings.copiesPayload then copy else none
  let batch ← check (commands.mapM fun command => Event.frames trigger command copy)
  createEvents commands.length trigger copy (commands.zip batch) []

/-- Makes events of the open recording. -/
def commitEvents : Call true (List Event) := do
  match ← takeRecording with
  | (.event trigger copy, commands) => createEventsFor trigger copy commands
  | (.script _, _) => throw (.recorder "the open recording is a macro")

/-- Removes an event. -/
def removeEvent (id : UInt8) : Call waits Event := do
  let event ← orFail (.recorder s!"no event with id {id}") ((← host).events.get? id)
  updateEvents (·.erase id)
  transmit (Event.removeFrame id)
  return event

/-- Removes every event of the board. -/
def removeEvents : Call waits Unit := do
  updateEvents fun _ => .empty
  transmit Event.removeAllFrame

/-! ## Scripts -/

/-- Sends frames, up to the first that is refused. -/
def transmitAll : List Frame → Call waits Unit
  | [] => return ()
  | frame :: rest => do
    transmit frame
    transmitAll rest

/-- Writes the commands of the script that is open on the board. -/
def writeCommands (commands : List Frame) : Call waits Unit := do
  let limit ← frameLimit
  transmitAll (commands.flatMap fun command => Script.commandFrames command limit)

/-- Writes a script. -/
def createScript (autoRun : Bool) (commands : List Frame) : Call true Script := do
  let settings := (← host).settings
  let reply ← ask ⟨ModuleId.script, Register.Script.start⟩ settings.responseTimeout
    [Script.startFrame autoRun]
  let id ← orFail (.protocol "macro begin echo carries no id") reply[2]?
  if settings.settleDelay ≠ 0 then pause settings.settleDelay
  match ← attempt (writeCommands commands) with
  | .ok () =>
    transmit Script.finishFrame
    let script : Script := ⟨id, autoRun, commands⟩
    update fun h => { h with scripts := h.scripts.insert id script }
    return script
  | .error fault =>
    let _ ← attempt (transmit Script.finishFrame)
    throw (.inContext s!"writing macro {id}" fault)

/-- Makes a script of the open recording. -/
def commitScript : Call true Script := do
  match ← takeRecording with
  | (.script autoRun, commands) => createScript autoRun commands
  | (.event .., _) => throw (.recorder "the open recording is an event")

/-- Makes the board run a script. -/
def executeScript (id : UInt8) : Call waits Unit := command (Script.executeFrame id)

/-- Erases every script of the board. -/
def eraseScripts : Call waits Unit := do
  update fun h => { h with scripts := .empty }
  transmit Script.eraseAllFrame

end SensorHost.Call
