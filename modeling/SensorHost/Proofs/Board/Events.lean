import SensorHost.Proofs.Board.Scripts
import SensorHost.Proofs.SortedMap
import SensorHost.Recording.Event

/-!
# The events that a board stores

Two frames create an event: an entry, which names the trigger and the head of the command, and the
parameters. Nothing ties them together but that the board takes one right after the other. A board
without injected faults answers the second one with the id under which it stores both payloads
(`Board.Faultless.sendAll_pair`), and the two together tell the trigger and the whole command
(`Event.readBack?_stored`).
-/

namespace SensorHost

/-! ## The frames of an event -/

namespace Event

/-- The frame that names the trigger, the head of the command and the number of its parameters. -/
def entryFrame (trigger : Address) (copy : Option PayloadCopy) (command : Frame) : Frame :=
  [ModuleId.event, Register.Event.entry] ++ trigger.toBytes ++
    (command.take 2 ++ [UInt8.ofNat (command.drop 2).length]) ++
    (copy.map PayloadCopy.encode).getD []

def parametersFrame (command : Frame) : Frame :=
  [ModuleId.event, Register.Event.parameters] ++ command.drop 2

/-- The two frames that create an event. -/
def pair (trigger : Address) (copy : Option PayloadCopy) (command : Frame) : List Frame :=
  [entryFrame trigger copy command, parametersFrame command]

variable {trigger : Address} {copy : Option PayloadCopy}

/-- A command with module and register has its two frames. -/
theorem frames_of_long {command : Frame} (long : 2 ≤ command.length) :
    frames trigger command copy = .ok (pair trigger copy command) := by
  match command, long with
  | moduleId :: register :: parameters, _ => rfl

theorem frames_of_short {command : Frame} (short : command.length < 2) :
    ∃ fault, frames trigger command copy = .error fault := by
  match command, short with
  | [], _ => exact ⟨_, rfl⟩
  | [_], _ => exact ⟨_, rfl⟩

theorem mapM_frames_of_long {commands : List Frame} (long : ∀ c ∈ commands, 2 ≤ c.length) :
    (commands.mapM fun c => frames trigger c copy) = .ok (commands.map (pair trigger copy)) := by
  induction commands with
  | nil => rfl
  | cons command rest ih =>
      obtain ⟨first, others⟩ := List.forall_mem_cons.mp long
      rw [List.mapM_cons, frames_of_long first, ih others]
      rfl

theorem zip_pairs (commands : List Frame) : commands.zip (commands.map (pair trigger copy)) =
    commands.map fun c => (c, pair trigger copy c) := by
  induction commands with
  | nil => rfl
  | cons command rest ih => exact congrArg ((command, pair trigger copy command) :: ·) ih

variable (trigger copy) in
theorem mapM_frames_of_short {commands : List Frame} (short : ∃ c ∈ commands, c.length < 2) :
    ∃ fault, (commands.mapM fun c => frames trigger c copy) = .error fault := by
  induction commands with
  | nil =>
      obtain ⟨_, mem, -⟩ := short
      contradiction
  | cons command rest ih =>
      rw [List.mapM_cons]
      cases first : frames trigger command copy with
      | error fault => exact ⟨fault, rfl⟩
      | ok both =>
          have later : ∃ c ∈ rest, c.length < 2 := by
            obtain ⟨c, mem, short⟩ := short
            rcases List.mem_cons.mp mem with rfl | mem
            · obtain ⟨_, refused⟩ : ∃ fault, frames trigger c copy = .error fault :=
                frames_of_short short
              rw [refused] at first
              contradiction
            · exact ⟨c, mem, short⟩
          obtain ⟨fault, refused⟩ := ih later
          rw [refused]
          exact ⟨fault, rfl⟩

/-! ## What the board stores of an event -/

/-- The payloads of the two frames. -/
def stored (trigger : Address) (copy : Option PayloadCopy) (command : Frame) : Frame × Frame :=
  ((entryFrame trigger copy command).drop 2, (parametersFrame command).drop 2)

/-- The trigger, the command and the declared number of its parameters, as the board can tell them
from what it stores. -/
def readBack? : Frame × Frame → Option (Address × Frame × UInt8)
  | (moduleId :: register :: id :: target :: opcode :: declared :: _, parameters) =>
    some (⟨moduleId, register, id⟩, target :: opcode :: parameters, declared)
  | _ => none

variable (trigger copy) in
/-- The two payloads tell the trigger and the whole command, and the number of parameters if a byte
can count them. -/
theorem readBack?_stored {command : Frame} (long : 2 ≤ command.length)
    (fits : command.length ≤ 257) : ∃ declared,
    readBack? (stored trigger copy command) = some (trigger, command, declared) ∧
      declared.toNat = (stored trigger copy command).2.length := by
  match command, long with
  | moduleId :: register :: parameters, _ =>
    refine ⟨UInt8.ofNat parameters.length, rfl, ?_⟩
    rw [List.length_cons, List.length_cons] at fits
    exact UInt8.toNat_ofNat_of_lt' (show parameters.length < 256 by omega)

/-! ## Numbered events -/

/-- The events of some commands, with ids from `first` on. -/
def numbered (trigger : Address) (copy : Option PayloadCopy) : UInt8 → List Frame → List Event
  | _, [] => []
  | first, command :: rest =>
    ⟨first, trigger, command, copy⟩ :: numbered trigger copy (first + 1) rest

theorem ids_numbered (first : UInt8) (commands : List Frame) :
    (numbered trigger copy first commands).map (·.id) = idsFrom first commands.length := by
  induction commands generalizing first with
  | nil => rfl
  | cons command rest ih => exact congrArg (first :: ·) (ih (first + 1))

theorem commands_numbered (first : UInt8) (commands : List Frame) :
    (numbered trigger copy first commands).map (·.command) = commands := by
  induction commands generalizing first with
  | nil => rfl
  | cons command rest ih => exact congrArg (command :: ·) (ih (first + 1))

theorem length_numbered (first : UInt8) (commands : List Frame) :
    (numbered trigger copy first commands).length = commands.length := by
  rw [← List.length_map (·.command), commands_numbered]

theorem command_of_mem_numbered {first : UInt8} {commands : List Frame} {e : Event}
    (mem : e ∈ numbered trigger copy first commands) : e.command ∈ commands := by
  have listed : e.command ∈ (numbered trigger copy first commands).map (·.command) :=
    List.mem_map_of_mem mem
  rwa [commands_numbered] at listed

theorem nodup_numbered {first : UInt8} {commands : List Frame}
    (room : first.toNat + commands.length ≤ 256) :
    ((numbered trigger copy first commands).map (·.id)).Nodup := by
  rw [ids_numbered]
  exact nodup_idsFrom room

/-- What is kept of every event under its id has keys of its own. -/
theorem nodup_keys {events : List Event} (distinct : (events.map (·.id)).Nodup) {ν : Type}
    (value : Event → ν) : ((events.map fun e => (e.id, value e)).map (·.1)).Nodup := by
  rw [List.map_map]
  exact distinct

end Event

namespace Board

/-- No fault was injected. -/
structure Faultless (b : Board) : Prop extends b.Healthy where
  records : b.lostEntry = none

/-- The board after it stored an event. -/
def withEvent (trigger : Address) (copy : Option PayloadCopy) (b : Board) (command : Frame) :
    Board :=
  { b with
    sent := b.sent ++ Event.pair trigger copy command
    events := b.events.insert b.nextEvent (Event.stored trigger copy command)
    pendingEntry := none
    nextEvent := b.nextEvent + 1
    entries := b.entries + 1 }

/-- The board after it stored one event for each command. -/
def withEvents (trigger : Address) (copy : Option PayloadCopy) (b : Board) (commands : List Frame) :
    Board :=
  commands.foldl (withEvent trigger copy) b

variable {b : Board} {trigger : Address} {copy : Option PayloadCopy}

theorem Faultless.withEvent (h : b.Faultless) (command : Frame) :
    (b.withEvent trigger copy command).Faultless :=
  ⟨⟨h.answers, h.takes, h.creates⟩, h.records⟩

theorem obey_entry (b : Board) (payload : Frame) :
    b.obey ModuleId.event Register.Event.entry payload =
      ([], { b with pendingEntry := some payload }) := rfl

theorem obey_parameters (b : Board) (payload : Frame) :
    b.obey ModuleId.event Register.Event.parameters payload = b.createEvent payload := rfl

/-- Whatever entry was waiting, the two frames of an event come back as the id under which they are
stored. -/
theorem Faultless.sendAll_pair (h : b.Faultless) (command : Frame) :
    Transport.sendAll b (Event.pair trigger copy command) =
      ([[ModuleId.event, Register.Event.entry, b.nextEvent]], .ok (),
        b.withEvent trigger copy command) := by
  let waiting : Board :=
    { b with
      sent := b.sent ++ [Event.entryFrame trigger copy command]
      pendingEntry := some (Event.stored trigger copy command).1 }
  have entry : Transport.send b (Event.entryFrame trigger copy command) = (.ok [], waiting) := by
    refine (h.receive _ _ (Event.stored trigger copy command).1).trans ?_
    rw [obey_entry]
    simp only [ite_self]
    rfl
  have parameters : Transport.send waiting (Event.parametersFrame command) =
      (.ok [[ModuleId.event, Register.Event.entry, b.nextEvent]],
        b.withEvent trigger copy command) := by
    have healthy : waiting.Healthy := ⟨h.answers, h.takes, h.creates⟩
    refine (healthy.receive _ _ (Event.stored trigger copy command).2).trans ?_
    rw [obey_parameters]
    simp only [createEvent, waiting, h.records, h.answers, reduceCtorEq, Bool.false_eq_true, if_false,
      List.append_assoc, Board.withEvent]
    rfl
  rw [Event.pair, Transport.sendAll, entry]
  simp only [Transport.sendAll, parameters]
  rfl

theorem events_withEvents (b : Board) (commands : List Frame) :
    (b.withEvents trigger copy commands).events =
      b.events.insertAll ((Event.numbered trigger copy b.nextEvent commands).map fun e =>
        (e.id, Event.stored trigger copy e.command)) := by
  induction commands generalizing b with
  | nil => rfl
  | cons command rest ih => exact ih (b.withEvent trigger copy command)

/-- As long as ids do not wrap, every event is stored under its own. -/
theorem get?_withEvents {commands : List Frame} (room : b.nextEvent.toNat + commands.length ≤ 256)
    {e : Event} (mem : e ∈ Event.numbered trigger copy b.nextEvent commands) :
    (b.withEvents trigger copy commands).events.get? e.id =
      some (Event.stored trigger copy e.command) := by
  rw [events_withEvents]
  exact SortedMap.get?_insertAll_of_mem (Event.nodup_keys (Event.nodup_numbered room) _)
    (List.mem_map_of_mem mem)

theorem sent_withEvents (b : Board) (commands : List Frame) :
    (b.withEvents trigger copy commands).sent =
      b.sent ++ commands.flatMap (Event.pair trigger copy) := by
  induction commands generalizing b with
  | nil => exact (List.append_nil _).symm
  | cons command rest ih =>
      refine (ih (b.withEvent trigger copy command)).trans ?_
      rw [List.flatMap_cons]
      exact List.append_assoc ..

end Board

end SensorHost
