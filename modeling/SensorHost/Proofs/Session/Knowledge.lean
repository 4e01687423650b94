import SensorHost.Proofs.Session.Alterations
import SensorHost.Proofs.Session.Scripts
import SensorHost.Proofs.Session.Upkeep

/-!
# What a host knows by its ids

Modules, events and scripts each carry their own id, and a host keeps them under it (`Host.Keyed`).
So nothing is lost when they leave the host as lists and are kept by their ids again: a host that is
restored from what another one knew knows exactly that (`Host.Keyed.restore_snapshot`).

Every call keeps this. The only one for which it is not plain is the question what a module is: the
report is kept under the module that was asked, but names the module that answered. The answer is
the frame that came on the key of the question, so these are the same.
-/

namespace SensorHost

/-- Modules, events and scripts are kept under their own ids. -/
structure Host.Keyed (h : Host) : Prop where
  modules : h.modules.KeyedBy (·.id)
  events : h.events.KeyedBy (·.id)
  scripts : h.scripts.KeyedBy (·.id)

namespace Host

theorem keyed_new (settings : Settings) : (new settings).Keyed := ⟨.empty, .empty, .empty⟩

/-- Whatever a snapshot holds, it is kept by its ids. -/
theorem keyed_restore (h : Host) (s : Snapshot) : (h.restore s).Keyed :=
  ⟨.ofList _ _, .ofList _ _, .ofList _ _⟩

/-- A host that is restored knows what the other one knew. -/
theorem Keyed.restore_snapshot {h : Host} (keyed : h.Keyed) (other : Host) :
    other.restore h.snapshot = { other with
      producers := h.producers, modules := h.modules, roster := h.roster, events := h.events
      scripts := h.scripts } := by
  simp only [restore, snapshot, keyed.modules.ofList_values, keyed.events.ofList_values,
    keyed.scripts.ofList_values]

theorem Keyed.listeners {h h' : Host} (keyed : h.Keyed) (only : ListenersOnly h h') : h'.Keyed := by
  obtain ⟨subscriptions, rfl⟩ := only
  exact ⟨keyed.modules, keyed.events, keyed.scripts⟩

theorem rosterwise_keyed : Rosterwise Keyed where
  insert _ keyed := ⟨keyed.modules, keyed.events, keyed.scripts⟩
  erase _ keyed := ⟨keyed.modules, keyed.events, keyed.scripts⟩
  clear keyed := ⟨keyed.modules, keyed.events, keyed.scripts⟩
  rebuild _ _ _ keyed := ⟨keyed.modules, keyed.events, keyed.scripts⟩
  record _ keyed := ⟨keyed.modules, keyed.events, keyed.scripts⟩

end Host

/-! ## Calls that may wait -/

/-- The calls of a session that may wait. -/
inductive Service where
  | discover (moduleId : UInt8)
  | read (signal : Signal)
  | commitChain (stages : List Stage)
  | pullChain (id : UInt8)
  | recoverChain (id : UInt8)
  | readState (name : String)
  | commitEvents
  | commitScript

namespace Service

/-- The call, whatever it returns. -/
def call : Service → Call true Unit
  | discover moduleId => do let _ ← Call.discover moduleId
  | read signal => do let _ ← Call.read signal
  | commitChain stages => do let _ ← Call.commitChain stages
  | pullChain id => do let _ ← Call.pullChain id
  | recoverChain id => do let _ ← Call.recoverChain id
  | readState name => do let _ ← Call.readState name
  | commitEvents => do let _ ← Call.commitEvents
  | commitScript => do let _ ← Call.commitScript

/-- The only key on which the call asks. -/
def key : Service → ReplyKey
  | discover moduleId => ⟨moduleId, Register.read Register.moduleInfo⟩
  | read signal => ⟨signal.address.moduleId, Register.read signal.address.register⟩
  | commitChain _ => ⟨ModuleId.processor, Register.Processor.create⟩
  | pullChain _ | recoverChain _ => ⟨ModuleId.processor, Register.read Register.Processor.create⟩
  | readState _ => ⟨ModuleId.processor, Register.silentRead Register.Processor.state⟩
  | commitEvents => ⟨ModuleId.event, Register.Event.entry⟩
  | commitScript => ⟨ModuleId.script, Register.Script.start⟩

end Service

namespace Call

variable {waits : Bool} {α : Type} {T : Talk}

/-- A module reports its own id, if it answers on its own register. -/
theorem id_of_ofReply? {reply : Frame} {key : ReplyKey} {info : ModuleInfo}
    (on : ReplyKey.ofFrame? reply = some key) (report : ModuleInfo.ofReply? reply = some info) :
    info.id = key.moduleId := by
  unfold ReplyKey.ofFrame? at on
  split at on
  · obtain rfl := Option.some.inj on
    unfold ModuleInfo.ofReply? at report
    split at report
    · contradiction
    · rename_i same
      obtain ⟨rfl, -⟩ := List.cons.inj same
      rw [← Option.some.inj report]
    · rename_i same
      obtain ⟨rfl, -⟩ := List.cons.inj same
      rw [← Option.some.inj report]
  · contradiction

theorem keeps_discover (moduleId : UInt8) :
    (discover moduleId).Keeps (.on (Service.discover moduleId).key) Host.Keyed := by
  refine keeps_bind_host fun h _ => ?_
  refine keeps_bind_ask rfl fun reply on => ?_
  refine keeps_bind_orFail fun info report => ?_
  have own := id_of_ofReply? (on reply rfl) report
  refine keeps_bind (keeps_update fun h keyed => ?_) fun _ => keeps_pure info
  exact ⟨keyed.modules.insert own, keyed.events, keyed.scripts⟩

theorem keeps_read (signal : Signal) :
    (read signal).Keeps (.on (Service.read signal).key) Host.Keyed := by
  refine keeps_bind_host fun h _ => ?_
  exact keeps_bind_ask rfl fun reply _ => keeps_pure _

theorem keeps_stateNamed (name : String) :
    (stateNamed name : Call waits (UInt8 × Signal)).Keeps T Host.Keyed := by
  refine keeps_bind (keeps_processorNamed name) fun p => ?_
  exact keeps_bind (keeps_orFail _ _) fun state => keeps_pure _

theorem keeps_readState (name : String) :
    (readState name).Keeps (.on (Service.readState name).key) Host.Keyed := by
  refine keeps_bind (keeps_stateNamed name) fun (id, state) => ?_
  refine keeps_bind_host fun h _ => ?_
  exact keeps_bind_ask rfl fun reply _ => keeps_pure _

/-! ### Recordings -/

theorem keeps_takeRecording :
    (takeRecording : Call waits (RecordingTarget × List Frame)).Keeps T Host.Keyed := by
  refine keeps_bind_host fun h _ => ?_
  refine keeps_bind (keeps_update fun h keyed => ?_) fun _ => keeps_check _
  exact Host.rosterwise_keyed.record _ keyed

theorem keeps_eraseEvent (id : UInt8) :
    (updateEvents (·.erase id) : Call waits Unit).Keeps T Host.Keyed :=
  keeps_update fun _ keyed => ⟨keyed.modules, keyed.events.erase id, keyed.scripts⟩

theorem keeps_rollbackEvents (events : List Event) :
    (rollbackEvents events : Call waits Unit).Keeps T Host.Keyed := by
  induction events with
  | nil => exact keeps_pure ()
  | cons event rest ih =>
      refine keeps_bind (keeps_attempt (keeps_transmit _)) fun _ => ?_
      exact keeps_bind (keeps_eraseEvent event.id) fun _ => ih

theorem keeps_createEvents (total : Nat) (trigger : Address) (copy : Option PayloadCopy)
    (commands : List (Frame × List Frame)) (created : List Event) :
    (createEvents total trigger copy commands created).Keeps (.on Service.commitEvents.key)
      Host.Keyed := by
  induction commands generalizing created with
  | nil => exact keeps_pure created
  | cons command rest ih =>
      refine keeps_bind (keeps_attempt ?_) fun result => ?_
      · refine keeps_bind_host fun h _ => ?_
        exact keeps_bind (keeps_ask rfl _ _) fun reply => keeps_orFail _ _
      cases result with
      | ok id =>
          refine keeps_bind (keeps_update fun h keyed => ?_) fun _ => ih _
          exact ⟨keyed.modules, keyed.events.insert rfl, keyed.scripts⟩
      | error fault => exact keeps_bind (keeps_rollbackEvents _) fun _ => keeps_throw _

theorem keeps_commitEvents : commitEvents.Keeps (.on Service.commitEvents.key) Host.Keyed := by
  refine keeps_bind keeps_takeRecording fun (target, commands) => ?_
  cases target with
  | event trigger copy =>
      refine keeps_bind_host fun h _ => ?_
      exact keeps_bind (keeps_check _) fun batch => keeps_createEvents ..
  | script autoRun => exact keeps_throw _

theorem keeps_transmitAll (frames : List Frame) :
    (transmitAll frames : Call waits Unit).Keeps T Host.Keyed := by
  induction frames with
  | nil => exact keeps_pure ()
  | cons frame rest ih => exact keeps_bind (keeps_transmit frame) fun _ => ih

theorem keeps_writeCommands (commands : List Frame) :
    (writeCommands commands : Call waits Unit).Keeps T Host.Keyed := by
  refine keeps_bind ?_ fun limit => keeps_transmitAll _
  exact fun limit => keeps_bind_host fun h _ => keeps_pure _

theorem keeps_fillScript (id : UInt8) (autoRun : Bool) (commands : List Frame) :
    (fillScript id autoRun commands).Keeps T Host.Keyed := by
  refine keeps_bind (keeps_attempt (keeps_writeCommands commands)) fun result => ?_
  cases result with
  | ok done =>
      refine keeps_bind (keeps_transmit _) fun _ => ?_
      refine keeps_bind (keeps_update fun h keyed => ?_) fun _ => keeps_pure _
      exact ⟨keyed.modules, keyed.events, keyed.scripts.insert rfl⟩
  | error fault => exact keeps_bind (keeps_attempt (keeps_transmit _)) fun _ => keeps_throw _

theorem keeps_createScript (autoRun : Bool) (commands : List Frame) :
    (createScript autoRun commands).Keeps (.on Service.commitScript.key) Host.Keyed := by
  rw [createScript_eq]
  refine keeps_bind_host fun h _ => ?_
  refine keeps_bind (keeps_ask rfl _ _) fun reply => ?_
  refine keeps_bind (keeps_orFail _ _) fun id => ?_
  split
  · exact keeps_bind (keeps_pause _) fun _ => keeps_fillScript id autoRun commands
  · exact keeps_fillScript id autoRun commands

theorem keeps_commitScript : commitScript.Keeps (.on Service.commitScript.key) Host.Keyed := by
  refine keeps_bind keeps_takeRecording fun (target, commands) => ?_
  cases target with
  | event trigger copy => exact keeps_throw _
  | script autoRun => exact keeps_createScript autoRun commands

end Call

namespace Service

/-- A call that may wait asks on one key only, and leaves what the host knows under its ids. -/
theorem keeps_call (service : Service) : service.call.Keeps (.on service.key) Host.Keyed := by
  have r := Host.rosterwise_keyed
  cases service with
  | discover moduleId => exact Call.keeps_bind (Call.keeps_discover moduleId) fun _ => trivial
  | read signal => exact Call.keeps_bind (Call.keeps_read signal) fun _ => trivial
  | commitChain stages =>
      exact Call.keeps_bind (Call.keeps_commitChain r rfl stages) fun _ => trivial
  | pullChain id => exact Call.keeps_bind (Call.keeps_pullFrom rfl id _ id []) fun _ => trivial
  | recoverChain id => exact Call.keeps_bind (Call.keeps_recoverChain r rfl id) fun _ => trivial
  | readState name => exact Call.keeps_bind (Call.keeps_readState name) fun _ => trivial
  | commitEvents => exact Call.keeps_bind Call.keeps_commitEvents fun _ => trivial
  | commitScript => exact Call.keeps_bind Call.keeps_commitScript fun _ => trivial

end Service

/-! ## Calls that do not wait -/

namespace Call

variable {waits : Bool} {T : Talk}

theorem keeps_command_keyed (frame : Frame) :
    (command frame : Call waits Unit).Keeps T Host.Keyed :=
  keeps_command (fun _ => Host.rosterwise_keyed.record) frame

theorem keeps_register (name : String) (signal : Signal) :
    (register name signal : Call waits Unit).Keeps T Host.Keyed :=
  keeps_update fun _ keyed => ⟨keyed.modules, keyed.events, keyed.scripts⟩

theorem keeps_beginRecording (target : RecordingTarget) :
    (beginRecording target : Call waits Unit).Keeps T Host.Keyed := by
  refine keeps_bind_host fun h _ => ?_
  refine keeps_bind (keeps_check _) fun recorder => ?_
  exact keeps_update fun _ => Host.rosterwise_keyed.record recorder

theorem keeps_abortRecording : (abortRecording : Call waits Unit).Keeps T Host.Keyed :=
  keeps_update fun _ => Host.rosterwise_keyed.record .idle

theorem keeps_stream (number : Nat) (signal : Signal) :
    (stream number signal : Call waits Unit).Keeps T Host.Keyed := by
  have subscribes : (update (·.subscribe number signal) : Call waits Unit).Keeps T Host.Keyed :=
    keeps_update fun _ keyed => keyed.listeners ⟨_, rfl⟩
  unfold stream
  split
  · exact keeps_bind (keeps_command_keyed _) fun _ => subscribes
  · exact subscribes

theorem keeps_unstream (signal : Signal) :
    (unstream signal : Call waits Unit).Keeps T Host.Keyed := by
  refine keeps_bind (keeps_update fun _ keyed => keyed.listeners ⟨_, rfl⟩) fun _ => ?_
  split
  · exact keeps_command_keyed _
  · exact keeps_pure ()

end Call

/-- A command leaves what the host knows under its ids. -/
theorem Command.keeps {α : Type} {T : Talk} (c : Command α) : c.call.Keeps T Host.Keyed := by
  cases c with
  | send frame => exact Call.keeps_command_keyed frame
  | write signal value => exact Call.keeps_command_keyed _
  | setState name value =>
      exact Call.keeps_bind (Call.keeps_stateNamed name) fun _ => Call.keeps_command_keyed _
  | modify name operator => exact Call.keeps_modify Host.rosterwise_keyed name operator
  | notify id enable => exact Call.keeps_command_keyed _
  | execute id => exact Call.keeps_command_keyed _
  | stream number signal => exact Call.keeps_stream number signal
  | unstream signal => exact Call.keeps_unstream signal

/-- An alteration leaves what the host knows under its ids. -/
theorem Alteration.keeps {α : Type} {T : Talk} (a : Alteration α) :
    a.call.Keeps T Host.Keyed := by
  have r := Host.rosterwise_keyed
  cases a with
  | removeProcessor id => exact Call.keeps_removeProcessor r id
  | removeNamed name => exact Call.keeps_removeNamed r name
  | removeProcessors => exact Call.keeps_removeProcessors r
  | modify name operator => exact Call.keeps_modify r name operator
  | removeEvent id =>
      refine Call.keeps_bind_host fun h _ => ?_
      refine Call.keeps_bind (Call.keeps_orFail _ _) fun event => ?_
      refine Call.keeps_bind (Call.keeps_eraseEvent id) fun _ => ?_
      exact Call.keeps_bind (Call.keeps_transmit _) fun _ => Call.keeps_pure event
  | removeEvents =>
      refine Call.keeps_bind (Call.keeps_update fun h keyed => ?_) fun _ => Call.keeps_transmit _
      exact ⟨keyed.modules, .empty, keyed.scripts⟩
  | eraseScripts =>
      refine Call.keeps_bind (Call.keeps_update fun h keyed => ?_) fun _ => Call.keeps_transmit _
      exact ⟨keyed.modules, keyed.events, .empty⟩

end SensorHost
