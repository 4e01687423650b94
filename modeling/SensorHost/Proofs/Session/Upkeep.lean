import SensorHost.Proofs.Processor.Roster
import SensorHost.Proofs.Session.Runs
import SensorHost.Session.Processors

/-!
# What calls keep

A call keeps a property of the host if each of its changes does (`Call.Keeps`). What a change keeps may
depend on where a call asks and on what it is answered there (`Talk`).

The calls that manage processors change the roster in few ways (`Host.Rosterwise`), so what these keep
is kept by all such calls.
-/

namespace SensorHost

/-- On which keys questions are asked, and what they may be answered. -/
structure Talk where
  asks : ReplyKey → Prop
  hears : ReplyKey → Except Fault Frame → Prop

namespace Talk

/-- Questions on any key, with any answer. -/
def free : Talk := ⟨fun _ => True, fun _ _ => True⟩

/-- Questions on one key, answered by frames that belong to it. -/
def on (key : ReplyKey) : Talk :=
  ⟨(· = key), fun _ reply => ∀ frame, reply = .ok frame → ReplyKey.ofFrame? frame = some key⟩

end Talk

variable {waits : Bool} {α β : Type} {T : Talk} {P : Host → Prop}

/-- The dialogue asks where it may, and every change that it makes keeps `P`, if `P` holds of the
hosts that it sees and the answers are such as can come. -/
def Dialogue.Keeps (T : Talk) (P : Host → Prop) : Dialogue waits α → Prop
  | .done _ => True
  | .look resume => ∀ h, P h → (resume h).Keeps T P
  | .update change next => (∀ h, P h → P (change h)) ∧ next.Keeps T P
  | .measure resume => ∀ limit, (resume limit).Keeps T P
  | .transmit _ resume => ∀ result, (resume result).Keeps T P
  | .ask _ key _ _ resume => T.asks key ∧ ∀ reply, T.hears key reply → (resume reply).Keeps T P
  | .pause _ _ next => next.Keeps T P

theorem Dialogue.keeps_bind {d : Dialogue waits α} {f : α → Dialogue waits β} (first : d.Keeps T P)
    (second : ∀ a, (f a).Keeps T P) : (d.bind f).Keeps T P := by
  induction d with
  | done a => exact second a
  | look resume ih => exact fun h holds => ih h (first h holds)
  | update change next ih => exact ⟨first.1, ih first.2⟩
  | measure resume ih => exact fun limit => ih limit (first limit)
  | transmit frame resume ih => exact fun result => ih result (first result)
  | ask may key timeout frames resume ih =>
      exact ⟨first.1, fun reply heard => ih reply (first.2 reply heard)⟩
  | pause may milliseconds next ih => exact ih first

namespace Call

/-! ## Calls -/

def Keeps (T : Talk) (P : Host → Prop) (call : Call waits α) : Prop := Dialogue.Keeps T P call.run

theorem keeps_bind {call : Call waits α} {f : α → Call waits β} (first : call.Keeps T P)
    (second : ∀ a, (f a).Keeps T P) : (call >>= f).Keeps T P := by
  refine Dialogue.keeps_bind first fun result => ?_
  cases result with
  | ok a => exact second a
  | error fault => trivial

theorem keeps_bind_host {f : Host → Call waits β} (next : ∀ h, P h → (f h).Keeps T P) :
    (host >>= f).Keeps T P := next

theorem keeps_pure (a : α) : (pure a : Call waits α).Keeps T P := trivial

theorem keeps_throw (fault : Fault) : (throw fault : Call waits α).Keeps T P := trivial

theorem keeps_check (checked : Except Fault α) : (check checked : Call waits α).Keeps T P := trivial

theorem keeps_orFail (fault : Fault) (value : Option α) :
    (orFail fault value : Call waits α).Keeps T P := by
  rw [orFail_eq_check]
  exact keeps_check _

theorem keeps_update {change : Host → Host} (keeps : ∀ h, P h → P (change h)) :
    (update change : Call waits Unit).Keeps T P := ⟨keeps, trivial⟩

theorem keeps_transmit (frame : Frame) : (transmit frame : Call waits Unit).Keeps T P :=
  fun _ => trivial

theorem keeps_ask {key : ReplyKey} (asks : T.asks key) (timeout : Nat) (frames : List Frame) :
    (ask key timeout frames).Keeps T P := ⟨asks, fun _ _ => trivial⟩

theorem keeps_pause (milliseconds : Nat) : (pause milliseconds).Keeps T P := trivial

theorem keeps_bind_ask {key : ReplyKey} {timeout : Nat} {frames : List Frame}
    {f : Frame → Call true β} (asks : T.asks key)
    (next : ∀ frame, T.hears key (.ok frame) → (f frame).Keeps T P) :
    (ask key timeout frames >>= f).Keeps T P := by
  refine ⟨asks, fun reply heard => ?_⟩
  cases reply with
  | ok frame => exact next frame heard
  | error fault => exact trivial

theorem keeps_bind_orFail {fault : Fault} {value : Option α} {f : α → Call waits β}
    (next : ∀ a, value = some a → (f a).Keeps T P) : (orFail fault value >>= f).Keeps T P := by
  cases value with
  | none => exact keeps_throw fault
  | some a => exact next a rfl

theorem keeps_attempt {call : Call waits α} (keeps : call.Keeps T P) : (attempt call).Keeps T P :=
  Dialogue.keeps_bind keeps fun _ => trivial

theorem keeps_within (context : String) {call : Call waits α} (keeps : call.Keeps T P) :
    (within context call).Keeps T P := by
  refine keeps_bind (keeps_attempt keeps) fun result => ?_
  cases result with
  | ok a => exact keeps_pure a
  | error fault => exact keeps_throw _

theorem keeps_command (recorded : ∀ h recorder, P h → P { h with recorder }) (frame : Frame) :
    (command frame : Call waits Unit).Keeps T P := by
  refine keeps_bind_host fun h _ => ?_
  split
  · exact keeps_update fun h holds => recorded h _ holds
  · exact keeps_transmit frame

end Call

/-! ## Rosters -/

/-- What calls on processors do to a roster keeps `P`, and so does a command that is recorded. -/
structure Host.Rosterwise (P : Host → Prop) : Prop where
  insert {h : Host} (p : Processor) : P h → P { h with roster := h.roster.insert p }
  erase {h : Host} (id : UInt8) : P h → P { h with roster := h.roster.erase id }
  clear {h : Host} : P h → P { h with roster := .empty }
  rebuild {h h' : Host} (hops : List Hop) (root : Signal) : P h → P h' →
    P { h' with roster := (h.roster.rebuild hops root).2 }
  record {h : Host} (recorder : Recorder) : P h → P { h with recorder }

namespace Call

section

variable (r : Host.Rosterwise P)
include r

theorem keeps_insert (p : Processor) :
    (updateRoster (·.insert p) : Call waits Unit).Keeps T P := keeps_update fun _ => r.insert p

theorem keeps_erase (id : UInt8) : (updateRoster (·.erase id) : Call waits Unit).Keeps T P :=
  keeps_update fun _ => r.erase id

theorem keeps_rollback (ps : List Processor) : (rollback ps : Call waits Unit).Keeps T P := by
  induction ps with
  | nil => exact keeps_pure ()
  | cons p rest ih =>
      refine keeps_bind (keeps_attempt (keeps_transmit _)) fun _ => ?_
      exact keeps_bind (keeps_erase r p.id) fun _ => ih

omit r in
theorem keeps_createStage (asks : T.asks ⟨ModuleId.processor, Register.Processor.create⟩)
    (stage : Stage) (created : List Processor) : (createStage stage created).Keeps T P := by
  refine keeps_bind (keeps_check _) fun input => ?_
  refine keeps_bind (keeps_check _) fun product => ?_
  refine keeps_bind_host fun h _ => ?_
  refine keeps_bind (keeps_ask asks _ _) fun reply => ?_
  exact keeps_bind (keeps_orFail _ _) fun id => keeps_pure _

theorem keeps_createStages (asks : T.asks ⟨ModuleId.processor, Register.Processor.create⟩)
    (total : Nat) (stages : List Stage) (created : List Processor) :
    (createStages total stages created).Keeps T P := by
  induction stages generalizing created with
  | nil => exact keeps_pure created
  | cons stage rest ih =>
      refine keeps_bind (keeps_attempt (keeps_createStage asks stage created)) fun result => ?_
      cases result with
      | ok p => exact keeps_bind (keeps_insert r p) fun _ => ih _
      | error fault => exact keeps_bind (keeps_rollback r _) fun _ => keeps_throw _

theorem keeps_commitChain (asks : T.asks ⟨ModuleId.processor, Register.Processor.create⟩)
    (stages : List Stage) : (commitChain stages).Keeps T P :=
  keeps_bind (keeps_check _) fun _ => keeps_createStages r asks _ stages []

theorem keeps_removeProcessor (id : UInt8) :
    (removeProcessor id : Call waits Processor).Keeps T P := by
  refine keeps_bind_host fun h _ => ?_
  refine keeps_bind (keeps_orFail _ _) fun p => ?_
  refine keeps_bind (keeps_erase r id) fun _ => ?_
  exact keeps_bind (keeps_transmit _) fun _ => keeps_pure p

theorem keeps_removeNamed (name : String) :
    (removeNamed name : Call waits Processor).Keeps T P := by
  refine keeps_bind ?_ (keeps_removeProcessor r)
  exact keeps_bind_host fun h _ => keeps_orFail _ _

theorem keeps_removeProcessors : (removeProcessors : Call waits Unit).Keeps T P := by
  refine keeps_bind ?_ fun _ => keeps_transmit _
  exact keeps_update fun _ => r.clear

omit r in
theorem keeps_pullFrom
    (asks : T.asks ⟨ModuleId.processor, Register.read Register.Processor.create⟩) (last : UInt8)
    (count : Nat) (id : UInt8) (hops : List Hop) : (pullFrom last count id hops).Keeps T P := by
  induction count generalizing id hops with
  | zero => exact keeps_throw _
  | succ count ih =>
      refine keeps_bind_host fun h _ => ?_
      refine keeps_bind (keeps_within _ (keeps_ask asks _ _)) fun reply => ?_
      refine keeps_bind (keeps_check _) fun hop => ?_
      split
      · exact ih _ _
      · exact keeps_pure _

theorem keeps_reconstruct (hops : List Hop) (root : Signal) :
    (reconstruct hops root : Call waits (List Processor)).Keeps T P := by
  refine keeps_bind_host fun h holds => ?_
  exact keeps_bind (keeps_update fun _ => r.rebuild hops root holds) fun _ => keeps_check _

theorem keeps_recoverChain
    (asks : T.asks ⟨ModuleId.processor, Register.read Register.Processor.create⟩) (id : UInt8) :
    (recoverChain id).Keeps T P := by
  refine keeps_bind (keeps_pullFrom asks id processorLimit id []) fun hops => ?_
  cases hops with
  | nil => exact keeps_pure []
  | cons first rest =>
      refine keeps_bind_host fun h _ => ?_
      exact keeps_bind (keeps_orFail _ _) fun root => keeps_reconstruct r _ root

omit r in
theorem keeps_processorNamed (name : String) :
    (processorNamed name : Call waits Processor).Keeps T P :=
  keeps_bind_host fun _ _ => keeps_orFail _ _

theorem keeps_modify (name : String) (operator : Operator) :
    (modify name operator : Call waits Processor).Keeps T P := by
  refine keeps_bind (keeps_processorNamed name) fun current => ?_
  refine keeps_bind (keeps_check _) fun product => ?_
  refine keeps_bind (keeps_command (fun _ => r.record) _) fun _ => ?_
  exact keeps_bind (keeps_insert r _) fun _ => keeps_pure _

end

end Call

end SensorHost
