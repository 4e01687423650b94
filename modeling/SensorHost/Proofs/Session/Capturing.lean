import SensorHost.Proofs.Processor.Roster
import SensorHost.Proofs.Session.Routing
import SensorHost.Proofs.Session.Runs

/-!
# Commands that are kept

While a recording is open, a command is kept instead of sent. The board has not executed it, and may
never do so, so it should change nothing that the host believes of the board. That is so with one
exception (`Session.captured_command`): an operator that is replaced is replaced in the roster at
once, whether its parameters were sent or kept (`Session.modified_while_recording`).
-/

namespace SensorHost

/-! ## Calls that do not wait -/

namespace Session

variable {σ α β : Type} [Transport σ]

theorem perform_bind (d : Dialogue false α) (f : α → Dialogue false β) (s : Session σ) :
    perform (d.bind f) s = perform (f (perform d s).1) (perform d s).2 := by
  induction d generalizing s with
  | done a => rfl
  | look resume ih => exact ih s.host s
  | update change next ih => exact ih _
  | measure resume ih => exact ih _ s
  | transmit frame resume ih => exact ih _ _
  | ask may => exact nomatch may
  | pause may => exact nomatch may

/-- A call that goes on after another one does so on the session that the other one left. -/
theorem run_bind (s : Session σ) (call : Call false α) (f : α → Call false β) :
    s.run (call >>= f) =
      match s.run call with
      | (.ok a, s') => s'.run (f a)
      | (.error fault, s') => (.error fault, s') := by
  have bound : s.run (call >>= f) =
      perform (ExceptT.bindCont f (s.run call).1) (s.run call).2 :=
    perform_bind call.run (ExceptT.bindCont f) s
  rw [bound]
  rcases s.run call with ⟨_ | _, _⟩ <;> rfl

theorem run_host (s : Session σ) : s.run Call.host = (.ok s.host, s) := rfl

theorem run_update (s : Session σ) (change : Host → Host) :
    s.run (Call.update change) = (.ok (), { s with host := change s.host }) := rfl

theorem run_check (s : Session σ) (checked : Except Fault α) :
    s.run (Call.check checked) = (checked, s) := rfl

theorem run_processorNamed (s : Session σ) (name : String) :
    s.run (Call.processorNamed name) =
      ((s.host.roster.named? name).elim (.error (.unknownProcessor name)) .ok, s) := by
  unfold Call.processorNamed
  rw [run_bind, run_host]
  simp only [Call.orFail_eq_check, run_check]

theorem run_stateNamed (s : Session σ) (name : String) :
    ∃ found, s.run (Call.stateNamed name) = (found, s) := by
  unfold Call.stateNamed
  rw [run_bind, run_processorNamed]
  cases s.host.roster.named? name with
  | none => exact ⟨_, rfl⟩
  | some p =>
      simp only [Option.elim_some, Call.orFail_eq_check, run_bind, run_check]
      cases p.state with
      | none => exact ⟨_, rfl⟩
      | some state => exact ⟨_, rfl⟩

variable {s : Session σ}

/-- Without a recording a command is sent. -/
theorem run_command_idle (idle : s.host.recorder = .idle) (frame : Frame) :
    s.run (Call.command frame) = s.transmit frame := by
  unfold Call.command
  rw [run_bind, run_host]
  simp only [idle, Recorder.capture?]
  rfl

/-- An open recording keeps a command, and the link hears nothing of it. -/
theorem run_command_recording {target : RecordingTarget} {captured : List Frame}
    (recording : s.host.recorder = .recording target captured) (frame : Frame) :
    s.run (Call.command frame) = (.ok (), { s with
      host := { s.host with recorder := .recording target (captured ++ [frame]) } }) := by
  unfold Call.command
  rw [run_bind, run_host]
  simp only [recording, Recorder.capture?]
  rfl

end Session

/-! ## Commands -/

/-- What a user does with one command to the board, by what it gives back. -/
inductive Command : Type → Type where
  | send (frame : Frame) : Command Unit
  | write (signal : Signal) (value : Float32) : Command Unit
  | setState (name : String) (value : Float32) : Command Unit
  | modify (name : String) (operator : Operator) : Command Processor
  | notify (id : UInt8) (enable : Bool) : Command Unit
  | execute (id : UInt8) : Command Unit
  | stream (number : Nat) (signal : Signal) : Command Unit
  | unstream (signal : Signal) : Command Unit

def Command.call {α : Type} : Command α → Call false α
  | send frame => Call.command frame
  | write signal value => Call.write signal value
  | setState name value => Call.setState name value
  | modify name operator => Call.modify name operator
  | notify id enable => Call.setNotify id enable
  | execute id => Call.executeScript id
  | stream number signal => Call.stream number signal
  | unstream signal => Call.unstream signal

/-- The named processor with another operator, if the operator accepts what the processor reads. -/
def Roster.modified? (r : Roster) (name : String) (operator : Operator) : Option Processor :=
  (r.named? name).bind fun current => (operator.product current.input).toOption.map fun product =>
    .created current.id current.name operator current.input product

/-- The processor that a command replaces in the roster. -/
def Command.replaces? {α : Type} (r : Roster) : Command α → Option Processor
  | modify name operator => r.modified? name operator
  | _ => none

/-- The processor is in the roster, and its name leads to it. -/
def Roster.Lists (r : Roster) (p : Processor) : Prop :=
  r.get? p.id = some p ∧ ∀ name, p.name = some name → r.idOf? name = some p.id

theorem Roster.insert_eq_self_iff {r : Roster} {p : Processor} :
    r.insert p = r ↔ r.Lists p := by
  constructor
  · intro same
    have byId := get?_insert r p p.id
    rw [same, if_pos rfl] at byId
    refine ⟨byId, fun name named => ?_⟩
    have byName := idOf?_insert r p name
    rw [same, if_pos named] at byName
    exact byName
  · rintro ⟨tracked, leads⟩
    refine ext_lookups (fun id => ?_) (fun name => ?_)
    · rw [get?_insert]
      split
      · rename_i own
        rw [own, tracked]
      · rfl
    · rw [idOf?_insert]
      split
      · rename_i named
        exact (leads name named).symm
      · rfl

namespace Session

variable {σ α : Type} [Transport σ] {s : Session σ} {target : RecordingTarget}
  {captured : List Frame}

/-- The recording has kept one more frame at most, the roster is this one, and apart from who listens
nothing else differs. -/
def Captures (s : Session σ) (target : RecordingTarget) (captured : List Frame) (roster : Roster)
    (s' : Session σ) : Prop :=
  ∃ frames subscriptions, frames.length ≤ 1 ∧ s' = { s with
    host := { s.host with
      recorder := .recording target (captured ++ frames), roster, subscriptions } }

section

variable (recording : s.host.recorder = .recording target captured)

include recording

omit [Transport σ] in
theorem captures_listeners (subscriptions : List Subscription) :
    s.Captures target captured s.host.roster { s with host := { s.host with subscriptions } } := by
  refine ⟨[], subscriptions, Nat.zero_le 1, ?_⟩
  rw [List.append_nil, ← recording]

omit [Transport σ] in
theorem captures_nothing : s.Captures target captured s.host.roster s :=
  captures_listeners recording s.host.subscriptions

theorem captures_frame (frame : Frame) :
    s.Captures target captured s.host.roster (s.run (Call.command frame)).2 := by
  rw [run_command_recording recording]
  exact ⟨[frame], s.host.subscriptions, Nat.le_refl 1, rfl⟩

theorem captures_setState (name : String) (value : Float32) :
    s.Captures target captured s.host.roster (s.run (Call.setState name value)).2 := by
  obtain ⟨found, looked⟩ := s.run_stateNamed name
  unfold Call.setState
  rw [run_bind, looked]
  cases found with
  | error fault => exact captures_nothing recording
  | ok entry => exact captures_frame recording _

/-- The changed processor is in the roster whether its parameters were sent or kept. -/
theorem captures_modify (name : String) (operator : Operator) :
    s.Captures target captured
      ((s.host.roster.modified? name operator).elim s.host.roster s.host.roster.insert)
      (s.run (Call.modify name operator)).2 := by
  unfold Call.modify Roster.modified?
  rw [run_bind, run_processorNamed]
  cases s.host.roster.named? name with
  | none => exact captures_nothing recording
  | some current =>
      simp only [Option.elim_some, Option.bind_some, run_bind, run_check]
      cases operator.product current.input with
      | error fault => exact captures_nothing recording
      | ok product =>
          simp only [run_command_recording recording, Call.updateRoster, run_update]
          exact ⟨[Processor.parameterFrame current.id operator current.input product.output],
            s.host.subscriptions, Nat.le_refl 1, rfl⟩

theorem captures_stream (number : Nat) (signal : Signal) :
    s.Captures target captured s.host.roster (s.run (Call.stream number signal)).2 := by
  unfold Call.stream
  by_cases processor : signal.address.isProcessorOutput = true
  · simp only [if_pos processor, run_bind, Call.setNotify, run_command_recording recording]
    exact ⟨[Processor.notifyFrame signal.address.id true], _, Nat.le_refl 1, rfl⟩
  · simp only [if_neg processor]
    exact captures_listeners recording _

theorem captures_unstream (signal : Signal) :
    s.Captures target captured s.host.roster (s.run (Call.unstream signal)).2 := by
  unfold Call.unstream
  rw [run_bind, run_update]
  by_cases processor : signal.address.isProcessorOutput = true
  · simp only [if_pos processor, Call.setNotify]
    rw [run_command_recording (s := { s with host := s.host.unsubscribe signal.address }) recording]
    exact ⟨[Processor.notifyFrame signal.address.id false], _, Nat.le_refl 1, rfl⟩
  · simp only [if_neg processor]
    exact captures_listeners recording _

/-- Every command, while a recording is open. -/
theorem captures_command (command : Command α) :
    s.Captures target captured
      ((command.replaces? s.host.roster).elim s.host.roster s.host.roster.insert)
      (s.run command.call).2 := by
  cases command with
  | send frame => exact captures_frame recording frame
  | write signal value => exact captures_frame recording _
  | setState name value => exact captures_setState recording name value
  | modify name operator => exact captures_modify recording name operator
  | notify id enable => exact captures_frame recording _
  | execute id => exact captures_frame recording _
  | stream number signal => exact captures_stream recording number signal
  | unstream signal => exact captures_unstream recording signal

/-- A command that is kept does nothing on the link, and adds one frame at most to the open
recording; the host believes of events and scripts what it did before. Of the processors it does so
too, unless the command gives a processor another operator: the roster lists the changed processor at
once. -/
theorem captured_command (command : Command α) :
    (s.run command.call).2.link = s.link ∧
    (∃ frames, frames.length ≤ 1 ∧
      (s.run command.call).2.host.recorder = .recording target (captured ++ frames)) ∧
    (s.run command.call).2.host.events = s.host.events ∧
    (s.run command.call).2.host.scripts = s.host.scripts ∧
    (s.run command.call).2.host.roster =
      (command.replaces? s.host.roster).elim s.host.roster s.host.roster.insert ∧
    ((s.run command.call).2.host.roster = s.host.roster ↔
      ∀ p, command.replaces? s.host.roster = some p → s.host.roster.Lists p) := by
  obtain ⟨frames, subscriptions, one, after⟩ := captures_command recording command
  rw [after]
  refine ⟨rfl, ⟨frames, one, rfl⟩, rfl, rfl, rfl, ?_⟩
  show (command.replaces? s.host.roster).elim s.host.roster s.host.roster.insert = s.host.roster ↔ _
  cases command.replaces? s.host.roster with
  | none => simp only [Option.elim_none, reduceCtorEq, false_imp_iff, implies_true]
  | some p => simp only [Option.elim_some, Option.some.injEq, forall_eq', Roster.insert_eq_self_iff]

end

/-! A processor that adds up bytes was created, and a script is being recorded. -/

def countingChain : List Stage :=
  [⟨some "a", .signal (.root .uint ⟨1, 1, 255⟩
      { widths := [1], units := 1, offset := 0, signed := false }), .accumulate false 1⟩]

def countingSession : Session Board :=
  ((advance 0 (Call.commitChain countingChain).run (new default (.new 18) 0 .virtual)).2.run
    (Call.beginRecording (.script false))).2

theorem reachable_countingSession : countingSession.Reachable :=
  .perform _ (.advance 0 _ (.new ..))

theorem countingSession_recording :
    countingSession.host.recorder = .recording (.script false) [] := by decide +kernel

/-- The reset of a processor is kept, and the roster stays as it is. -/
theorem captured_command_reset : countingSession.host.recorder = .recording (.script false) [] ∧
    (countingSession.run (Command.setState "a" 0).call).2.link = countingSession.link ∧
    (countingSession.run (Command.setState "a" 0).call).2.host.roster =
      countingSession.host.roster := by
  obtain ⟨link, -, -, -, -, roster⟩ :=
    captured_command countingSession_recording (.setState "a" 0)
  exact ⟨countingSession_recording, link, roster.mpr nofun⟩

/-- The parameters of a wider sum are kept, and the board adds up one byte as before; but the roster
has an output of two bytes, even when the recording is aborted. -/
theorem modified_while_recording : countingSession.Reachable ∧
    countingSession.host.recorder = .recording (.script false) [] ∧
    (countingSession.run (Call.modify "a" (.accumulate false 2))).2.link = countingSession.link ∧
    (countingSession.host.roster.get? 0).map (·.output.geometry.widths) = some [1] ∧
    ((countingSession.run (Call.modify "a" (.accumulate false 2))).2.host.roster.get? 0).map
      (·.output.geometry.widths) = some [2] ∧
    (((countingSession.run (Call.modify "a" (.accumulate false 2))).2.run
      Call.abortRecording).2.host.roster.get? 0).map (·.output.geometry.widths) = some [2] := by
  refine ⟨reachable_countingSession, countingSession_recording, ?_, ?_, ?_, ?_⟩
  · obtain ⟨_, _, -, after⟩ :=
      captures_modify countingSession_recording "a" (.accumulate false 2)
    rw [after]
  · decide +kernel
  · decide +kernel
  · decide +kernel

end Session

end SensorHost
