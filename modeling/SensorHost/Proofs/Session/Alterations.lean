import SensorHost.Proofs.Session.Capturing
import SensorHost.Proofs.SortedMap

/-!
# Alterations that the transport refuses

A call that takes something off the board, or gives a processor another operator, has two halves: a
frame to the board, and an update of what the host believes to be there. When the transport refuses
the frame, the board is as it was. A changed operator is then not believed either, since `modify`
sends first. The calls that remove update the host first, so that the entries are gone although the
call failed (`Session.failed_alteration`); a processor removed that way runs on, and cannot be
removed a second time (`Session.forgotten_processor`).
-/

namespace SensorHost

/-- What a host believes to be on the board. -/
structure Holdings where
  roster : Roster
  events : SortedMap UInt8 Event
  scripts : SortedMap UInt8 Script

def Host.holdings (h : Host) : Holdings := ⟨h.roster, h.events, h.scripts⟩

theorem ListenersOnly.holdings {h h' : Host} (only : ListenersOnly h h') :
    h'.holdings = h.holdings := by
  obtain ⟨subscriptions, rfl⟩ := only
  rfl

/-- A call that changes the holdings of the board without waiting, by what it gives back. -/
inductive Alteration : Type → Type where
  | removeProcessor (id : UInt8) : Alteration Processor
  | removeNamed (name : String) : Alteration Processor
  | removeProcessors : Alteration Unit
  | modify (name : String) (operator : Operator) : Alteration Processor
  | removeEvent (id : UInt8) : Alteration Event
  | removeEvents : Alteration Unit
  | eraseScripts : Alteration Unit

namespace Alteration

variable {α : Type}

def call : Alteration α → Call false α
  | removeProcessor id => Call.removeProcessor id
  | removeNamed name => Call.removeNamed name
  | removeProcessors => Call.removeProcessors
  | modify name operator => Call.modify name operator
  | removeEvent id => Call.removeEvent id
  | removeEvents => Call.removeEvents
  | eraseScripts => Call.eraseScripts

/-- The frame that tells the board. There is none for what the host does not know, for an operator
that does not accept its input, and while an open recording keeps the parameters. -/
def frame? (h : Host) : Alteration α → Option Frame
  | removeProcessor id => (h.roster.get? id).map fun _ => Processor.removeFrame id
  | removeNamed name => (h.roster.idOf? name).bind fun id =>
      (h.roster.get? id).map fun _ => Processor.removeFrame id
  | removeProcessors => some Processor.removeAllFrame
  | modify name operator => (h.roster.named? name).bind fun current =>
      (operator.product current.input).toOption.bind fun product =>
        let frame := Processor.parameterFrame current.id operator current.input product.output
        if (h.recorder.capture? frame).isNone then some frame else none
  | removeEvent id => (h.events.get? id).map fun _ => Event.removeFrame id
  | removeEvents => some Event.removeAllFrame
  | eraseScripts => some Script.eraseAllFrame

/-- What the host believes when the board was not told. -/
def refused (t : Holdings) : Alteration α → Holdings
  | removeProcessor id => { t with roster := t.roster.erase id }
  | removeNamed name => { t with roster := (t.roster.idOf? name).elim t.roster t.roster.erase }
  | removeProcessors => { t with roster := .empty }
  | modify .. => t
  | removeEvent id => { t with events := t.events.erase id }
  | removeEvents => { t with events := .empty }
  | eraseScripts => { t with scripts := .empty }

/-- There is nothing to remove. -/
def Spares (t : Holdings) : Alteration α → Prop
  | removeProcessor id => t.roster.get? id = none
  | removeNamed name => t.roster.named? name = none
  | removeProcessors => t.roster = .empty
  | modify .. => True
  | removeEvent id => t.events.get? id = none
  | removeEvents => t.events = .empty
  | eraseScripts => t.scripts = .empty

end Alteration

theorem Roster.erase_eq_self_iff {r : Roster} {id : UInt8} :
    r.erase id = r ↔ r.get? id = none := by
  constructor
  · intro same
    rw [← same, get?_erase, if_pos rfl]
  · intro untracked
    unfold Roster.erase
    rw [if_neg]
    unfold SortedMap.contains
    rw [show r.active.get? id = none from untracked]
    exact Bool.false_ne_true

/-- The host believes the same of the board afterwards if and only if there was nothing to remove. -/
theorem Alteration.refused_eq_iff {α : Type} (a : Alteration α) (t : Holdings) :
    a.refused t = t ↔ a.Spares t := by
  obtain ⟨roster, events, scripts⟩ := t
  cases a with
  | removeProcessor id =>
      simp only [refused, Spares, Holdings.mk.injEq, and_true, Roster.erase_eq_self_iff]
  | removeNamed name =>
      simp only [refused, Spares, Holdings.mk.injEq, and_true, Roster.named?]
      cases roster.idOf? name with
      | none => simp only [Option.elim_none, Option.bind_none]
      | some id => simp only [Option.elim_some, Option.bind_some, Roster.erase_eq_self_iff]
  | removeProcessors => simp only [refused, Spares, Holdings.mk.injEq, and_true, eq_comm]
  | modify name operator => simp only [refused, Spares]
  | removeEvent id =>
      simp only [refused, Spares, Holdings.mk.injEq, and_true, true_and,
        SortedMap.erase_eq_self_iff]
  | removeEvents => simp only [refused, Spares, Holdings.mk.injEq, and_true, true_and, eq_comm]
  | eraseScripts => simp only [refused, Spares, Holdings.mk.injEq, true_and, eq_comm]

namespace Session

variable {σ α β : Type} [Transport σ]

/-! ## The two halves of an alteration -/

/-- How a call with one frame to send fails, if it fails: without the frame it leaves the session
alone; with it the transport refused the frame, and then the host believes `after`. -/
inductive FailsBy (s : Session σ) : Option Frame → Holdings → Except Fault α × Session σ → Prop
  | unsent {after : Holdings} (fault : Fault) : FailsBy s none after (.error fault, s)
  | refused {frame : Frame} {after : Holdings} {fault : Fault} {s' : Session σ} :
    (s.link.transmit frame).1 = .error fault → s'.host.holdings = after →
    FailsBy s (some frame) after (.error fault, s')
  | succeeded {frame : Option Frame} {after : Holdings} (a : α) (s' : Session σ) :
    FailsBy s frame after (.ok a, s')

variable {s : Session σ}

/-- A refused frame leaves the host with what it believed when the frame was sent. -/
theorem failsBy_transmit (host : Host) (frame : Frame) :
    s.FailsBy (some frame) host.holdings ({ s with host }.run (Call.transmit frame)) := by
  have only := listenersOnly_transmit { s with host } frame
  show s.FailsBy (some frame) host.holdings ({ s with host }.transmit frame)
  have refusal : ({ s with host }.transmit frame).1 = (s.link.transmit frame).1 := rfl
  rcases sent : { s with host }.transmit frame with ⟨result, s'⟩
  rw [sent] at only refusal ⊢
  cases result with
  | error fault => exact .refused refusal.symm only.holdings
  | ok => exact .succeeded _ s'

/-- What cannot fail may follow. -/
theorem FailsBy.bind {s₁ : Session σ} {frame : Option Frame} {after : Holdings}
    {call : Call false α} {f : α → Call false β} (fails : s.FailsBy frame after (s₁.run call))
    (goesOn : ∀ (a : α) (s' : Session σ), ∃ b s'', s'.run (f a) = (.ok b, s'')) :
    s.FailsBy frame after (s₁.run (call >>= f)) := by
  rw [run_bind]
  rcases ran : s₁.run call with ⟨result, s'⟩
  rw [ran] at fails
  cases fails with
  | unsent fault => exact .unsent fault
  | refused refusal believes => exact .refused refusal believes
  | succeeded a =>
      obtain ⟨b, s'', ends⟩ := goesOn a s'
      simp only [ends]
      exact .succeeded b s''

/-- Of a call that updates the host and then sends, the update stays when the frame is refused. -/
theorem failsBy_update_transmit (change : Host → Host) (frame : Frame) :
    s.FailsBy (some frame) (change s.host).holdings
      (s.run (Call.update change >>= fun _ => Call.transmit frame)) := by
  rw [run_bind, run_update]
  exact failsBy_transmit (change s.host) frame

/-! ## Every alteration -/

theorem failsBy_removeProcessor (id : UInt8) :
    s.FailsBy ((Alteration.removeProcessor id).frame? s.host)
      ((Alteration.removeProcessor id).refused s.host.holdings)
      (s.run (Call.removeProcessor id)) := by
  unfold Call.removeProcessor
  simp only [Alteration.frame?, run_bind s, run_host, Call.orFail_eq_check, run_check]
  cases s.host.roster.get? id with
  | none => exact .unsent _
  | some p =>
      simp only [Option.elim_some, run_bind, Call.updateRoster, run_update]
      rw [← run_bind]
      refine FailsBy.bind ?_ fun _ s' => ⟨p, s', rfl⟩
      exact failsBy_transmit { s.host with roster := s.host.roster.erase id } _

theorem failsBy_removeNamed (name : String) :
    s.FailsBy ((Alteration.removeNamed name).frame? s.host)
      ((Alteration.removeNamed name).refused s.host.holdings)
      (s.run (Call.removeNamed name)) := by
  unfold Call.removeNamed Call.idNamed
  simp only [Alteration.frame?, Alteration.refused, run_bind, run_host, Call.orFail_eq_check,
    run_check]
  show s.FailsBy _ { s.host.holdings with
    roster := (s.host.roster.idOf? name).elim s.host.roster s.host.roster.erase } _
  cases s.host.roster.idOf? name with
  | none => exact .unsent _
  | some id => exact failsBy_removeProcessor id

/-- The parameters are sent before the host believes them. -/
theorem failsBy_modify (name : String) (operator : Operator) :
    s.FailsBy ((Alteration.modify name operator).frame? s.host) s.host.holdings
      (s.run (Call.modify name operator)) := by
  unfold Call.modify
  simp only [Alteration.frame?]
  rw [run_bind, run_processorNamed]
  cases s.host.roster.named? name with
  | none => exact .unsent _
  | some current =>
      simp only [Option.elim_some, Option.bind_some]
      rw [run_bind, run_check]
      cases operator.product current.input with
      | error reason => exact .unsent reason
      | ok product =>
          refine FailsBy.bind ?_ fun _ s' => ⟨_, _, rfl⟩
          cases recorder : s.host.recorder with
          | recording target captured =>
              rw [run_command_recording recorder]
              exact .succeeded () _
          | idle =>
              rw [run_command_idle recorder]
              exact failsBy_transmit s.host _

theorem failsBy_removeEvent (id : UInt8) :
    s.FailsBy ((Alteration.removeEvent id).frame? s.host)
      ((Alteration.removeEvent id).refused s.host.holdings) (s.run (Call.removeEvent id)) := by
  unfold Call.removeEvent
  simp only [Alteration.frame?, run_bind s, run_host, Call.orFail_eq_check, run_check]
  cases s.host.events.get? id with
  | none => exact .unsent _
  | some event =>
      simp only [Option.elim_some, run_bind, Call.updateEvents, run_update]
      rw [← run_bind]
      refine FailsBy.bind ?_ fun _ s' => ⟨event, s', rfl⟩
      exact failsBy_transmit { s.host with events := s.host.events.erase id } _

theorem failsBy_alteration (a : Alteration α) :
    s.FailsBy (a.frame? s.host) (a.refused s.host.holdings) (s.run a.call) := by
  cases a with
  | removeProcessor id => exact failsBy_removeProcessor id
  | removeNamed name => exact failsBy_removeNamed name
  | removeProcessors =>
      exact failsBy_update_transmit (fun h => { h with roster := .empty }) Processor.removeAllFrame
  | modify name operator => exact failsBy_modify name operator
  | removeEvent id => exact failsBy_removeEvent id
  | removeEvents =>
      exact failsBy_update_transmit (fun h => { h with events := .empty }) Event.removeAllFrame
  | eraseScripts =>
      exact failsBy_update_transmit (fun h => { h with scripts := .empty }) Script.eraseAllFrame

/-- An alteration that fails either had nothing to tell the board, and leaves the session alone, or
the transport refused its frame. Then the host believes the same of the board as before if and only
if there was nothing to remove: a changed operator is not believed, but what was to be removed is
gone. -/
theorem failed_alteration (a : Alteration α) {fault : Fault}
    (failed : (s.run a.call).1 = .error fault) :
    (a.frame? s.host = none ∧ (s.run a.call).2 = s) ∨
    ∃ frame, a.frame? s.host = some frame ∧ (s.link.transmit frame).1 = .error fault ∧
      (s.run a.call).2.host.holdings = a.refused s.host.holdings ∧
      ((s.run a.call).2.host.holdings = s.host.holdings ↔ a.Spares s.host.holdings) := by
  have fails := failsBy_alteration (s := s) a
  rcases ran : s.run a.call with ⟨result, s'⟩
  rw [ran] at fails failed
  obtain rfl : result = .error fault := failed
  cases told : a.frame? s.host with
  | none =>
      rw [told] at fails
      cases fails
      exact .inl ⟨rfl, rfl⟩
  | some frame =>
      rw [told] at fails
      cases fails with
      | refused refusal believes =>
          refine .inr ⟨frame, rfl, refusal, believes, ?_⟩
          show s'.host.holdings = s.host.holdings ↔ _
          rw [believes]
          exact a.refused_eq_iff s.host.holdings

/-- Why a call failed, if it did. -/
def faultOf? : Except Fault α → Option Fault
  | .ok _ => none
  | .error fault => some fault

omit [Transport σ] in
theorem eq_error_of_faultOf? {result : Except Fault α} {fault : Fault}
    (failed : faultOf? result = some fault) : result = .error fault := by
  cases result with
  | ok => exact absurd failed nofun
  | error reason => exact congrArg Except.error (Option.some.inj failed)

/-! A processor that adds up bytes was created, and the board refuses to remove processors. -/

def refusedRemovals : ReplyKey := ⟨ModuleId.processor, Register.Processor.remove⟩

def stubbornSession : Session Board :=
  let s : Session Board :=
    (advance 0 (Call.commitChain countingChain).run (new default (.new 18) 0 .virtual)).2
  s.withWire (s.link.wire.reject refusedRemovals)

theorem reachable_stubbornSession : stubbornSession.Reachable :=
  .meanwhile (.advance 0 (Call.commitChain countingChain).run (.new default (.new 18) 0 .virtual))
    (.stirs trivial)

def refusedRemoval : Fault := .transport "rejected 09-06-00"

/-- The removal by name is refused, and the host no longer knows the processor. -/
theorem failed_alteration_refusedRemoval :
    (stubbornSession.run (Alteration.removeNamed "a").call).1 = .error refusedRemoval ∧
    (stubbornSession.run (Alteration.removeNamed "a").call).2.host.holdings ≠
      stubbornSession.host.holdings := by
  have failed : (stubbornSession.run (Alteration.removeNamed "a").call).1 =
      .error refusedRemoval := eq_error_of_faultOf? (by decide +kernel)
  have tracked : stubbornSession.host.roster.named? "a" ≠ none := by decide +kernel
  refine ⟨failed, ?_⟩
  rcases failed_alteration (.removeNamed "a") failed with ⟨nothing, -⟩ | ⟨_, -, -, -, same⟩
  · exact absurd nothing (by decide +kernel)
  · exact fun unchanged => tracked (same.mp unchanged)

/-- The removal fails, and the processor runs on; but the host has forgotten it, and does not send
the frame a second time. -/
theorem forgotten_processor : stubbornSession.Reachable ∧
    (stubbornSession.host.roster.get? 0).isSome ∧
    (stubbornSession.run (Call.removeProcessor 0)).1 = .error refusedRemoval ∧
    (stubbornSession.run (Call.removeProcessor 0)).2.host.roster.get? 0 = none ∧
    ((stubbornSession.run (Call.removeProcessor 0)).2.link.wire.processors.get? 0).isSome ∧
    ((stubbornSession.run (Call.removeProcessor 0)).2.run (Call.removeProcessor 0)).1 =
      .error (.unknownProcessor "id 0") := by
  refine ⟨reachable_stubbornSession, ?_, ?_, ?_, ?_, ?_⟩
  · decide +kernel
  · exact eq_error_of_faultOf? (by decide +kernel)
  · decide +kernel
  · decide +kernel
  · exact eq_error_of_faultOf? (by decide +kernel)

end Session

end SensorHost
