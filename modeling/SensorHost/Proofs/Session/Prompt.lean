import SensorHost.Proofs.Session.Solo

/-!
# Calls that are answered at once

A board that answers while a frame is being sent never makes a call wait. `Session.Prompt` says that
a call ended like that, in one piece, with which result and on which session. The lemmas put such
calls together from the things that a call can do.
-/

namespace SensorHost.Session

variable {σ α β : Type} [Transport σ] {s s₁ s' : Session σ} {owner : Nat}

theorem advance_bind {d : Dialogue true α} {f : α → Dialogue true β} {a : α}
    (first : advance owner d s = (.finished a, s₁)) :
    advance owner (d.bind f) s = advance owner (f a) s₁ := by
  induction d generalizing s with
  | done b =>
      obtain ⟨same, rfl⟩ := Prod.mk.inj first
      obtain rfl := Progress.finished.inj same
      rfl
  | look resume ih => exact ih s.host first
  | update change next ih => exact ih first
  | measure resume ih => exact ih _ first
  | transmit frame resume ih => exact ih _ first
  | ask may key timeout frames resume ih =>
      rw [advance] at first
      split at first
      · rename_i taken
        rw [Dialogue.bind, advance_ask taken]
        exact ih _ first
      · cases (Prod.mk.inj first).1
  | pause may milliseconds next => cases (Prod.mk.inj first).1

/-- The outcome of a question of one frame, on an idle session, that the board answers while it takes
the frame is there when the request returns. -/
theorem Idle.taken_at_once (idle : s.Idle) (owner : Nat) (key : ReplyKey) (timeout : Nat)
    {frame answer : Frame} {replies : List Frame} {wire : σ}
    (sent : Transport.send s.link.wire frame = (.ok replies, wire))
    (first : firstOn key replies = some answer) :
    ∃ s', (s.request key timeout owner [frame]).takeOutcome? owner = some (.ok answer, s') ∧
      s'.Idle ∧ s'.link.wire = wire ∧ ListenersOnly s.host s'.host := by
  have all : Transport.sendAll s.link.wire [frame] = (replies, .ok (), wire) := by
    simp only [Transport.sendAll, sent, List.append_nil]
  obtain ⟨same, answered⟩ := idle.link.request key timeout owner [frame]
  rw [all, first] at answered
  obtain ⟨stands, kept⟩ := stands_absorb answered idle.outcomes
  refine ⟨_, takeOutcome?_eq_some stands, ⟨stands.link, rfl⟩, ?_, listenersOnly_request ..⟩
  rw [all] at same
  exact kept.trans same

/-- A question of one frame, on an idle session, to which nothing came back while the frame was taken
may time out. -/
theorem Idle.times_out {Stirs : σ → Option Frame → σ → Prop} (idle : s.Idle) (owner : Nat)
    (key : ReplyKey) (timeout : Nat) {frame : Frame} {replies : List Frame} {wire : σ}
    (sent : Transport.send s.link.wire frame = (.ok replies, wire))
    (unanswered : firstOn key replies = none) : ∃ s₁ s',
      Meanwhile Stirs (s.request key timeout owner [frame]) s₁ ∧
      s₁.takeOutcome? owner = some (.error (.timeout key.text timeout), s') ∧
      s'.Idle ∧ s'.link.wire = wire ∧ ListenersOnly s.host s'.host := by
  have all : Transport.sendAll s.link.wire [frame] = (replies, .ok (), wire) := by
    simp only [Transport.sendAll, sent, List.append_nil]
  obtain ⟨same, waits⟩ := idle.link.request key timeout owner [frame]
  rw [all] at same waits
  simp only [unanswered] at waits
  obtain ⟨r, rfl, rfl, waiting⟩ := waits
  obtain ⟨stands, kept⟩ := stands_absorb waiting idle.outcomes
  obtain ⟨kept', expired⟩ := stands.link.expire_held
  obtain ⟨stands', kept''⟩ := stands_absorb (s := s.request key r.timeout r.owner [frame]) expired
    stands.outcomes
  refine ⟨_, _, .expires key r.ticket, takeOutcome?_eq_some stands', ⟨stands'.link, rfl⟩,
    kept''.trans (kept'.trans (kept.trans same)), ?_⟩
  exact (listenersOnly_request ..).trans (listenersOnly_expire ..)

/-- The call ends without waiting, with this result, and leaves that session. -/
def Prompt (owner : Nat) (call : Call true α) (s : Session σ) (result : Except Fault α)
    (s' : Session σ) : Prop :=
  advance owner call.run s = (.finished result, s')

namespace Prompt

theorem pure (a : α) : Prompt owner (Pure.pure a : Call true α) s (.ok a) s := rfl

theorem check (checked : Except Fault α) : Prompt owner (Call.check checked) s checked s := rfl

theorem host : Prompt owner Call.host s (.ok s.host) s := rfl

theorem update (change : Host → Host) :
    Prompt owner (Call.update change) s (.ok ()) { s with host := change s.host } := rfl

theorem updateRoster (change : Roster → Roster) : Prompt owner (Call.updateRoster change) s (.ok ())
    { s with host := { s.host with roster := change s.host.roster } } := update _

theorem bind {call : Call true α} {f : α → Call true β} {a : α} {result : Except Fault β}
    (first : Prompt owner call s (.ok a) s₁) (second : Prompt owner (f a) s₁ result s') :
    Prompt owner (call >>= f) s result s' :=
  (advance_bind (f := ExceptT.bindCont f) first).trans second

theorem bind_error {call : Call true α} {f : α → Call true β} {fault : Fault}
    (first : Prompt owner call s (.error fault) s') :
    Prompt owner (call >>= f) s (.error fault) s' :=
  advance_bind (f := ExceptT.bindCont f) first

theorem attempt {call : Call true α} {result : Except Fault α}
    (made : Prompt owner call s result s') :
    Prompt owner (Call.attempt call) s (.ok result) s' :=
  advance_bind (f := fun r => .done (Except.ok r)) made

theorem within {call : Call true α} {a : α} (context : String)
    (made : Prompt owner call s (.ok a) s') :
    Prompt owner (Call.within context call) s (.ok a) s' :=
  made.attempt.bind (.pure a)

/-- A question of one frame, on an idle session, that the board answers while it takes the frame. -/
theorem ask (owner : Nat) (key : ReplyKey) (timeout : Nat) {frame answer : Frame}
    {replies : List Frame} {wire : σ} (idle : s.Idle)
    (sent : Transport.send s.link.wire frame = (.ok replies, wire))
    (first : firstOn key replies = some answer) :
    ∃ s', Prompt owner (Call.ask key timeout [frame]) s (.ok answer) s' ∧ s'.Idle ∧
      s'.link.wire = wire ∧ ListenersOnly s.host s'.host := by
  obtain ⟨s', taken, idle', wire, listeners⟩ := idle.taken_at_once owner key timeout sent first
  exact ⟨s', advance_ask taken, idle', wire, listeners⟩

end Prompt

theorem run_reconstruct (s : Session σ) (hops : List Hop) (root : Signal) :
    s.run (Call.reconstruct hops root) = ((s.host.roster.rebuild hops root).1,
      { s with host := { s.host with roster := (s.host.roster.rebuild hops root).2 } }) := rfl

end SensorHost.Session
