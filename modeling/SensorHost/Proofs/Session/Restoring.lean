import SensorHost.Proofs.Exchange.Addressing
import SensorHost.Proofs.Session.Floor
import SensorHost.Proofs.Session.Knowledge

/-!
# Restoring what a session knew

Any number of calls take turns on a session, of every kind that there is, and in between everything
else happens that can: commands are sent or recorded, processors, events and scripts are removed,
snapshots are restored, frames arrive, timers fire (`Session.Attends`). Whenever a snapshot is taken
from such a session and restored on any other one, that one knows what the first one knew
(`Floor.restored_elsewhere`).

Each call asks all of its questions on one key. So what it is told always belongs to that key, in
whatever order the calls take their turns (`Session.Posted`), and the host is left with everything
under its own id (`Floor.Attended`).
-/

namespace SensorHost

namespace Session

variable {σ : Type} {keyOf : Nat → ReplyKey} {s s' : Session σ}

/-! ## What calls are told -/

/-- Every request waits on the key of the call that made it, and what a call is told belongs to that
key. -/
structure Posted (keyOf : Nat → ReplyKey) (s : Session σ) : Prop where
  link : s.link.Addressed keyOf
  outcomes : ∀ owner frame, (owner, .ok frame) ∈ s.outcomes →
    ReplyKey.ofFrame? frame = some (keyOf owner)

namespace Posted

theorem new (keyOf : Nat → ReplyKey) (settings : Settings) (wire : σ) (now : Nat)
    (runtime : Runtime) : (Session.new settings wire now runtime).Posted keyOf where
  link := Link.addressed_new keyOf wire now runtime
  outcomes := by
    intro owner frame mem
    contradiction

/-- The host has no part in it, and outcomes may be taken. -/
theorem around (h : s.Posted keyOf) (link : s'.link = s.link)
    (outcomes : ∀ outcome ∈ s'.outcomes, outcome ∈ s.outcomes) : s'.Posted keyOf where
  link := link ▸ h.link
  outcomes := fun owner frame mem => h.outcomes owner frame (outcomes _ mem)

theorem absorb (h : s.Posted keyOf) {link : Link σ} (addressed : link.Addressed keyOf) :
    ({ s with link } : Session σ).absorb.Posted keyOf := by
  obtain ⟨same, told⟩ :=
    foldl_absorbEvent link.journal { s with link := { link with journal := [] } }
  have linked : ({ s with link } : Session σ).absorb.link = { link with journal := [] } := same
  refine ⟨?_, fun owner frame mem => ?_⟩
  · rw [linked]
    exact ⟨addressed.waiting, fun _ _ _ _ mem => absurd mem List.not_mem_nil⟩
  · have mem : (owner, .ok frame) ∈ s.outcomes ++ link.journal.filterMap LinkEvent.outcome? :=
      told ▸ mem
    rcases List.mem_append.mp mem with mem | mem
    · exact h.outcomes owner frame mem
    · obtain ⟨event, happened, settles⟩ := List.mem_filterMap.mp mem
      cases event with
      | settled key ticket owner' result =>
          obtain ⟨rfl, rfl⟩ := Prod.mk.inj (Option.some.inj settles)
          exact addressed.answered key ticket owner' frame happened
      | _ => contradiction

theorem takeOutcome? (h : s.Posted keyOf) {owner : Nat} {reply : Except Fault Frame}
    (taken : s.takeOutcome? owner = some (reply, s')) :
    s'.Posted keyOf ∧ s'.host = s.host ∧
      ∀ frame, reply = .ok frame → ReplyKey.ofFrame? frame = some (keyOf owner) := by
  unfold Session.takeOutcome? at taken
  split at taken
  · contradiction
  · rename_i result found
    obtain ⟨rfl, rfl⟩ := Prod.mk.inj (Option.some.inj taken)
    refine ⟨h.around rfl fun outcome mem => List.mem_of_mem_eraseP mem, rfl, fun frame same => ?_⟩
    rw [same] at found
    obtain ⟨earlier, later, split, -⟩ := List.lookup_eq_some_iff.mp found
    exact h.outcomes owner frame (split ▸ List.mem_append_right _ List.mem_cons_self)

variable [Transport σ]

theorem transmit (h : s.Posted keyOf) (frame : Frame) : (s.transmit frame).2.Posted keyOf :=
  h.absorb (h.link.transmit frame)

theorem request (h : s.Posted keyOf) (timeout : Nat) {key : ReplyKey} {owner : Nat}
    (own : keyOf owner = key) (frames : List Frame) :
    (s.request key timeout owner frames).Posted keyOf :=
  h.absorb (h.link.request timeout own frames)

theorem meanwhile {Stirs : σ → Option Frame → σ → Prop} (h : s.Posted keyOf)
    (step : Meanwhile Stirs s s') : s'.Posted keyOf := by
  cases step with
  | stirs => exact ⟨⟨h.link.waiting, h.link.answered⟩, h.outcomes⟩
  | @arrives wire frame =>
      have drifted : (s.link.withWire wire).Addressed keyOf := ⟨h.link.waiting, h.link.answered⟩
      exact h.absorb (drifted.receive frame)
  | expires key ticket => exact h.absorb (h.link.expire key ticket)
  | closes => exact (h.absorb h.link.close).around rfl fun _ mem => mem
  | passes now nextTimer => exact ⟨⟨h.link.waiting, h.link.answered⟩, h.outcomes⟩

end Posted

end Session

/-! ## What calls leave behind -/

/-- However a call goes on from here, it asks on this key only and keeps `P`. -/
def Progress.Keeps {α : Type} (key : ReplyKey) (P : Host → Prop) : Progress α → Prop
  | .finished _ => True
  | .awaiting resume => ∀ reply, (∀ frame, reply = .ok frame → ReplyKey.ofFrame? frame = some key) →
    (resume reply).Keeps (.on key) P
  | .pausing _ next => next.Keeps (.on key) P

namespace Session

variable {σ α : Type} [Transport σ] {keyOf : Nat → ReplyKey} {s s' : Session σ}

/-- What holds of a session on which calls are told what belongs to their keys. -/
structure Attended (keyOf : Nat → ReplyKey) (s : Session σ) : Prop where
  posted : s.Posted keyOf
  keyed : s.host.Keyed

namespace Attended

/-- One piece of a call, up to where it has to wait. -/
theorem advance (h : s.Attended keyOf) {owner : Nat} {d : Dialogue true α}
    (keeps : d.Keeps (.on (keyOf owner)) Host.Keyed) :
    (Session.advance owner d s).2.Attended keyOf ∧
      (Session.advance owner d s).1.Keeps (keyOf owner) Host.Keyed := by
  induction d generalizing s with
  | done a => exact ⟨h, trivial⟩
  | look resume ih => exact ih s.host h (keeps s.host h.keyed)
  | update change next ih =>
      exact ih ⟨h.posted.around rfl fun _ mem => mem, keeps.1 _ h.keyed⟩ keeps.2
  | measure resume ih => exact ih _ h (keeps _)
  | transmit frame resume ih =>
      refine ih _ ⟨h.posted.transmit frame, ?_⟩ (keeps _)
      exact h.keyed.listeners (s.listenersOnly_transmit frame)
  | ask may key timeout frames resume ih =>
      obtain ⟨own, resumes⟩ := keeps
      have asked : (s.request key timeout owner frames).Attended keyOf :=
        ⟨h.posted.request timeout own.symm frames,
          h.keyed.listeners (s.listenersOnly_request key timeout owner frames)⟩
      unfold Session.advance
      simp only
      split
      · rename_i reply s₁ taken
        obtain ⟨posted, host, heard⟩ := asked.posted.takeOutcome? taken
        exact ih reply ⟨posted, host ▸ asked.keyed⟩ (resumes reply heard)
      · exact ⟨asked, resumes⟩
  | pause may milliseconds next => exact ⟨h, keeps⟩

theorem perform (h : s.Attended keyOf) {T : Talk} {d : Dialogue false α}
    (keeps : d.Keeps T Host.Keyed) : (Session.perform d s).2.Attended keyOf := by
  induction d generalizing s with
  | done a => exact h
  | look resume ih => exact ih s.host h (keeps s.host h.keyed)
  | update change next ih =>
      exact ih ⟨h.posted.around rfl fun _ mem => mem, keeps.1 _ h.keyed⟩ keeps.2
  | measure resume ih => exact ih _ h (keeps _)
  | transmit frame resume ih =>
      refine ih _ ⟨h.posted.transmit frame, ?_⟩ (keeps _)
      exact h.keyed.listeners (s.listenersOnly_transmit frame)
  | ask may => exact nomatch may
  | pause may => exact nomatch may

theorem meanwhile {Stirs : σ → Option Frame → σ → Prop} (h : s.Attended keyOf)
    (step : Meanwhile Stirs s s') : s'.Attended keyOf := by
  refine ⟨h.posted.meanwhile step, ?_⟩
  cases step with
  | stirs | passes => exact h.keyed
  | @arrives wire frame =>
      exact h.keyed.listeners (listenersOnly_absorb
        { s.withWire wire with link := (s.withWire wire).link.receive frame })
  | expires key ticket => exact h.keyed.listeners (s.listenersOnly_expire key ticket)
  | closes =>
      have closed := h.keyed.listeners (listenersOnly_absorb { s with link := s.link.close })
      exact closed.listeners ⟨[], rfl⟩

end Attended

/-- What may happen to a session between the turns of the calls that wait: its board and its clock
go on, and somebody makes a call that does not wait. -/
inductive Attends : Session σ → List LinkEvent → Session σ → Prop
  | meanwhile {s s' : Session σ} : Meanwhile (fun _ _ _ => True) s s' → Attends s [] s'
  | command {s : Session σ} {α : Type} (c : Command α) : Attends s [] (s.run c.call).2
  | alteration {s : Session σ} {α : Type} (a : Alteration α) : Attends s [] (s.run a.call).2
  | registers {s : Session σ} (name : String) (signal : Signal) :
    Attends s [] (s.run (Call.register name signal)).2
  | reconstructs {s : Session σ} (hops : List Hop) (root : Signal) :
    Attends s [] (s.run (Call.reconstruct hops root)).2
  | records {s : Session σ} (target : RecordingTarget) :
    Attends s [] (s.run (Call.beginRecording target)).2
  | aborts {s : Session σ} : Attends s [] (s.run Call.abortRecording).2
  /-- Somebody who listened does not do so any more. -/
  | leaves {s : Session σ} (number : Nat) :
    Attends s [] (s.run (Call.update (·.dropListener number))).2
  | rosters {s : Session σ} (roster : Roster) :
    Attends s [] (s.run (Call.updateRoster fun _ => roster)).2
  | restores {s : Session σ} (snapshot : Snapshot) :
    Attends s [] (s.run (Call.update (·.restore snapshot))).2

theorem Attends.attended {events : List LinkEvent} (step : Attends s events s')
    (h : s.Attended keyOf) : s'.Attended keyOf := by
  have r := Host.rosterwise_keyed
  cases step with
  | meanwhile step => exact h.meanwhile step
  | command c => exact h.perform (c.keeps (T := .free))
  | alteration a => exact h.perform (a.keeps (T := .free))
  | registers name signal => exact h.perform (Call.keeps_register (T := .free) name signal)
  | reconstructs hops root => exact h.perform (Call.keeps_reconstruct (T := .free) r hops root)
  | records target => exact h.perform (Call.keeps_beginRecording (T := .free) target)
  | aborts => exact h.perform (Call.keeps_abortRecording (T := .free))
  | leaves number =>
      exact ⟨h.posted.around rfl fun _ mem => mem, h.keyed.listeners ⟨_, rfl⟩⟩
  | rosters roster =>
      exact ⟨h.posted.around rfl fun _ mem => mem,
        ⟨h.keyed.modules, h.keyed.events, h.keyed.scripts⟩⟩
  | restores snapshot =>
      exact ⟨h.posted.around rfl fun _ mem => mem, Host.keyed_restore _ snapshot⟩

end Session

namespace Floor

variable {σ : Type} [Transport σ] {service : Nat → Service} {f f' : Floor σ Unit}

/-- The session of the calls is attended, and so it stays however they go on. -/
structure Attended (service : Nat → Service) (f : Floor σ Unit) : Prop where
  session : f.session.Attended fun owner => (service owner).key
  calls : ∀ owner progress, f.calls owner = some progress →
    progress.Keeps (service owner).key Host.Keyed

namespace Attended

omit [Transport σ] in
theorem new (service : Nat → Service) (settings : Settings) (wire : σ) (now : Nat)
    (runtime : Runtime) : (Floor.new (.new settings wire now runtime)).Attended service :=
  ⟨⟨.new _ settings wire now runtime, Host.keyed_new settings⟩, nofun⟩

theorem takeTurn (h : f.Attended service) {owner : Nat} {d : Dialogue true (Except Fault Unit)}
    {s : Session σ} (session : s.Attended fun owner => (service owner).key)
    (keeps : d.Keeps (.on (service owner).key) Host.Keyed) :
    (f.takeTurn owner d s).Attended service := by
  obtain ⟨attended, goesOn⟩ := session.advance keeps
  refine ⟨attended, fun o progress begun => ?_⟩
  by_cases own : o = owner
  · subst own
    have same : (f.takeTurn o d s).calls o = some (s.advance o d).1 := Function.update_self ..
    rw [same] at begun
    rw [← Option.some.inj begun]
    exact goesOn
  · have same : (f.takeTurn owner d s).calls o = f.calls o := Function.update_of_ne own ..
    exact h.calls o progress (same ▸ begun)

theorem step (h : f.Attended service)
    (step : Step (fun owner => (service owner).call) Session.Attends f f') :
    f'.Attended service := by
  cases step with
  | turn owner turn =>
      cases turn with
      | begins unbegun => exact h.takeTurn h.session (service owner).keeps_call
      | answered awaiting taken =>
          obtain ⟨posted, host, heard⟩ := h.session.posted.takeOutcome? taken
          exact h.takeTurn ⟨posted, host ▸ h.session.keyed⟩ (h.calls owner _ awaiting _ heard)
      | resumed pausing => exact h.takeTurn h.session (h.calls owner _ pausing)
  | between happens => exact ⟨happens.attended h.session, h.calls⟩

theorem of_reaches {settings : Settings} {wire : σ} {now : Nat}
    {runtime : Runtime}
    (reached : Relation.ReflTransGen (Step (fun owner => (service owner).call) Session.Attends)
      (.new (.new settings wire now runtime)) f) : f.Attended service := by
  induction reached with
  | refl => exact .new service settings wire now runtime
  | tail _ step ih => exact ih.step step

end Attended

end Floor

/-- A host answers to every look-up as another one does. -/
structure Host.AnswersAs (h h' : Host) : Prop where
  producer : ∀ name, h.producers.get? name = h'.producers.get? name
  moduleInfo : ∀ id, h.modules.get? id = h'.modules.get? id
  processor : ∀ id, h.roster.get? id = h'.roster.get? id
  processorNamed : ∀ name, h.roster.named? name = h'.roster.named? name
  idNamed : ∀ name, h.roster.idOf? name = h'.roster.idOf? name
  processorIds : h.roster.ids = h'.roster.ids
  events : h.events.values = h'.events.values
  scripts : h.scripts.values = h'.scripts.values

namespace Floor

variable {σ τ : Type} [Transport σ] [Transport τ] {service : Nat → Service} {f : Floor σ Unit}

/-- A snapshot of a session that many calls were made on, restored on any other session: the
snapshot of that one is the same, it answers to every look-up as the first session does, and every
module, event and script is kept where it was. -/
theorem restored_elsewhere {settings : Settings} {wire : σ} {now : Nat}
    {runtime : Runtime}
    (reached : Relation.ReflTransGen (Step (fun owner => (service owner).call) Session.Attends)
      (.new (.new settings wire now runtime)) f) (other : Session τ) :
    let known := f.session.host
    let restored := (other.run (Call.update (·.restore known.snapshot))).2.host
    restored.snapshot = known.snapshot ∧ restored.AnswersAs known ∧
      restored.modules = known.modules ∧ restored.events = known.events ∧
      restored.scripts = known.scripts := by
  intro known restored
  have keyed : known.Keyed := (Attended.of_reaches reached).session.keyed
  have same : restored = { other.host with
      producers := known.producers, modules := known.modules, roster := known.roster
      events := known.events, scripts := known.scripts } := keyed.restore_snapshot other.host
  rw [same]
  exact ⟨rfl, ⟨fun _ => rfl, fun _ => rfl, fun _ => rfl, fun _ => rfl, fun _ => rfl, rfl, rfl, rfl⟩,
    rfl, rfl, rfl⟩

/-! A module is asked what it is, an event, a script and a chain are created, and a session that
knew something else learns of all of it. -/

theorem reaches_attended {s : Session σ} (attends : Session.Attends f.session [] s) :
    Relation.ReflTransGen (Step (fun owner => (service owner).call) Session.Attends) f
      { f with session := s } := by
  have step : Step (fun owner => (service owner).call) Session.Attends f
      ⟨s, f.log ++ [].map .happened, f.calls⟩ := .between attends
  rw [List.map_nil, List.append_nil] at step
  exact .single step

def services : Nat → Service
  | 0 => .discover ModuleId.accelerometer
  | 1 => .commitEvents
  | 2 => .commitScript
  | _ => .commitChain Session.countingChain

/-- The next turn of one of these calls, once a recording was opened and a command given. -/
def recordThen (f : Floor Board Unit) (target : RecordingTarget) (owner : Nat) : Floor Board Unit :=
  let s := (f.session.run (Call.beginRecording target)).2
  let s := (s.run (Command.send [2, 3, 1]).call).2
  { f with session := s }.nextTurn (fun owner => (services owner).call) owner

theorem reaches_recordThen (f : Floor Board Unit) (target : RecordingTarget) (owner : Nat) :
    Relation.ReflTransGen (Step (fun owner => (services owner).call) Session.Attends) f
      (f.recordThen target owner) :=
  ((reaches_attended (.records target)).trans
    (reaches_attended (f := { f with session := _ }) (.command (Command.send [2, 3, 1])))).trans
      (reaches_nextTurn ..)

def busy : Floor Board Unit :=
  let f : Floor Board Unit :=
    .new (.new default ((Board.new 18).addModule ModuleId.accelerometer [1, 2]) 0 .virtual)
  let f := f.nextTurn (fun owner => (services owner).call) 0
  let f := f.recordThen (.event ⟨3, 4, 255⟩ none) 1
  let f := f.recordThen (.script false) 2
  f.nextTurn (fun owner => (services owner).call) 3

theorem reaches_busy :
    Relation.ReflTransGen (Step (fun owner => (services owner).call) Session.Attends)
      (.new (.new default ((Board.new 18).addModule ModuleId.accelerometer [1, 2]) 0 .virtual)) busy :=
  (((reaches_nextTurn _ _ _ 0).trans (reaches_recordThen _ (.event ⟨3, 4, 255⟩ none) 1)).trans
    (reaches_recordThen _ (.script false) 2)).trans (reaches_nextTurn _ _ _ 3)

theorem restored_elsewhere_busy :
    Relation.ReflTransGen (Step (fun owner => (services owner).call) Session.Attends)
      (.new (.new default ((Board.new 18).addModule ModuleId.accelerometer [1, 2]) 0 .virtual)) busy ∧
    (busy.session.host.modules.get? ModuleId.accelerometer).isSome ∧
    busy.session.host.roster.size = 1 ∧ busy.session.host.events.size = 1 ∧
    busy.session.host.scripts.size = 1 ∧
    (Session.stubbornSession.run
      (Call.update (·.restore busy.session.host.snapshot))).2.host.AnswersAs busy.session.host := by
  have restored := restored_elsewhere reaches_busy Session.stubbornSession
  refine ⟨reaches_busy, ?_, ?_, ?_, ?_, restored.2.1⟩
  · decide +kernel
  · decide +kernel
  · decide +kernel
  · decide +kernel

end Floor

end SensorHost
