import Mathlib.Data.List.Basic
import Mathlib.Data.List.Induction
import SensorHost.Proofs.Session.Batch
import SensorHost.Proofs.Session.Capturing

/-!
# Where the frames of a recording session go

Whoever opens, takes and discards recordings and sends commands in between has every frame
transmitted at once or kept (`Recorder.Step`). Where a frame goes is said here by the steps alone: a
recording is open after a begin that nothing has closed since (`Recorder.IsOpen`), and it holds what
was given since (`Recorder.Holds`). `Recorder.ledger` keeps account of all the frames.

`Session.recorded_once` says that a session on which nothing waits does exactly that: no frame is
lost, handed over twice, or found in another recording than the one it was given to.
-/

namespace SensorHost

namespace Recorder

/-- A step of a user that records. -/
inductive Step where
  | begin (target : RecordingTarget)
  | send (frame : Frame)
  | take
  | abort

/-- The frame that a step gives to the session. -/
def Step.frame? : Step → Option Frame
  | send frame => some frame
  | begin _ | take | abort => none

/-- Whether no recording is open after the step. -/
def Step.Closes : Step → Prop
  | take | abort => True
  | begin _ | send _ => False

/-- The frames that the steps give, in order. -/
def given (steps : List Step) : List Frame := steps.filterMap Step.frame?

/-- A recording was begun, and none was closed since. -/
def IsOpen (steps : List Step) : Prop :=
  ∃ before target within, steps = before ++ .begin target :: within ∧
    ∀ step ∈ within, ¬ step.Closes

/-- The open recording was begun for this target, and these frames were given since. -/
def Holds (steps : List Step) (target : RecordingTarget) (captured : List Frame) : Prop :=
  ∃ before within, steps = before ++ .begin target :: within ∧ ¬ IsOpen before ∧
    (∀ step ∈ within, ¬ step.Closes) ∧ captured = given within

/-! ## One step more -/

theorem given_append_singleton (steps : List Step) (step : Step) :
    given (steps ++ [step]) = given steps ++ step.frame?.toList := by
  unfold given
  rw [List.filterMap_append]
  cases step <;> rfl

theorem not_isOpen_nil : ¬ IsOpen [] := by
  rintro ⟨before, target, within, split, -⟩
  cases before <;> contradiction

/-- A begin in a history of one step more is that step, or was there before. -/
theorem begin_last_or_before {steps before within : List Step} {step : Step}
    {target : RecordingTarget} (split : steps ++ [step] = before ++ .begin target :: within) :
    (before = steps ∧ step = .begin target ∧ within = []) ∨
      ∃ earlier, within = earlier ++ [step] ∧ steps = before ++ .begin target :: earlier := by
  rcases within.eq_nil_or_concat' with rfl | ⟨earlier, last, rfl⟩
  · obtain ⟨rfl, same⟩ := List.append_inj' split rfl
    exact .inl ⟨rfl, List.singleton_inj.mp same, rfl⟩
  · rw [← List.cons_append, ← List.append_assoc] at split
    obtain ⟨rfl, same⟩ := List.append_inj' split rfl
    obtain rfl := List.singleton_inj.mp same
    exact .inr ⟨earlier, rfl, rfl⟩

theorem isOpen_append_singleton {steps : List Step} {step : Step} :
    IsOpen (steps ++ [step]) ↔
      (∃ target, step = .begin target) ∨ (IsOpen steps ∧ ¬ step.Closes) := by
  constructor
  · rintro ⟨before, target, within, split, still⟩
    obtain ⟨-, rfl, -⟩ | ⟨earlier, rfl, rfl⟩ := begin_last_or_before split
    · exact .inl ⟨target, rfl⟩
    · obtain ⟨still, last⟩ := List.forall_mem_append.mp still
      exact .inr ⟨⟨before, target, earlier, rfl, still⟩, last step (List.mem_singleton_self step)⟩
  · rintro (⟨target, rfl⟩ | ⟨⟨before, target, within, rfl, still⟩, last⟩)
    · exact ⟨steps, target, [], rfl, nofun⟩
    · refine ⟨before, target, within ++ [step], List.append_assoc .., ?_⟩
      exact List.forall_mem_append.mpr ⟨still, List.forall_mem_singleton.mpr last⟩

theorem holds_append_singleton {steps : List Step} {step : Step} {target : RecordingTarget}
    {captured : List Frame} : Holds (steps ++ [step]) target captured ↔
      (step = .begin target ∧ ¬ IsOpen steps ∧ captured = []) ∨
        ∃ earlier, Holds steps target earlier ∧ ¬ step.Closes ∧
          captured = earlier ++ step.frame?.toList := by
  constructor
  · rintro ⟨before, within, split, closed, still, rfl⟩
    obtain ⟨rfl, rfl, rfl⟩ | ⟨earlier, rfl, rfl⟩ := begin_last_or_before split
    · exact .inl ⟨rfl, closed, rfl⟩
    · obtain ⟨still, last⟩ := List.forall_mem_append.mp still
      exact .inr ⟨given earlier, ⟨before, earlier, rfl, closed, still, rfl⟩,
        last step (List.mem_singleton_self step), given_append_singleton earlier step⟩
  · rintro (⟨rfl, closed, rfl⟩ | ⟨_, ⟨before, within, rfl, closed, still, rfl⟩, last, rfl⟩)
    · exact ⟨steps, [], rfl, closed, nofun, rfl⟩
    · refine ⟨before, within ++ [step], List.append_assoc .., closed, ?_,
        (given_append_singleton within step).symm⟩
      exact List.forall_mem_append.mpr ⟨still, List.forall_mem_singleton.mpr last⟩

/-! ## An account of the frames -/

/-- What became of the frames that were given so far, each list in order. -/
structure Ledger where
  transmitted : List Frame
  /-- Given back by takes. -/
  returned : List Frame
  /-- Dropped with the recordings that were aborted. -/
  discarded : List Frame
  held : Recorder

namespace Ledger

/-- All frames of the account. -/
def frames (l : Ledger) : List Frame := l.transmitted ++ l.returned ++ l.discarded ++ l.held.captured

/-- What a step adds to the account. -/
def enter (l : Ledger) (step : Step) : Ledger :=
  match step, l.held with
  | .begin target, .idle => { l with held := .recording target [] }
  | .begin _, .recording .. => l
  | .send frame, .idle => { l with transmitted := l.transmitted ++ [frame] }
  | .send frame, .recording target captured =>
    { l with held := .recording target (captured ++ [frame]) }
  | .take, held => { l with returned := l.returned ++ held.captured, held := .idle }
  | .abort, held => { l with discarded := l.discarded ++ held.captured, held := .idle }

/-- The frame of a step is entered once, and no other frame is entered or struck off. -/
theorem frames_enter (l : Ledger) (step : Step) :
    (l.enter step).frames.Perm (l.frames ++ step.frame?.toList) := by
  obtain ⟨transmitted, returned, discarded, held⟩ := l
  rw [List.perm_iff_count]
  intro frame
  cases step <;> cases held <;>
    simp only [enter, frames, Step.frame?, captured, Option.toList_some, Option.toList_none,
      List.count_append, List.count_nil] <;> omega

end Ledger

/-- The account of these steps. -/
def ledger (steps : List Step) : Ledger := steps.foldl Ledger.enter ⟨[], [], [], .idle⟩

theorem ledger_append_singleton (steps : List Step) (step : Step) :
    ledger (steps ++ [step]) = (ledger steps).enter step :=
  List.foldl_append

/-- Every frame that was given is in the account once. -/
theorem frames_ledger (steps : List Step) : (ledger steps).frames.Perm (given steps) := by
  induction steps using List.reverseRecOn with
  | nil => exact .refl _
  | append_singleton steps step ih =>
      rw [ledger_append_singleton, given_append_singleton]
      exact ((ledger steps).frames_enter step).trans (ih.append_right _)

/-- What the account has as held is what the history says. -/
theorem held_ledger (steps : List Step) :
    ((ledger steps).held = .idle ↔ ¬ IsOpen steps) ∧
      ∀ target captured, (ledger steps).held = .recording target captured ↔
        Holds steps target captured := by
  -- On the last step: what it opens or closes is decided by what was held before.
  induction steps using List.reverseRecOn with
  | nil =>
      refine ⟨iff_of_true rfl not_isOpen_nil, fun target captured => iff_of_false nofun ?_⟩
      rintro ⟨before, within, split, -⟩
      cases before <;> contradiction
  | append_singleton steps step ih =>
      obtain ⟨idle, recording⟩ := ih
      rw [ledger_append_singleton, isOpen_append_singleton]
      simp only [holds_append_singleton, Ledger.enter]
      cases held : (ledger steps).held with
      | idle =>
          simp only [held, true_iff, reduceCtorEq, false_iff] at idle recording
          cases step <;> simp [idle, recording, Step.Closes]
      | recording target captured =>
          simp only [held, reduceCtorEq, false_iff, not_not, Recorder.recording.injEq] at idle recording
          cases step with
          | send frame => simp [idle, ← recording, Step.Closes, Step.frame?, eq_comm]
          | begin other => simp [held, idle, ← recording, Step.Closes, Step.frame?]
          | take | abort => simp [Step.Closes]

/-- What a step gives back. -/
inductive Reply where
  | done (result : Except Fault Unit)
  | taken (result : Except Fault (RecordingTarget × List Frame))

/-- The frames that a step gave back. -/
def Reply.frames : Reply → List Frame
  | taken (.ok (_, frames)) => frames
  | taken (.error _) | done _ => []

end Recorder

namespace Session

variable {σ : Type} [Transport σ]

/-- Takes a step. -/
def record (s : Session σ) : Recorder.Step → Recorder.Reply × Session σ
  | .begin target =>
    let (result, s) := s.run (Call.beginRecording target)
    (.done result, s)
  | .send frame =>
    let (result, s) := s.run (Call.command frame)
    (.done result, s)
  | .take =>
    let (result, s) := s.run Call.takeRecording
    (.taken result, s)
  | .abort =>
    let (result, s) := s.run Call.abortRecording
    (.done result, s)

/-- Takes one step after the other. -/
def recordAll (s : Session σ) (steps : List Recorder.Step) : List Recorder.Reply × Session σ :=
  steps.foldl (fun past step =>
    (past.1 ++ [(past.2.record step).1], (past.2.record step).2)) ([], s)

theorem recordAll_append_singleton (s : Session σ) (steps : List Recorder.Step)
    (step : Recorder.Step) : s.recordAll (steps ++ [step]) =
      ((s.recordAll steps).1 ++ [((s.recordAll steps).2.record step).1],
        ((s.recordAll steps).2.record step).2) :=
  List.foldl_append

/-! ## What a step does -/

section

variable {s : Session σ} {target : RecordingTarget} {captured : List Frame}

theorem record_begin_idle (idle : s.host.recorder = .idle) (target : RecordingTarget) :
    s.record (.begin target) =
      (.done (.ok ()), { s with host := { s.host with recorder := .recording target [] } }) := by
  unfold record Call.beginRecording
  simp only [run_bind, run_host, idle, Recorder.start, run_check, run_update]

theorem record_begin_recording (recording : s.host.recorder = .recording target captured)
    (other : RecordingTarget) : s.record (.begin other) =
      (.done (.error (.recorder ("already recording " ++ target.text))), s) := by
  unfold record Call.beginRecording
  simp only [run_bind, run_host, recording, Recorder.start, run_check]

theorem record_send_idle (idle : s.host.recorder = .idle) (frame : Frame) :
    s.record (.send frame) = (.done (s.transmit frame).1, (s.transmit frame).2) := by
  unfold record
  simp only [run_command_idle idle]

theorem record_send_recording (recording : s.host.recorder = .recording target captured)
    (frame : Frame) : s.record (.send frame) = (.done (.ok ()),
      { s with host := { s.host with recorder := .recording target (captured ++ [frame]) } }) := by
  unfold record
  simp only [run_command_recording recording]

theorem record_take_idle (idle : s.host.recorder = .idle) :
    s.record .take = (.taken (.error (.recorder "no recording in progress")), s) := by
  unfold record Call.takeRecording Call.abortRecording
  simp only [run_bind, run_host, idle, Recorder.take, run_check, run_update]
  rw [← idle]

theorem record_take_recording (recording : s.host.recorder = .recording target captured) :
    s.record .take = (.taken (.ok (target, captured)),
      { s with host := { s.host with recorder := .idle } }) := by
  unfold record Call.takeRecording Call.abortRecording
  simp only [run_bind, run_host, recording, Recorder.take, run_check, run_update]

theorem record_abort (s : Session σ) : s.record .abort =
    (.done (.ok ()), { s with host := { s.host with recorder := .idle } }) := rfl

/-- A step that gives no frame has nothing to do with the link. -/
theorem link_record {step : Recorder.Step} (silent : step.frame? = none) :
    (s.record step).2.link = s.link := by
  cases held : s.host.recorder with
  | idle =>
      cases step with
      | begin target => rw [record_begin_idle held]
      | send frame => contradiction
      | take => rw [record_take_idle held]
      | abort => rw [record_abort]
  | recording target captured =>
      cases step with
      | begin other => rw [record_begin_recording held]
      | send frame => contradiction
      | take => rw [record_take_recording held]
      | abort => rw [record_abort]

end

/-! ## What a run does -/

section

variable {s : Session (Tap σ)}

/-- A frame that is sent on an idle session is handed over once, and the session is idle again. -/
theorem Idle.transmit_tap (idle : s.Idle) (frame : Frame) :
    (s.transmit frame).1 = (Transport.send s.link.wire frame).1.map (fun _ => ()) ∧
      (s.transmit frame).2.Idle ∧
      (s.transmit frame).2.link.wire.handed = s.link.wire.handed ++ [frame] ∧
      (s.transmit frame).2.host.recorder = s.host.recorder := by
  obtain ⟨result, wire, stands⟩ := idle.link.transmit frame
  obtain ⟨idle', kept⟩ := stands_absorb stands idle.outcomes
  obtain ⟨subscriptions, host⟩ := listenersOnly_transmit s frame
  refine ⟨result, idle', ?_, by rw [host]⟩
  have handed : (Transport.send s.link.wire frame).2.handed = s.link.wire.handed ++ [frame] := rfl
  rw [← handed, ← wire, ← kept]
  rfl

/-- A run that began when `start` had been handed over agrees with an account. -/
structure Tallies (start : List Frame) (l : Recorder.Ledger)
    (run : List Recorder.Reply × Session (Tap σ)) : Prop where
  idle : run.2.Idle
  recorder : run.2.host.recorder = l.held
  handed : run.2.link.wire.handed = start ++ l.transmitted
  returned : run.1.flatMap Recorder.Reply.frames = l.returned

namespace Tallies

variable {start : List Frame} {l l' : Recorder.Ledger}
  {run : List Recorder.Reply × Session (Tap σ)}

omit [Transport σ] in
/-- A step that hands nothing over. -/
theorem quiet (h : Tallies start l run) {reply : Recorder.Reply} {s' : Session (Tap σ)}
    (link : s'.link = run.2.link) (outcomes : s'.outcomes = run.2.outcomes)
    (recorder : s'.host.recorder = l'.held) (transmitted : l'.transmitted = l.transmitted)
    (returned : l'.returned = l.returned ++ reply.frames) :
    Tallies start l' (run.1 ++ [reply], s') := by
  refine ⟨⟨?_, ?_⟩, recorder, ?_, ?_⟩
  · rw [link]
    exact h.idle.link
  · rw [outcomes]
    exact h.idle.outcomes
  · rw [transmitted, link]
    exact h.handed
  · rw [returned, List.flatMap_append, h.returned, List.flatMap_singleton]

/-- One step more. -/
theorem step (h : Tallies start l run) (step : Recorder.Step) : Tallies start (l.enter step)
    (run.1 ++ [(run.2.record step).1], (run.2.record step).2) := by
  obtain ⟨transmitted, returned, discarded, held⟩ := l
  have recorder : run.2.host.recorder = held := h.recorder
  cases held with
  | idle =>
      cases step with
      | begin target =>
          rw [record_begin_idle recorder]
          exact h.quiet rfl rfl rfl rfl (List.append_nil returned).symm
      | send frame =>
          -- The only step that hands a frame over.
          rw [record_send_idle recorder]
          obtain ⟨-, idle, handed, kept⟩ := h.idle.transmit_tap frame
          refine ⟨idle, kept.trans recorder, ?_, ?_⟩
          · show _ = start ++ (transmitted ++ [frame])
            rw [handed, h.handed, List.append_assoc]
          · show (run.1 ++ [_]).flatMap _ = returned
            rw [List.flatMap_append, h.returned]
            exact List.append_nil returned
      | take =>
          rw [record_take_idle recorder]
          exact h.quiet rfl rfl recorder rfl rfl
      | abort =>
          rw [record_abort]
          exact h.quiet rfl rfl rfl rfl (List.append_nil returned).symm
  | recording target captured =>
      cases step with
      | begin other =>
          rw [record_begin_recording recorder]
          exact h.quiet rfl rfl recorder rfl (List.append_nil returned).symm
      | send frame =>
          rw [record_send_recording recorder]
          exact h.quiet rfl rfl rfl rfl (List.append_nil returned).symm
      | take =>
          rw [record_take_recording recorder]
          exact h.quiet rfl rfl rfl rfl rfl
      | abort =>
          rw [record_abort]
          exact h.quiet rfl rfl rfl rfl (List.append_nil returned).symm

end Tallies

/-- Any number of steps. -/
theorem tallies_recordAll (idle : s.Idle) (closed : s.host.recorder = .idle)
    (steps : List Recorder.Step) :
    Tallies s.link.wire.handed (Recorder.ledger steps) (s.recordAll steps) := by
  induction steps using List.reverseRecOn with
  | nil => exact ⟨idle, closed, (List.append_nil _).symm, rfl⟩
  | append_singleton steps step ih =>
      rw [Recorder.ledger_append_singleton, recordAll_append_singleton]
      exact ih.step step

/-- What a session does with one step more, after the steps that it has taken. -/
structure Continues (steps : List Recorder.Step) (s : Session (Tap σ)) : Prop where
  isRecording : s.host.recorder.isRecording = true ↔ Recorder.IsOpen steps
  /-- An open recording holds what was given since it was begun. -/
  holds : Recorder.IsOpen steps → ∃ target captured, Recorder.Holds steps target captured
  /-- Without a recording a frame is handed over at once. -/
  sends : ¬ Recorder.IsOpen steps → ∀ frame,
    (s.record (.send frame)).1 = .done ((Transport.send s.link.wire frame).1.map fun _ => ()) ∧
      (s.record (.send frame)).2.link.wire.handed = s.link.wire.handed ++ [frame]
  /-- An open recording keeps it. -/
  keeps : Recorder.IsOpen steps → ∀ frame, (s.record (.send frame)).1 = .done (.ok ()) ∧
    (s.record (.send frame)).2.link = s.link
  /-- No other step hands anything over. -/
  quiet : ∀ step : Recorder.Step, step.frame? = none → (s.record step).2.link = s.link
  begins : ¬ Recorder.IsOpen steps → ∀ target, (s.record (.begin target)).1 = .done (.ok ())
  /-- A second recording is refused, and nothing changes. -/
  refuses : Recorder.IsOpen steps → ∀ target, ∃ fault,
    s.record (.begin target) = (.done (.error fault), s)
  takes : ∀ target captured, Recorder.Holds steps target captured →
    (s.record .take).1 = .taken (.ok (target, captured))
  /-- Without a recording there is nothing to take, and nothing changes. -/
  lacks : ¬ Recorder.IsOpen steps → ∃ fault, s.record .take = (.taken (.error fault), s)
  empty : ¬ Recorder.IsOpen steps → s.host.recorder.captured = []

namespace Tallies

variable {start : List Frame} {steps : List Recorder.Step}
  {run : List Recorder.Reply × Session (Tap σ)}

omit [Transport σ] in
theorem idle_iff (h : Tallies start (Recorder.ledger steps) run) :
    run.2.host.recorder = .idle ↔ ¬ Recorder.IsOpen steps := by
  rw [h.recorder]
  exact (Recorder.held_ledger steps).1

omit [Transport σ] in
theorem recording_iff (h : Tallies start (Recorder.ledger steps) run) {target : RecordingTarget}
    {captured : List Frame} : run.2.host.recorder = .recording target captured ↔
      Recorder.Holds steps target captured := by
  rw [h.recorder]
  exact (Recorder.held_ledger steps).2 target captured

omit [Transport σ] in
theorem exists_recording (h : Tallies start (Recorder.ledger steps) run)
    (opened : Recorder.IsOpen steps) :
    ∃ target captured, run.2.host.recorder = .recording target captured := by
  cases held : run.2.host.recorder with
  | idle => exact absurd opened (h.idle_iff.mp held)
  | recording target captured => exact ⟨target, captured, rfl⟩

/-- The session does with the next step what the steps before it say. -/
theorem continues (h : Tallies start (Recorder.ledger steps) run) : Continues steps run.2 := by
  constructor
  case isRecording =>
    rw [← not_iff_not, ← h.idle_iff]
    cases run.2.host.recorder <;> simp [Recorder.isRecording]
  case holds =>
    intro opened
    obtain ⟨target, captured, held⟩ := h.exists_recording opened
    exact ⟨target, captured, h.recording_iff.mp held⟩
  case sends =>
    intro closed frame
    obtain ⟨result, -, handed, -⟩ := h.idle.transmit_tap frame
    rw [record_send_idle (h.idle_iff.mpr closed)]
    exact ⟨congrArg _ result, handed⟩
  case keeps =>
    intro opened frame
    obtain ⟨target, captured, held⟩ := h.exists_recording opened
    rw [record_send_recording held]
    exact ⟨rfl, rfl⟩
  case quiet =>
    intro step silent
    exact link_record silent
  case begins =>
    intro closed target
    rw [record_begin_idle (h.idle_iff.mpr closed)]
  case refuses =>
    intro opened other
    obtain ⟨target, captured, held⟩ := h.exists_recording opened
    exact ⟨_, record_begin_recording held other⟩
  case takes =>
    intro target captured held
    rw [record_take_recording (h.recording_iff.mpr held)]
  case lacks =>
    intro closed
    exact ⟨_, record_take_idle (h.idle_iff.mpr closed)⟩
  case empty =>
    intro closed
    rw [h.idle_iff.mpr closed]
    rfl

end Tallies

/-- No frame is lost, handed over twice or leaked by recording. After any steps of begins, frames,
takes and aborts, begun on a session on which nothing waits and nothing is recorded, the session has
handed over what the account has as transmitted and given back what it has as returned; the account
has every frame that was given once; and the next step does what the steps before it say. -/
theorem recorded_once (idle : s.Idle) (closed : s.host.recorder = .idle)
    (steps : List Recorder.Step) :
    Tallies s.link.wire.handed (Recorder.ledger steps) (s.recordAll steps) ∧
      (Recorder.ledger steps).frames.Perm (Recorder.given steps) ∧
      Continues steps (s.recordAll steps).2 :=
  have tallies := tallies_recordAll idle closed steps
  ⟨tallies, Recorder.frames_ledger steps, tallies.continues⟩

end

/-! A frame is given before, during and after a recording, and a second recording is refused. -/

def scriptSteps : List Recorder.Step :=
  [.send [2, 3, 1], .begin (.script false), .send [2, 3, 2], .begin (.script true),
    .send [2, 3, 3], .take, .take, .send [2, 3, 4]]

def tappedSession : Session (Tap Board) := .new default ⟨.new 18, []⟩ 0 .virtual

theorem recorded_once_script : tappedSession.Idle ∧ tappedSession.host.recorder = .idle ∧
    Tallies [] (Recorder.ledger scriptSteps) (tappedSession.recordAll scriptSteps) ∧
    (Recorder.ledger scriptSteps).frames.Perm [[2, 3, 1], [2, 3, 2], [2, 3, 3], [2, 3, 4]] ∧
    Continues scriptSteps (tappedSession.recordAll scriptSteps).2 :=
  ⟨idle_new .., rfl, recorded_once (s := tappedSession) (idle_new ..) rfl scriptSteps⟩

/-- What was handed over and what was given back. -/
example : (tappedSession.recordAll scriptSteps).2.link.wire.handed = [[2, 3, 1], [2, 3, 4]] ∧
    (tappedSession.recordAll scriptSteps).1.flatMap Recorder.Reply.frames =
      [[2, 3, 2], [2, 3, 3]] := by decide +kernel

end Session

end SensorHost
