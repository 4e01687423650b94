import SensorHost.Proofs.Board.Scripts
import SensorHost.Session.Basic

/-!
# Scripts that are written one after the other

A script is opened, written and closed. If every frame of it was taken, the board stores the commands
that were written, except for a head that a script before it left behind: writing failed between the
two frames of a long command, and neither the finish that followed nor the start of the next script
took the head back (`Session.committed_script`).
-/

namespace SensorHost

theorem Recorder.eq_recording_of_take {recorder : Recorder} {target : RecordingTarget}
    {commands : List Frame} (taken : recorder.take = .ok (target, commands)) :
    recorder = .recording target commands := by
  cases recorder with
  | idle => contradiction
  | recording =>
      obtain ⟨rfl, rfl⟩ := Prod.mk.inj (Except.ok.inj taken)
      rfl

namespace Call

theorem runs_transmitAll_ok {waits : Bool} {Between : Host → Host → Prop} {frames : List Frame}
    {h h' : Host} {t : List Exchange}
    (run : Runs Between (transmitAll frames : Call waits Unit) h t (.ok ()) h') :
    t = frames.map fun frame => .sent frame (.ok ()) := by
  induction frames generalizing h t with
  | nil => exact (runs_pure.mp run).1
  | cons frame rest ih =>
      unfold transmitAll at run
      rcases runs_bind.mp run with ⟨_, -, failed⟩ | ⟨_, t₁, h₁, t₂, rfl, sent, run⟩
      · contradiction
      · rw [(runs_transmit.mp sent).1, ih run]
        rfl

/-- What is left of the creation of a script once it was started and has settled. -/
def fillScript (id : UInt8) (autoRun : Bool) (commands : List Frame) : Call true Script := do
  match ← attempt (writeCommands commands) with
  | .ok () =>
    transmit Script.finishFrame
    let script : Script := ⟨id, autoRun, commands⟩
    update fun h => { h with scripts := h.scripts.insert id script }
    return script
  | .error fault =>
    let _ ← attempt (transmit Script.finishFrame)
    throw (.inContext s!"writing macro {id}" fault)

theorem createScript_eq (autoRun : Bool) (commands : List Frame) :
    createScript autoRun commands = (do
      let settings := (← host).settings
      let reply ← ask ⟨ModuleId.script, Register.Script.start⟩ settings.responseTimeout
        [Script.startFrame autoRun]
      let id ← orFail (.protocol "macro begin echo carries no id") reply[2]?
      if settings.settleDelay ≠ 0 then
        pause settings.settleDelay
        fillScript id autoRun commands
      else fillScript id autoRun commands) :=
  rfl

end Call

namespace Session

variable {s s' : Session Board} {owner : Nat} {t : List Exchange}

/-! ## One script -/

/-- The commands are written in the frames that they need, all of which were taken. -/
theorem adds_of_writeCommands {commands : List Frame} (idle : s.Idle)
    (solo : Solo Board.Injects owner (Call.writeCommands commands : Call true Unit).run s t (.ok ())
      s') :
    s'.Idle ∧ s.link.wire.Adds (Script.completed
      (min s.link.wire.frameLimit s.host.settings.frameLimit) s.link.wire.head commands)
      s'.link.wire := by
  unfold Call.writeCommands at solo
  obtain ⟨limit, t₁, s₁, t₂, rfl, measured, solo⟩ := solo_bind_ok solo
  cases measured with
  | measure measured =>
    cases measured with
    | look measured =>
      cases measured
      obtain ⟨run, carries, idle'⟩ := carried_of_solo solo idle
      rw [Call.runs_transmitAll_ok run] at carries
      exact ⟨idle', (Board.adds_of_carries carries).1⟩

/-- A start that is answered opened a script under the id in the answer. -/
theorem started_of_solo {autoRun : Bool} {timeout : Nat} {reply : Frame} (idle : s.Idle)
    (solo : Solo Board.Injects owner (Call.ask ⟨ModuleId.script, Register.Script.start⟩ timeout
      [Script.startFrame autoRun]).run s t (.ok reply) s') :
    s'.Idle ∧ ListenersOnly s.host s'.host ∧
      reply = [ModuleId.script, Register.Script.start, s.link.wire.nextScript] ∧
      s'.link.wire.scripts = s.link.wire.scripts.insert s.link.wire.nextScript [] ∧
      s'.link.wire.openScript = some s.link.wire.nextScript ∧
      s'.link.wire.head = s.link.wire.head ∧ s'.link.wire.frameLimit = s.link.wire.frameLimit := by
  obtain ⟨run, carries, idle'⟩ := carried_of_solo solo idle
  obtain ⟨rfl, listeners⟩ := Call.runs_ask.mp run
  cases carries with
  | asked answers carries =>
      cases carries
      obtain ⟨result, b₁, received, drifts, answered⟩ := Board.answered_at_once answers
      obtain ⟨replies, rfl, first⟩ := answered reply rfl
      obtain ⟨answer, scripts, isOpen, head, -, limit⟩ := Board.receive_start received
      have kept := Board.sameScripts_of_drifts drifts
      exact ⟨idle', listeners, answer reply first, kept.scripts.trans scripts,
        kept.openScript.trans isOpen, kept.head.trans head, kept.frameLimit.trans limit⟩

/-- A script that was written is stored with its commands behind a head that waited. -/
theorem filled_of_solo {id : UInt8} {autoRun : Bool} {commands : List Frame} {m : Script}
    (idle : s.Idle)
    (solo : Solo Board.Injects owner (Call.fillScript id autoRun commands).run s t (.ok m) s') :
    m = ⟨id, autoRun, commands⟩ ∧ ∀ stored, s.link.wire.openScript = some id →
      s.link.wire.scripts.get? id = some stored → s'.link.wire.scripts.get? id =
        some (stored ++ Script.completed (min s.link.wire.frameLimit s.host.settings.frameLimit)
          s.link.wire.head commands) := by
  unfold Call.fillScript at solo
  obtain ⟨outcome, t₁, s₁, t₂, rfl, attempted, solo⟩ := solo_bind_ok solo
  obtain ⟨inner, t₃, s₂, t₄, rfl, written, last⟩ :=
    solo_bind (f := fun r => .done (Except.ok r)) attempted
  cases last
  cases outcome with
  | error fault =>
      -- The call throws once the script was closed.
      obtain ⟨_, _, _, _, -, -, thrown⟩ := solo_bind_ok solo
      cases thrown
  | ok done =>
      obtain ⟨idle₁, adds⟩ := adds_of_writeCommands idle written
      obtain ⟨_, t₅, s₂, t₆, rfl, finished, solo⟩ := solo_bind_ok solo
      obtain ⟨run, carries, -⟩ := carried_of_solo finished idle₁
      rw [(Call.runs_transmit.mp run).1] at carries
      obtain ⟨replies, b₂, received, carries⟩ := Board.taken_of_carries carries
      cases carries
      obtain ⟨scripts, -⟩ := Board.receive_finish received
      cases solo with
      | update solo =>
      cases solo
      refine ⟨rfl, fun stored isOpen known => ?_⟩
      show SortedMap.get? s₂.link.wire.scripts id = _
      rw [scripts, adds.scripts, if_pos isOpen, known]
      rfl

/-- A script that was created is stored under its id, with its commands behind a head that waited. -/
theorem script_of_solo {autoRun : Bool} {commands : List Frame} {m : Script} (idle : s.Idle)
    (solo : Solo Board.Injects owner (Call.createScript autoRun commands).run s t (.ok m) s') :
    m = ⟨s.link.wire.nextScript, autoRun, commands⟩ ∧
      s'.link.wire.scripts.get? m.id = some (Script.completed
        (min s.link.wire.frameLimit s.host.settings.frameLimit) s.link.wire.head commands) := by
  rw [Call.createScript_eq] at solo
  cases solo with
  | look solo =>
  obtain ⟨reply, t₁, s₁, t₂, rfl, asked, solo⟩ := solo_bind_ok solo
  obtain ⟨idle₁, listeners, rfl, scripts, isOpen, head, limit⟩ := started_of_solo idle asked
  obtain ⟨id, t₃, s₂, t₄, rfl, answered, solo⟩ := solo_bind_ok solo
  cases answered
  -- Whatever happens while the script settles, nothing is written.
  obtain ⟨s₂, t₅, idle₂, listeners', kept, written⟩ : ∃ (s₂ : Session Board) (t₅ : List Exchange),
      s₂.Idle ∧ ListenersOnly s₁.host s₂.host ∧ s₁.link.wire.SameScripts s₂.link.wire ∧
      Solo Board.Injects owner
        (Call.fillScript s.link.wire.nextScript autoRun commands).run s₂ t₅ (.ok m) s' := by
    split at solo
    · cases solo with
      | pause meanwhile solo =>
        obtain ⟨listeners', ⟨drifts, idle₂⟩ | ⟨_, _, _, held, _⟩⟩ :=
          awaits_meanwhile meanwhile idle₁
        · exact ⟨_, _, idle₂, listeners', Board.sameScripts_of_drifts drifts, solo⟩
        · contradiction
    · exact ⟨_, _, idle₁, .refl _, .refl _, solo⟩
  obtain ⟨rfl, stores⟩ := filled_of_solo idle₂ written
  refine ⟨rfl, ?_⟩
  obtain ⟨_, same⟩ := listeners.trans listeners'
  have stored := stores [] (kept.openScript.trans isOpen)
    (by rw [kept.scripts, scripts, SortedMap.get?_insert, if_pos rfl])
  rw [kept.frameLimit, limit, kept.head, head, same, List.nil_append] at stored
  exact stored

/-! ## One script after the other -/

/-- Sessions on boards that were new at first, on which calls were made one after the other. In
between, and while a call waits, faults may be injected. -/
inductive OneByOne : Session Board → Prop
  | new (settings : Settings) (frameLimit now : Nat) (runtime : Runtime) :
    OneByOne (.new settings (.new frameLimit) now runtime)
  | meanwhile {s s' : Session Board} : OneByOne s → Meanwhile Board.Injects s s' → OneByOne s'
  | call {s s' : Session Board} {α : Type} {owner : Nat} {d : Dialogue true α} {a : α} :
    OneByOne s → Concludes Board.Injects owner (advance owner d s) a s' → OneByOne s'

/-- Between calls the session is idle, and the frames that the board took tell which head waits. -/
theorem OneByOne.idle_told (calls : OneByOne s) :
    s.Idle ∧ s.link.wire.head = staleHead s.link.wire.sent := by
  induction calls with
  | new settings frameLimit now runtime => exact ⟨idle_new .., rfl⟩
  | meanwhile _ step ih =>
      obtain ⟨idle, told⟩ := ih
      obtain ⟨-, ⟨drifts, idle'⟩ | ⟨_, _, _, held, _⟩⟩ := step.awaits idle
      · have kept := Board.sameScripts_of_drifts drifts
        rw [kept.head, kept.sent]
        exact ⟨idle', told⟩
      · contradiction
  | call _ concludes ih =>
      obtain ⟨idle, told⟩ := ih
      obtain ⟨t, solo⟩ := solo_of_concludes concludes
      obtain ⟨-, carries, idle'⟩ := carried_of_solo solo idle
      exact ⟨idle', (Board.head_of_carries carries told).1⟩

/-- A recording that is committed is taken from the host, which changes nothing else. -/
theorem solo_takeRecording {taken : RecordingTarget × List Frame}
    (solo : Solo Board.Injects owner (Call.takeRecording : Call true _).run s t (.ok taken) s') :
    s.host.recorder.take = .ok taken ∧ s' = { s with host := { s.host with recorder := .idle } } := by
  cases solo with
  | look solo =>
  cases solo with
  | update solo =>
  generalize s.host.recorder.take = result at solo
  cases solo
  exact ⟨rfl, rfl⟩

/-- Whatever calls were made before, one after the other, and whatever faults were injected: a script
that was committed is stored with the commands that were recorded, but for a head that an earlier
script left behind, which goes in front of the first command unless this one is split. -/
theorem committed_script (calls : OneByOne s) {m : Script}
    (concludes : Concludes Board.Injects owner (advance owner Call.commitScript.run s) (.ok m) s') :
    let limit := min s.link.wire.frameLimit s.host.settings.frameLimit
    let stale := staleHead s.link.wire.sent
    s.host.recorder = .recording (.script m.autoRun) m.commands ∧
      s'.link.wire.scripts.get? m.id = some (Script.completed limit stale m.commands) ∧
      (s'.link.wire.scripts.get? m.id = some m.commands ↔
        ∀ head ∈ stale, head ≠ [] → ∀ first ∈ m.commands.head?, Script.IsSplit limit first) := by
  obtain ⟨idle, told⟩ := calls.idle_told
  obtain ⟨t, solo⟩ := solo_of_concludes concludes
  obtain ⟨⟨target, commands⟩, t₁, s₁, t₂, rfl, recorded, solo⟩ := solo_bind_ok solo
  obtain ⟨taken, rfl⟩ := solo_takeRecording recorded
  cases target with
  | event trigger copy => cases solo
  | script autoRun =>
      have idle' : ({ s with host := { s.host with recorder := .idle } } : Session Board).Idle :=
        ⟨idle.link, idle.outcomes⟩
      obtain ⟨rfl, stored⟩ := script_of_solo idle' solo
      rw [← told]
      refine ⟨Recorder.eq_recording_of_take taken, stored, ?_⟩
      rw [stored, Option.some_inj]
      exact Script.completed_eq_iff

/-- A piece of a call that has a result is all of the call. -/
theorem concludes_of_result? {α : Type} {d : Dialogue true α} {a : α}
    (result : (advance owner d s).1.result? = some a) :
    Concludes Board.Injects owner (advance owner d s) a (advance owner d s).2 := by
  generalize advance owner d s = piece at result
  obtain ⟨progress, s'⟩ := piece
  obtain rfl : progress = .finished a := Progress.result?_eq_some_iff.mp result
  exact .finished

/-! A long command whose rest is refused, and what the next script makes of its head. -/

/-- Records one command of a script. -/
def recordOne (command : Frame) : Call true Unit := do
  Call.beginRecording (.script false)
  Call.command command

def longCommand : Frame := [11, 3, 0, 1, 2, 3, 4, 5, 6, 7, 8, 9, 10, 11, 12, 13, 14, 15]

/-- The long command was recorded, and the board refuses the frames that add commands. -/
def refusingSession : Session Board :=
  let s : Session Board := .new default (.new 18) 0 .virtual
  (advance 0 (recordOne longCommand).run
    (s.withWire (s.link.wire.reject ⟨ModuleId.script, Register.Script.addCommand⟩))).2

/-- The script of the long command was not written, and the board takes everything again. -/
def interruptedSession : Session Board :=
  let s := (advance 0 Call.commitScript.run refusingSession).2
  s.withWire (s.link.wire.reject ⟨0, 0⟩)

def resumedSession (command : Frame) : Session Board :=
  (advance 0 (recordOne command).run interruptedSession).2

theorem oneByOne_resumedSession {command : Frame} (recorded :
    (advance 0 (recordOne command).run interruptedSession).1.result?.isSome = true) :
    OneByOne (resumedSession command) := by
  have refused : OneByOne ((new default (.new 18) 0 .virtual : Session Board).withWire
      ((Board.new 18).reject ⟨ModuleId.script, Register.Script.addCommand⟩)) :=
    .meanwhile (.new default 18 0 .virtual) (.stirs (.reject ..))
  have refusing : OneByOne refusingSession :=
    .call refused (concludes_of_finished (rfl : advance 0 (recordOne longCommand).run _ = _))
  have failed : (advance 0 Call.commitScript.run refusingSession).1.result?.isSome = true := by
    decide +kernel
  obtain ⟨fault, failed⟩ := Option.isSome_iff_exists.mp failed
  have interrupted : OneByOne interruptedSession :=
    .meanwhile (.call refusing (concludes_of_result? failed)) (.stirs (.reject ..))
  obtain ⟨_, recorded⟩ := Option.isSome_iff_exists.mp recorded
  exact .call interrupted (concludes_of_result? recorded)

/-- The script that a recording was committed to without waiting, if it was. -/
def committed? (s : Session Board) : Option Script :=
  (advance 0 Call.commitScript.run s).1.result?.bind Except.toOption

theorem concludes_of_committed? {m : Script} (committed : committed? s = some m) :
    Concludes Board.Injects 0 (advance 0 Call.commitScript.run s) (.ok m)
      (advance 0 Call.commitScript.run s).2 := by
  obtain ⟨result, finished, ok⟩ := Option.bind_eq_some_iff.mp committed
  cases result with
  | error fault => contradiction
  | ok m' =>
      obtain rfl := Option.some.inj ok
      exact concludes_of_result? finished

theorem head_left_behind : ∃ s' m, OneByOne (resumedSession [2, 3, 1]) ∧
    Concludes Board.Injects 0 (advance 0 Call.commitScript.run (resumedSession [2, 3, 1])) (.ok m)
      s' ∧
    m.commands = [[2, 3, 1]] ∧ s'.link.wire.scripts.get? m.id = some [[11, 3, 2, 3, 1]] := by
  have written : committed? (resumedSession [2, 3, 1]) = some ⟨1, false, [[2, 3, 1]]⟩ := by
    decide +kernel
  exact ⟨_, _, oneByOne_resumedSession (by decide +kernel), concludes_of_committed? written, rfl,
    by decide +kernel⟩

/-- A long command brings its own head. -/
theorem committed_script_long : ∃ s' m, OneByOne (resumedSession longCommand) ∧
    staleHead (resumedSession longCommand).link.wire.sent = some [11, 3] ∧
    Concludes Board.Injects 0 (advance 0 Call.commitScript.run (resumedSession longCommand)) (.ok m)
      s' ∧
    s'.link.wire.scripts.get? m.id = some m.commands := by
  have written : committed? (resumedSession longCommand) = some ⟨1, false, [longCommand]⟩ := by
    decide +kernel
  have calls : OneByOne (resumedSession longCommand) :=
    oneByOne_resumedSession (by decide +kernel)
  have concludes := concludes_of_committed? written
  have stores := (committed_script calls concludes).2.2
  refine ⟨_, _, calls, by decide +kernel, concludes, stores.mpr ?_⟩
  rintro _ - - _ ⟨rfl⟩
  decide +kernel

end Session

end SensorHost
