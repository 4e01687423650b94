import SensorHost.Proofs.Board.Events
import SensorHost.Proofs.Session.Batch
import SensorHost.Session.Recordings

/-!
# Event batches that fail

Events are created one after the other, each with two frames that go out together: the entry and the
parameters of its command. When an event of the batch fails, those before it are removed again, on
the board and from the host. `Session.failed_events_undone` says what the board was handed and what
is left on the host, for every way in which an event can fail: a refusal of either frame, no answer
in time, the end of the link, or an answer without an id.
-/

namespace SensorHost

/-! ## What a trace says of events -/

/-- What the answer to the frames of an event comes to: an id, or why there is none. -/
def Event.verdict (reply : Except Fault Frame) : Except Fault UInt8 :=
  reply.bind fun frame => frame[2]?.elim (.error (.protocol "event echo carries no id")) .ok

def Exchange.eventVerdict? : Exchange → Option (Except Fault UInt8)
  | .asked key _ _ reply =>
    if key = ⟨ModuleId.event, Register.Event.entry⟩ then some (Event.verdict reply) else none
  | _ => none

/-- What became of the events that a trace asks for, in order. -/
def eventVerdicts (t : List Exchange) : List (Except Fault UInt8) :=
  t.filterMap Exchange.eventVerdict?

/-- Hosts that know the same events. -/
def SameEvents (h h' : Host) : Prop := h'.events = h.events

theorem SameEvents.of_listenersOnly {h h' : Host} (kept : ListenersOnly h h') :
    SameEvents h h' := by
  obtain ⟨subscriptions, rfl⟩ := kept
  rfl

/-! ## What is handed over -/

namespace Tap

variable {σ : Type} [Transport σ]

/-- Of a question of two frames both are handed over, unless the first one is refused. -/
theorem handed_of_pair {key : ReplyKey} {timeout : Nat} {first second : Frame} {tap tap' : Tap σ}
    {reply : Except Fault Frame}
    (answers : Answers Stirs key timeout [first, second] tap tap' reply) :
    tap'.handed = tap.handed ++ [first, second] ∨
      ∃ fault wire, Transport.send tap.wire first = (.error fault, wire) ∧
        reply = .error fault ∧ tap'.handed = tap.handed ++ [first] := by
  rcases sent : Transport.send tap.wire first with ⟨_ | replies, wire⟩
  · rename_i fault
    have all : Transport.sendAll tap [first, second] =
        ([], .error fault, ⟨wire, tap.handed ++ [first]⟩) := by
      simp only [Transport.sendAll, Transport.send, sent]
    cases answers with
    | atOnce answered _ =>
        rw [all] at answered
        contradiction
    | refused _ refused drifts =>
        rw [all] at refused drifts
        obtain rfl := Except.error.inj refused
        exact .inr ⟨_, wire, rfl, rfl, handed_of_drifts drifts⟩
    | later _ taken _ =>
        rw [all] at taken
        contradiction
  · have taken : Transport.send tap first = (.ok replies, ⟨wire, tap.handed ++ [first]⟩) := by
      simp only [Transport.send, sent]
    have all : (Transport.sendAll tap [first, second]).2.2.handed =
        tap.handed ++ [first, second] := by
      have rest : (Transport.sendAll (⟨wire, tap.handed ++ [first]⟩ : Tap σ) [second]).2.2.handed =
          tap.handed ++ [first] ++ [second] := handed_sendAll (Nat.le_refl 1)
      rw [Transport.sendAll, taken]
      exact rest.trans (List.append_assoc ..)
    left
    rw [← all]
    cases answers with
    | atOnce _ drifts | refused _ _ drifts => exact handed_of_drifts drifts
    | later _ _ settles => exact handed_of_settles settles

/-- What is handed over of two frames, if the question fails for this reason: both, or the first
alone, when that was refused. -/
inductive Attempts (σ : Type) [Transport σ] (first second : Frame) (reason : Fault) :
    List Frame → Prop
  | both : Attempts σ first second reason [first, second]
  | refused {w w' : σ} : Transport.send w first = (.error reason, w') →
    Attempts σ first second reason [first]

variable {key : ReplyKey} {timeout : Nat} {first second : Frame} {tap tap' : Tap σ}
  {reply : Except Fault Frame}

theorem handed_of_created {id : UInt8}
    (answers : Answers Stirs key timeout [first, second] tap tap' reply)
    (created : Event.verdict reply = .ok id) : tap'.handed = tap.handed ++ [first, second] := by
  rcases handed_of_pair answers with both | ⟨fault, wire, -, rfl, -⟩
  · exact both
  · contradiction

theorem handed_of_not_created {reason : Fault}
    (answers : Answers Stirs key timeout [first, second] tap tap' reply)
    (fails : Event.verdict reply = .error reason) : ∃ attempted,
      Attempts σ first second reason attempted ∧ tap'.handed = tap.handed ++ attempted := by
  rcases handed_of_pair answers with both | ⟨fault, wire, sent, rfl, only⟩
  · exact ⟨_, .both, both⟩
  · obtain rfl : fault = reason := Except.error.inj fails
    exact ⟨_, .refused sent, only⟩

end Tap

/-! ## The events of a batch -/

namespace Call

variable {waits : Bool} {h h' : Host} {t : List Exchange}

/-- The frames of an event are asked about once, and the answer tells the id. -/
theorem runs_createEvent {Between : Host → Host → Prop} {frames : List Frame}
    {result : Except Fault UInt8} (run : Runs Between (createEvent frames) h t result h') :
    ∃ reply, t = [.asked ⟨ModuleId.event, Register.Event.entry⟩ h.settings.responseTimeout frames
        reply] ∧ Between h h' ∧ result = Event.verdict reply := by
  unfold createEvent at run
  rw [runs_bind_host, runs_bind_ask] at run
  obtain ⟨reply, h₁, t₂, rfl, between, run⟩ := run
  refine ⟨reply, ?_⟩
  rw [runs_bind_check] at run
  unfold Event.verdict
  rcases run with ⟨fault, rfl, rfl, rfl, rfl⟩ | ⟨frame, rfl, run⟩
  · exact ⟨rfl, between, rfl⟩
  · rw [orFail_eq_check] at run
    obtain ⟨rfl, rfl, rfl⟩ := runs_check.mp run
    exact ⟨rfl, between, rfl⟩

/-- The rollback hands over the removals, one after the other, creates nothing, and leaves the host
without the events. -/
theorem trace_rollbackEvents {events : List Event} {result : Except Fault Unit}
    (run : Runs SameEvents (rollbackEvents events : Call waits Unit) h t result h') :
    result = .ok () ∧ handedIn t = events.map (fun e => Event.removeFrame e.id) ∧
      eventVerdicts t = [] ∧ Single t ∧
      ∀ id, h'.events.get? id =
        if id ∈ events.map (·.id) then none else h.events.get? id := by
  induction events generalizing h t with
  | nil =>
      obtain ⟨rfl, ended, rfl⟩ := runs_pure.mp run
      exact ⟨ended, rfl, rfl, by nofun, fun id => rfl⟩
  | cons event rest ih =>
      unfold rollbackEvents at run
      rw [runs_bind_attempt] at run
      obtain ⟨_, t₁, h₁, t₂, rfl, sent, run⟩ := run
      obtain ⟨rfl, same⟩ := runs_transmit.mp sent
      unfold updateEvents at run
      rw [runs_bind_update] at run
      obtain ⟨ended, handed, silent, single, left⟩ := ih run
      refine ⟨ended, ?_, silent, List.forall_mem_cons.mpr ⟨Nat.le_refl 1, single⟩, ?_⟩
      · rw [handedIn_append, handed]
        rfl
      · intro id
        rw [left, SortedMap.get?_erase, show h₁.events = h.events from same]
        simp only [List.map_cons, List.mem_cons]
        by_cases own : id = event.id
        · simp [own]
        · simp [own]

variable {σ : Type} [Transport σ] {tap tap' : Tap σ} {trigger : Address}
  {copy : Option PayloadCopy}

/-- The rest of a batch, of which not all events are created. `created` were created before, and they
matter only where they are removed. -/
theorem failed_createEvents {total : Nat} {commands : List Frame} {created : List Event}
    {ids : List UInt8} {reason : Fault} {result : Except Fault (List Event)}
    (run : Runs SameEvents (createEvents total trigger copy
      (commands.map fun c => (c, Event.pair trigger copy c)) created) h t result h')
    (carries : Carries Tap.Stirs tap t tap')
    (fails : ids.map .ok ++ [.error reason] <+: eventVerdicts t) :
    ∃ command attempted, commands[ids.length]? = some command ∧
      Tap.Attempts σ (Event.entryFrame trigger copy command) (Event.parametersFrame command) reason
        attempted ∧
      tap'.handed = tap.handed ++ ((commands.take ids.length).flatMap (Event.pair trigger copy) ++
        attempted ++ (created.map (·.id) ++ ids).reverse.map Event.removeFrame) ∧
      result = .error (.inContext
        s!"creating event {(created.map (·.id) ++ ids).length + 1} of {total}" reason) ∧
      ∀ id, h'.events.get? id =
        if id ∈ created.map (·.id) ++ ids then none else h.events.get? id := by
  induction commands generalizing created ids h t tap with
  | nil =>
      obtain ⟨rfl, -, -⟩ := runs_pure.mp run
      exact absurd (List.prefix_nil.mp fails) (List.append_ne_nil_of_right_ne_nil _ nofun)
  | cons command rest ih =>
      rw [List.map_cons] at run
      unfold createEvents at run
      rw [runs_bind_attempt] at run
      obtain ⟨outcome, t₁, h₁, t₂, rfl, asked, run⟩ := run
      obtain ⟨reply, rfl, same, rfl⟩ := runs_createEvent asked
      obtain ⟨tap₁, first, others⟩ := carries_append.mp carries
      have answers := carries_asked.mp first
      have verdicts : eventVerdicts ([.asked ⟨ModuleId.event, Register.Event.entry⟩
          h.settings.responseTimeout (Event.pair trigger copy command) reply] ++ t₂) =
            Event.verdict reply :: eventVerdicts t₂ := rfl
      rw [verdicts] at fails
      cases ids with
      | nil =>
          -- This event fails, and everything created so far is removed.
          rw [List.map_nil, List.nil_append, List.cons_prefix_cons] at fails
          obtain ⟨refuted, -⟩ := fails
          rw [← refuted] at run
          rcases runs_bind.mp run with ⟨_, second, -⟩ | ⟨_, t₃, h₃, t₄, rfl, second, thrown⟩
          · cases (trace_rollbackEvents second).1
          obtain ⟨rfl, rfl, rfl⟩ := runs_throw.mp thrown
          obtain ⟨-, removed, -, single, left⟩ := trace_rollbackEvents second
          rw [List.append_nil] at others
          have handed := Tap.handed_of_carries others single
          obtain ⟨attempted, attempts, before⟩ := Tap.handed_of_not_created answers refuted.symm
          rw [List.append_nil, List.length_map]
          refine ⟨command, attempted, rfl, attempts, ?_, rfl, ?_⟩
          · rw [handed, before, removed, List.map_reverse, List.map_reverse, List.map_map,
              List.append_assoc]
            rfl
          · intro id
            rw [left, List.map_reverse, show h₁.events = h.events from same]
            simp only [List.mem_reverse]
      | cons id ids =>
          -- This event is created, and a later one fails.
          rw [List.map_cons, List.cons_append, List.cons_prefix_cons] at fails
          obtain ⟨acknowledged, fails⟩ := fails
          rw [← acknowledged] at run
          unfold updateEvents at run
          rw [runs_bind_update] at run
          obtain ⟨failing, attempted, next, attempts, handed, ended, left⟩ := ih run others fails
          have taken : tap₁.handed = tap.handed ++ Event.pair trigger copy command :=
            Tap.handed_of_created answers acknowledged.symm
          have made : (created ++ [(⟨id, trigger, command, copy⟩ : Event)]).map Event.id ++ ids =
              created.map Event.id ++ id :: ids := by
            rw [List.map_append, List.append_assoc]
            rfl
          rw [made] at handed ended left
          refine ⟨failing, attempted, next, attempts, ?_, ended, ?_⟩
          · rw [handed, taken, List.length_cons, List.take_succ_cons, List.flatMap_cons]
            simp only [List.append_assoc]
          · intro id'
            rw [left, SortedMap.get?_insert, show h₁.events = h.events from same]
            by_cases own : id' = id
            · simp [own]
            · rw [if_neg own]

/-- A batch of which not all events are created. -/
theorem failed_createEventsFor {commands : List Frame} (long : ∀ c ∈ commands, 2 ≤ c.length)
    {ids : List UInt8} {reason : Fault} {result : Except Fault (List Event)}
    (run : Runs SameEvents (createEventsFor trigger copy commands) h t result h')
    (carries : Carries Tap.Stirs tap t tap')
    (fails : ids.map .ok ++ [.error reason] <+: eventVerdicts t) :
    let copy := if h.settings.copiesPayload then copy else none
    ∃ command attempted, commands[ids.length]? = some command ∧
      Tap.Attempts σ (Event.entryFrame trigger copy command) (Event.parametersFrame command) reason
        attempted ∧
      tap'.handed = tap.handed ++ ((commands.take ids.length).flatMap (Event.pair trigger copy) ++
        attempted ++ ids.reverse.map Event.removeFrame) ∧
      result = .error (.inContext s!"creating event {ids.length + 1} of {commands.length}" reason) ∧
      ∀ id, h'.events.get? id = if id ∈ ids then none else h.events.get? id := by
  unfold createEventsFor at run
  rw [runs_bind_host, runs_bind_check, Event.mapM_frames_of_long long] at run
  rcases run with ⟨_, refused, -⟩ | ⟨batch, passed, run⟩
  · contradiction
  obtain rfl := Except.ok.inj passed
  rw [Event.zip_pairs] at run
  exact failed_createEvents run carries fails

end Call

namespace Session

variable {σ : Type} [Transport σ]

/-- If an event of a batch fails, whatever the reason, then the error says which one and why, and the
host has the events of before. What was handed to the board are the frames of the events that were
created, those of the one that failed, and the removals of the others, newest first. -/
theorem failed_events_undone {trigger : Address} {copy : Option PayloadCopy} {commands : List Frame}
    (long : ∀ c ∈ commands, 2 ≤ c.length) {s s' : Session (Tap σ)} {owner : Nat}
    {t : List Exchange} {result : Except Fault (List Event)} (idle : s.Idle)
    (solo : Solo Tap.Stirs owner (Call.createEventsFor trigger copy commands).run s t result s')
    {ids : List UInt8} {reason : Fault}
    (fails : ids.map .ok ++ [.error reason] <+: eventVerdicts t)
    (fresh : ∀ id ∈ ids, s.host.events.get? id = none) :
    let copy := if s.host.settings.copiesPayload then copy else none
    ∃ command attempted, commands[ids.length]? = some command ∧
      Tap.Attempts σ (Event.entryFrame trigger copy command) (Event.parametersFrame command) reason
        attempted ∧
      s'.link.wire.handed = s.link.wire.handed ++
        ((commands.take ids.length).flatMap (Event.pair trigger copy) ++
          attempted ++ ids.reverse.map Event.removeFrame) ∧
      s'.host.events = s.host.events ∧
      result =
        .error (.inContext s!"creating event {ids.length + 1} of {commands.length}" reason) := by
  obtain ⟨run, carries, -⟩ := carried_of_solo solo idle
  have run : Call.Runs SameEvents (Call.createEventsFor trigger copy commands) s.host t result
      s'.host := run.mono fun _ _ => SameEvents.of_listenersOnly
  obtain ⟨command, attempted, next, attempts, handed, ended, left⟩ :=
    Call.failed_createEventsFor long run carries fails
  refine ⟨command, attempted, next, attempts, handed, ?_, ended⟩
  refine SortedMap.ext_get? fun id => ?_
  rw [left]
  split
  · rename_i mem
    exact (fresh id mem).symm
  · rfl

/-! A board that creates the first of two events and loses the answer about the second. -/

def ledCommands : List Frame := [[2, 3, 1], [2, 3, 0]]

def lossyEvents : Session (Tap Board) := .new default ⟨(Board.new 18).loseEvent 2, []⟩ 0 .virtual

theorem lossyEvents_run : ∃ t result s', Solo Tap.Stirs 0
    (Call.createEventsFor ⟨1, 1, 255⟩ none ledCommands).run lossyEvents t result s' ∧
      eventVerdicts t = [.ok 0, .error (.timeout "0a:02" 1000)] := by
  have run : Solo Tap.Stirs 0 (Call.createEventsFor ⟨1, 1, 255⟩ none ledCommands).run lossyEvents
      _ _ _ :=
    .look (.look (.ask .refl rfl (.update (.look (.ask (.single (.expires ⟨10, 2⟩ 1)) rfl
      (.transmit (.update .done)))))))
  exact ⟨_, _, _, run, rfl⟩

theorem failed_events_undone_lossy : ∃ t result s', Solo Tap.Stirs 0
    (Call.createEventsFor ⟨1, 1, 255⟩ none ledCommands).run lossyEvents t result s' ∧
      s'.host.events = .empty ∧
      result = .error (.inContext "creating event 2 of 2" (.timeout "0a:02" 1000)) := by
  obtain ⟨t, result, s', run, verdicts⟩ := lossyEvents_run
  have long : ∀ c ∈ ledCommands, 2 ≤ c.length := by decide
  have fails : [(0 : UInt8)].map Except.ok ++ [.error (.timeout "0a:02" 1000)] <+:
      eventVerdicts t := by
    rw [verdicts]
    exact List.prefix_refl _
  have fresh : ∀ id ∈ [(0 : UInt8)], lossyEvents.host.events.get? id = none := fun _ _ => rfl
  obtain ⟨-, -, -, -, -, kept, ended⟩ :=
    failed_events_undone long (idle_new ..) run fails fresh
  exact ⟨t, result, s', run, kept, ended⟩

end Session

end SensorHost
