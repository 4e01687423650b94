import SensorHost.Proofs.Board.Events
import SensorHost.Proofs.Exchange.AtOnce
import SensorHost.Proofs.Session.Prompt
import SensorHost.Proofs.Session.Routing

/-!
# Events that are committed

On a board without injected faults a recording for events is committed without waiting, whatever
else waits on the session. `Session.committed_events` says which frames the board took, which events
the host knows afterwards, and what the board can read back of each of them.
-/

namespace SensorHost.Session

/-! ## Questions that are answered at once -/

section

variable {σ : Type} [Transport σ] {s : Session σ} {key : ReplyKey} {owner : Nat}

/-- Nothing on the link is untold, nobody waits on the key, and the owner has no outcome to take. -/
structure Clear (s : Session σ) (key : ReplyKey) (owner : Nat) : Prop where
  told : s.link.journal = []
  free : (s.link.queue key).requests = []
  untaken : s.outcomes.lookup owner = none

omit [Transport σ] in
/-- An outcome that is given to an owner without one is the one that it takes. -/
theorem takeOutcome?_given (untaken : s.outcomes.lookup owner = none)
    (result : Except Fault Frame) :
    ({ s with outcomes := s.outcomes ++ [(owner, result)] } : Session σ).takeOutcome? owner =
      some (result, s) := by
  have others : ∀ outcome ∈ s.outcomes, ¬ decide (outcome.1 = owner) = true := by
    intro outcome mem own
    have ne := List.lookup_eq_none_iff.mp untaken outcome mem
    simp only [decide_eq_true_eq] at own
    simp [own] at ne
  have found : (s.outcomes ++ [(owner, result)]).lookup owner = some result := by
    rw [List.lookup_append, untaken]
    simp
  have left : (s.outcomes ++ [(owner, result)]).eraseP (·.1 = owner) = s.outcomes := by
    rw [List.eraseP_append_right _ others]
    simp
  simp only [takeOutcome?, found, left]

/-- A question on a clear key to which nothing comes back but the answer. -/
theorem Clear.ask (h : s.Clear key owner) (timeout : Nat) {frames : List Frame} {answer : Frame}
    {wire : σ} (sent : Transport.sendAll s.link.wire frames = ([answer], .ok (), wire))
    (on : ReplyKey.ofFrame? answer = some key) :
    ∃ link, Prompt owner (Call.ask key timeout frames) s (.ok answer) { s with link } ∧
      link.wire = wire ∧ ({ s with link } : Session σ).Clear key owner := by
  obtain ⟨wired, served⟩ := Link.request_at_once timeout owner sent on h.free
  let link : Link σ := { s.link.request key timeout owner frames with journal := [] }
  have requested : s.request key timeout owner frames =
      { s with link, outcomes := s.outcomes ++ [(owner, .ok answer)] } :=
    absorb_served served h.told
  have taken : (s.request key timeout owner frames).takeOutcome? owner =
      some (.ok answer, { s with link }) := by
    rw [requested]
    exact takeOutcome?_given (s := { s with link }) h.untaken _
  exact ⟨link, advance_ask taken, wired, rfl, congrArg Queue.requests served.queue, h.untaken⟩

end

/-! ## Events -/

variable {s : Session Board} {owner : Nat} {trigger : Address} {copy : Option PayloadCopy}

/-- The key on which the creation of an event is answered. -/
def eventKey : ReplyKey := ⟨ModuleId.event, Register.Event.entry⟩

variable (trigger copy) in
/-- An event is created under the next id of the board. -/
theorem prompt_createEvent (clear : s.Clear eventKey owner) (faultless : s.link.wire.Faultless)
    (command : Frame) : ∃ link,
      Prompt owner (Call.createEvent (Event.pair trigger copy command)) s
        (.ok s.link.wire.nextEvent) { s with link } ∧
      link.wire = s.link.wire.withEvent trigger copy command ∧
      ({ s with link } : Session Board).Clear eventKey owner := by
  obtain ⟨link, asked, wired, clear⟩ :=
    clear.ask s.host.settings.responseTimeout (faultless.sendAll_pair command) rfl
  exact ⟨link, .bind .host (.bind asked (.pure _)), wired, clear⟩

/-- The session after events were created on it, with its link. -/
def withEvents (s : Session Board) (events : List Event) (link : Link Board) : Session Board :=
  { s with
    host := { s.host with events := s.host.events.insertAll (events.map fun e => (e.id, e)) }
    link }

variable (trigger copy) in
/-- The rest of a batch is created under the ids that come next. -/
theorem prompt_createEvents (clear : s.Clear eventKey owner) (faultless : s.link.wire.Faultless)
    (total : Nat) (commands : List Frame) (created : List Event) : ∃ link,
      Prompt owner (Call.createEvents total trigger copy
          (commands.map fun c => (c, Event.pair trigger copy c)) created) s
        (.ok (created ++ Event.numbered trigger copy s.link.wire.nextEvent commands))
        (s.withEvents (Event.numbered trigger copy s.link.wire.nextEvent commands) link) ∧
      link.wire = s.link.wire.withEvents trigger copy commands ∧
      (s.withEvents (Event.numbered trigger copy s.link.wire.nextEvent commands) link).Clear
        eventKey owner := by
  induction commands generalizing s created with
  | nil =>
      rw [Event.numbered, List.append_nil]
      exact ⟨s.link, .pure created, rfl, clear⟩
  | cons command rest ih =>
      obtain ⟨link₁, made, wired, clear₁⟩ :=
        prompt_createEvent trigger copy clear faultless command
      let event : Event := ⟨s.link.wire.nextEvent, trigger, command, copy⟩
      let s₁ : Session Board := s.withEvents [event] link₁
      have faultless₁ : s₁.link.wire.Faultless := by
        show link₁.wire.Faultless
        rw [wired]
        exact faultless.withEvent command
      have next : s₁.link.wire.nextEvent = s.link.wire.nextEvent + 1 :=
        congrArg Board.nextEvent wired
      obtain ⟨link, others, wired', clear'⟩ :=
        ih (s := s₁) ⟨clear₁.told, clear₁.free, clear₁.untaken⟩ faultless₁ (created ++ [event])
      rw [next] at others clear'
      rw [List.append_assoc] at others
      refine ⟨link, ?_, ?_, clear'⟩
      · exact .bind made.attempt (.bind (.update _) others)
      · rw [wired']
        show link₁.wire.withEvents trigger copy rest = _
        rw [wired]
        rfl

variable (trigger) in
/-- Commands that have a module and a register become one event each. -/
theorem prompt_createEventsFor (clear : s.Clear eventKey owner) (faultless : s.link.wire.Faultless)
    {commands : List Frame} (long : ∀ c ∈ commands, 2 ≤ c.length) : ∃ link,
      Prompt owner (Call.createEventsFor trigger none commands) s
        (.ok (Event.numbered trigger none s.link.wire.nextEvent commands))
        (s.withEvents (Event.numbered trigger none s.link.wire.nextEvent commands) link) ∧
      link.wire = s.link.wire.withEvents trigger none commands ∧
      (link.queue eventKey).requests = [] := by
  obtain ⟨link, made, wired, clear'⟩ := prompt_createEvents trigger none clear faultless
    commands.length commands []
  refine ⟨link, ?_, wired, clear'.free⟩
  unfold Call.createEventsFor
  refine .bind .host ?_
  simp only [ite_self]
  rw [Event.mapM_frames_of_long long]
  refine .bind (.check _) ?_
  rw [Event.zip_pairs]
  exact made

/-! ## Recordings -/

theorem prompt_takeRecording {taken : RecordingTarget × List Frame}
    (recorded : s.host.recorder.take = .ok taken) :
    Prompt owner Call.takeRecording s (.ok taken)
      { s with host := { s.host with recorder := .idle } } := by
  rw [← recorded]
  exact .bind .host (.bind (.update _) (.check _))

/-- What commands come to that were committed as events: the board took two frames for each of them,
in order, the host knows one event more for each, the board can tell all of them from what it stores,
and nobody waits for an event afterwards either. -/
structure Commits (trigger : Address) (commands : List Frame) (s : Session Board)
    (events : List Event) (s' : Session Board) : Prop where
  numbered : events = Event.numbered trigger none s.link.wire.nextEvent commands
  distinct : (events.map (·.id)).Nodup
  sent : s'.link.wire.sent = s.link.wire.sent ++ commands.flatMap (Event.pair trigger none)
  host : s'.host = { s.host with
    recorder := .idle
    events := s.host.events.insertAll (events.map fun e => (e.id, e)) }
  gained : (∀ e ∈ events, s.host.events.get? e.id = none) →
    s'.host.events.size = s.host.events.size + commands.length
  stored : ∀ e ∈ events, ∃ entry parameters declared,
    s'.link.wire.events.get? e.id = some (entry, parameters) ∧
      Event.readBack? (entry, parameters) = some (trigger, e.command, declared) ∧
      declared.toNat = parameters.length
  free : (s'.link.queue eventKey).requests = []

/-- A recording for events is committed on a board without injected faults, whatever happened on the
session before and whatever else waits on it, as long as the caller has taken the outcomes of what it
asked before and nobody waits for an event to be created. If a command lacks a module or a register,
the commit fails and nothing is sent. Otherwise every command becomes an event of its own, on the board
and on the host, and the board can tell trigger and command from what it stores. -/
theorem committed_events (reachable : s.Reachable) (untaken : s.outcomes.lookup owner = none)
    (free : (s.link.queue eventKey).requests = []) (faultless : s.link.wire.Faultless)
    {commands : List Frame} (recorded : s.host.recorder = .recording (.event trigger none) commands)
    (fits : ∀ c ∈ commands, c.length ≤ 257)
    (unwrapped : s.link.wire.nextEvent.toNat + commands.length ≤ 256) :
    ((∃ c ∈ commands, c.length < 2) → ∃ fault, Prompt owner Call.commitEvents s (.error fault)
      { s with host := { s.host with recorder := .idle } }) ∧
    ((∀ c ∈ commands, 2 ≤ c.length) → ∃ events s', Prompt owner Call.commitEvents s (.ok events) s' ∧
      Commits trigger commands s events s') := by
  have taken : s.host.recorder.take = .ok (.event trigger none, commands) := by
    rw [recorded]
    rfl
  constructor
  · intro short
    obtain ⟨fault, refused⟩ := Event.mapM_frames_of_short trigger none short
    refine ⟨fault, .bind (prompt_takeRecording taken) (.bind .host ?_)⟩
    simp only [ite_self]
    rw [refused]
    exact .bind_error (.check _)
  · intro long
    let events := Event.numbered trigger none s.link.wire.nextEvent commands
    let s₁ : Session Board := { s with host := { s.host with recorder := .idle } }
    have clear : s₁.Clear eventKey owner := ⟨reachable.told, free, untaken⟩
    obtain ⟨link, made, wired, left⟩ := prompt_createEventsFor trigger clear faultless long
    have distinct : (events.map (·.id)).Nodup := Event.nodup_numbered unwrapped
    refine ⟨events, s₁.withEvents events link, .bind (prompt_takeRecording taken) made, rfl, distinct,
      ?_, rfl, ?_, ?_, left⟩
    · show link.wire.sent = _
      rw [wired]
      exact Board.sent_withEvents ..
    · intro fresh
      refine (SortedMap.size_insertAll (Event.nodup_keys distinct id)
        (List.forall_mem_map.mpr fresh)).trans ?_
      rw [List.length_map, Event.length_numbered]
    · intro e mem
      have known : e.command ∈ commands := Event.command_of_mem_numbered mem
      obtain ⟨declared, told, counted⟩ :=
        Event.readBack?_stored trigger none (long _ known) (fits _ known)
      refine ⟨_, _, declared, ?_, told, counted⟩
      show link.wire.events.get? e.id = _
      rw [wired]
      exact Board.get?_withEvents unwrapped mem

/-! A switch that turns a light on and off. -/

def recordBlink : Call true Unit := do
  Call.beginRecording (.event ⟨1, 1, 255⟩ none)
  Call.command [2, 3, 1]
  Call.command [2, 3, 0]

def blinkingSession : Session Board := (advance 0 recordBlink.run (.new default (.new 18) 0 .virtual)).2

theorem committed_events_blinking : ∃ s' : Session Board, Prompt 1 Call.commitEvents blinkingSession
    (.ok [⟨0, ⟨1, 1, 255⟩, [2, 3, 1], none⟩, ⟨1, ⟨1, 1, 255⟩, [2, 3, 0], none⟩]) s' ∧
    s'.link.wire.sent =
      [[10, 2, 1, 1, 255, 2, 3, 1], [10, 3, 1], [10, 2, 1, 1, 255, 2, 3, 1], [10, 3, 0]] ∧
    s'.host.events.size = 2 := by
  have reachable : blinkingSession.Reachable := .advance 0 _ (.new ..)
  have faultless : blinkingSession.link.wire.Faultless := ⟨⟨rfl, rfl, rfl⟩, rfl⟩
  have recorded : blinkingSession.host.recorder =
      .recording (.event ⟨1, 1, 255⟩ none) [[2, 3, 1], [2, 3, 0]] := by decide +kernel
  have untaken : blinkingSession.outcomes.lookup 1 = none := rfl
  obtain ⟨-, commits⟩ :=
    committed_events reachable untaken rfl faultless recorded (by decide) (by decide +kernel)
  obtain ⟨events, s', committed, made⟩ := commits (by decide)
  obtain rfl := made.numbered
  refine ⟨s', committed, made.sent, made.gained ?_⟩
  intro e _
  rfl

end SensorHost.Session
