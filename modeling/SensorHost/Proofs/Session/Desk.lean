import SensorHost.Proofs.Exchange.Creations
import SensorHost.Proofs.Session.Conduct
import SensorHost.Proofs.Session.Floor

/-!
# A session on which many chains are created

What a session knows of the creations that calls asked for (`Session.Desk`): of every call the creations
that were answered and the one that is open, by the books of the link and by the outcomes that the call
has not taken yet. A call in its turn, on its own behalf, and everything that happens between turns keep
this, and what the call comes to is what its conduct says of the answers that it got
(`Session.Desk.advance`).
-/

namespace SensorHost

/-- What happened on the link, of all that was done. -/
def Deed.event? : Deed → Option LinkEvent
  | .happened event => some event
  | _ => none

def eventsOf (deeds : List Deed) : List LinkEvent := deeds.filterMap Deed.event?

theorem eventsOf_append (deeds deeds' : List Deed) :
    eventsOf (deeds ++ deeds') = eventsOf deeds ++ eventsOf deeds' :=
  List.filterMap_append

theorem eventsOf_happened (events : List LinkEvent) :
    eventsOf (events.map .happened) = events := by
  simp [eventsOf, Deed.event?, Function.comp_def]

theorem sent_notMem_happened {owner : Nat} {frame : Frame} {result : Except Fault Unit}
    {events : List LinkEvent} : .sent owner frame result ∉ events.map Deed.happened := by
  simp

/-- The results that were given to a call. -/
def given (owner : Nat) (events : List LinkEvent) : List (Except Fault Frame) :=
  ((events.filterMap LinkEvent.outcome?).filter (·.1 = owner)).map (·.2)

theorem given_append (owner : Nat) (events events' : List LinkEvent) :
    given owner (events ++ events') = given owner events ++ given owner events' := by
  simp [given]

/-- The creations that a call asked for. -/
def askedBy (owner : Nat) (asks : List Ask) : List Frame :=
  (asks.filter (·.owner = owner)).map (·.frame)

namespace Session

variable {σ α : Type}

/-- The results that a call has not taken yet. -/
def untaken (s : Session σ) (owner : Nat) : List (Except Fault Frame) :=
  (s.outcomes.filter (·.1 = owner)).map (·.2)

theorem untaken_takeOutcome? {s s' : Session σ} {owner : Nat} {reply : Except Fault Frame}
    (taken : s.takeOutcome? owner = some (reply, s')) :
    s'.link = s.link ∧ s'.host = s.host ∧ s.untaken owner = reply :: s'.untaken owner ∧
      ∀ other, other ≠ owner → s'.untaken other = s.untaken other := by
  unfold takeOutcome? at taken
  split at taken
  · contradiction
  · rename_i result first
    obtain ⟨rfl, rfl⟩ := Prod.mk.inj (Option.some.inj taken)
    refine ⟨rfl, rfl, ?_⟩
    unfold untaken
    generalize s.outcomes = outcomes at first
    induction outcomes with
    | nil => contradiction
    | cons outcome rest ih =>
        obtain ⟨o, given⟩ := outcome
        by_cases own : o = owner
        · subst own
          obtain rfl : given = result := by simpa using first
          refine ⟨by simp, fun other differs => ?_⟩
          simp [Ne.symm differs]
        · have later : rest.lookup owner = some result := by
            rwa [List.lookup_cons, beq_eq_false_iff_ne.mpr (Ne.symm own)] at first
          obtain ⟨mine, others⟩ := ih later
          refine ⟨by simpa [own] using mine, fun other differs => ?_⟩
          have same := others other differs
          simp only [List.eraseP_cons, own, decide_false, cond_false, List.filter_cons]
          split
          · rw [List.map_cons, List.map_cons, same]
          · exact same

/-! ## What is done in a turn -/

section

variable [Transport σ] {s s' : Session σ} {owner timeout : Nat} {may : true = true} {key : ReplyKey}
  {frames : List Frame} {reply : Except Fault Frame} {o : Nat} {frame : Frame}
  {result : Except Fault Unit}

theorem eventsOf_deeds_transmit {resume : Except Fault Unit → Dialogue true α} :
    eventsOf (s.deeds owner (.transmit frame resume)) = (s.link.transmit frame).2.journal ++
      eventsOf ((s.transmit frame).2.deeds owner (resume (s.transmit frame).1)) :=
  (eventsOf_append _ _).trans (congrArg (· ++ _) (eventsOf_happened _))

theorem sent_mem_deeds_transmit {frame' : Frame} {resume : Except Fault Unit → Dialogue true α} :
    .sent o frame result ∈ s.deeds owner (.transmit frame' resume) ↔
      (o = owner ∧ frame = frame' ∧ result = (s.transmit frame').1) ∨
        .sent o frame result ∈ (s.transmit frame').2.deeds owner (resume (s.transmit frame').1) := by
  rw [deeds, List.cons_append, List.mem_cons, List.mem_append, Deed.sent.injEq]
  simp only [sent_notMem_happened, false_or]

variable {resume : Except Fault Frame → Dialogue true α}

theorem advance_waits (none : (s.request key timeout owner frames).takeOutcome? owner = none) :
    s.advance owner (.ask may key timeout frames resume) =
      (.awaiting resume, s.request key timeout owner frames) := by
  rw [Session.advance]
  simp only [none]

theorem deeds_waits (none : (s.request key timeout owner frames).takeOutcome? owner = none) :
    s.deeds owner (.ask may key timeout frames resume) =
      .asked owner key frames ::
        (s.link.request key timeout owner frames).journal.map .happened := by
  rw [Session.deeds]
  simp only [none, List.append_nil]

theorem eventsOf_deeds_ask
    (taken : (s.request key timeout owner frames).takeOutcome? owner = some (reply, s')) :
    eventsOf (s.deeds owner (.ask may key timeout frames resume)) =
      (s.link.request key timeout owner frames).journal ++
        eventsOf (s'.deeds owner (resume reply)) := by
  rw [deeds_ask taken, eventsOf_append]
  exact congrArg (· ++ _) (eventsOf_happened _)

theorem sent_mem_deeds_ask
    (taken : (s.request key timeout owner frames).takeOutcome? owner = some (reply, s')) :
    .sent o frame result ∈ s.deeds owner (.ask may key timeout frames resume) ↔
      .sent o frame result ∈ s'.deeds owner (resume reply) := by
  rw [deeds_ask taken, List.cons_append, List.mem_cons, List.mem_append]
  simp only [sent_notMem_happened, reduceCtorEq, false_or]

end

/-! ## Where the calls stand -/

variable [Registrar σ] {s : Session σ} {past : List LinkEvent} {made : Nat → Answered}
  {awaited : Nat → List Frame}

/-- The creations that were answered to each call, and those that it still waits for. -/
structure Desk (s : Session σ) (past : List LinkEvent) (made : Nat → Answered)
    (awaited : Nat → List Frame) : Prop where
  rests : ∃ asks, s.link.Rests past asks ∧
    ∀ owner, askedBy owner asks = (made owner).map (·.1) ++ awaited owner
  quiet : s.link.journal = []
  given (owner : Nat) : given owner past = (made owner).map (·.2) ++ s.untaken owner

/-- The session takes note of what happened on its link. -/
theorem desk_absorb {link : Link σ} {asks : List Ask} (rests : link.Rests past asks)
    (asked : ∀ owner, askedBy owner asks = (made owner).map (·.1) ++ awaited owner)
    (before : ∀ owner, SensorHost.given owner past = (made owner).map (·.2) ++ s.untaken owner) :
    ({ s with link } : Session σ).absorb.Desk (past ++ link.journal) made awaited := by
  obtain ⟨kept, outcomes⟩ :=
    foldl_absorbEvent link.journal { s with link := { link with journal := [] } }
  have same : ({ s with link } : Session σ).absorb.link = { link with journal := [] } := kept
  refine ⟨⟨asks, ?_, asked⟩, congrArg Link.journal same, fun owner => ?_⟩
  · rw [same]
    exact rests.takeJournal
  · have later : ({ s with link } : Session σ).absorb.untaken owner =
        s.untaken owner ++ SensorHost.given owner link.journal := by
      have absorbed : ({ s with link } : Session σ).absorb.outcomes =
          s.outcomes ++ link.journal.filterMap LinkEvent.outcome? := outcomes
      rw [untaken, absorbed, List.filter_append, List.map_append]
      rfl
    rw [given_append, before, later, List.append_assoc]

namespace Desk

/-! ## What happens between turns -/

theorem receive (h : s.Desk past made awaited) {w : σ} {frame : Frame}
    (tells : Tells (Registrar.notes s.link.wire) (Registrar.notes w) [frame]) :
    ((s.withWire w).receive frame).Desk (past ++ ((s.withWire w).link.receive frame).journal) made
      awaited := by
  obtain ⟨asks, rests, asked⟩ := h.rests
  exact desk_absorb (s := s.withWire w) (rests.receive tells) asked h.given

/-- A timer fires; if it is one of a creation, the board learns that nobody waits for the answer any
more. -/
theorem expire (h : s.Desk past made awaited) (key : ReplyKey) (ticket : Nat) :
    let s₁ := s.withWire (if key = .creation then Registrar.giveUp ticket s.link.wire
      else s.link.wire)
    (s₁.expire key ticket).Desk (past ++ (s₁.link.expire key ticket).journal) made awaited := by
  obtain ⟨asks, rests, asked⟩ := h.rests
  by_cases onKey : key = .creation
  · subst onKey
    exact desk_absorb (s := s.withWire _) (rests.expire ticket) asked h.given
  · have kept : (s.link.expire key ticket).Rests past asks := by
      rw [rests.expire_other onKey]
      exact rests
    rw [if_neg onKey]
    exact desk_absorb (s := s.withWire _) kept asked h.given

theorem stir (h : s.Desk past made awaited) {w : σ}
    (same : Registrar.notes w = Registrar.notes s.link.wire) :
    (s.withWire w).Desk past made awaited := by
  obtain ⟨asks, rests, asked⟩ := h.rests
  exact ⟨⟨asks, rests.unnoted same, asked⟩, h.quiet, h.given⟩

theorem pass (h : s.Desk past made awaited) (now nextTimer : Nat) :
    ({ s with link := { s.link with now, nextTimer } } : Session σ).Desk past made awaited := by
  obtain ⟨asks, rests, asked⟩ := h.rests
  exact ⟨⟨asks, rests.pass now nextTimer, asked⟩, h.quiet, h.given⟩

theorem rehost (h : s.Desk past made awaited) (host : Host) :
    ({ s with host } : Session σ).Desk past made awaited :=
  ⟨h.rests, h.quiet, h.given⟩

/-! ## What a call does -/

theorem transmit (h : s.Desk past made awaited) {frame : Frame}
    (other : ReplyKey.ofFrame? frame ≠ some .creation) :
    (s.transmit frame).2.Desk (past ++ (s.link.transmit frame).2.journal) made awaited := by
  obtain ⟨asks, rests, asked⟩ := h.rests
  exact desk_absorb (rests.transmit other) asked h.given

theorem request (h : s.Desk past made awaited) {frame : Frame}
    (onKey : ReplyKey.ofFrame? frame = some .creation) (timeout owner : Nat) :
    (s.request .creation timeout owner [frame]).Desk
      (past ++ (s.link.request .creation timeout owner [frame]).journal) made
      (Function.update awaited owner (awaited owner ++ [frame])) := by
  obtain ⟨asks, rests, asked⟩ := h.rests
  refine desk_absorb (rests.request onKey timeout owner) (fun o => ?_) h.given
  rw [askedBy, List.filter_append, List.map_append, ← askedBy, asked]
  by_cases own : o = owner
  · subst own
    simp
  · simp [own, Ne.symm own]

/-- A call takes the result of the creation that it waits for. -/
theorem take (h : s.Desk past made awaited) {owner : Nat} {s' : Session σ} {frame : Frame}
    {reply : Except Fault Frame} (waits : awaited owner = [frame])
    (taken : s.takeOutcome? owner = some (reply, s')) :
    s'.Desk past (Function.update made owner (made owner ++ [(frame, reply)]))
      (Function.update awaited owner []) := by
  obtain ⟨link, -, mine, others⟩ := untaken_takeOutcome? taken
  obtain ⟨asks, rests, asked⟩ := h.rests
  refine ⟨⟨asks, link ▸ rests, fun o => ?_⟩, link ▸ h.quiet, fun o => ?_⟩
  · rw [asked]
    by_cases own : o = owner
    · subst own
      simp [waits]
    · simp [own]
  · rw [h.given]
    by_cases own : o = owner
    · subst own
      simp [mine]
    · simp [own, others o own]

/-- Where a call has come to: it ends, or it waits for the answer to one creation. -/
def Comes (Q : Answered → α → Prop) (made : Answered) (awaited : List Frame) : Progress α → Prop
  | .finished a => awaited = [] ∧ Q made a
  | .awaiting resume => ∃ frame, awaited = [frame] ∧
    ∀ reply, (resume reply).Conducts Q (made ++ [(frame, reply)])
  | .pausing .. => False

/-- What a call has done in its turn. -/
structure Turned (Q : Answered → α → Prop) (owner : Nat) (d : Dialogue true α) (s : Session σ)
    (past : List LinkEvent) (made : Nat → Answered) (awaited : Nat → List Frame) (made' : Answered)
    (awaited' : List Frame) : Prop where
  desk : (s.advance owner d).2.Desk (past ++ eventsOf (s.deeds owner d))
    (Function.update made owner made') (Function.update awaited owner awaited')
  comes : Comes Q made' awaited' (s.advance owner d).1
  grows : made owner <+: made'
  sent : ∀ o frame result, .sent o frame result ∈ s.deeds owner d →
    o = owner ∧ ∃ id ∈ answeredIds made', frame = Processor.removeFrame id
  roster : ∀ id ∉ answeredIds made',
    (s.advance owner d).2.host.roster.get? id = s.host.roster.get? id

section

variable {Q : Answered → α → Prop} {owner timeout : Nat} {may : true = true} {frame : Frame}
  {made' : Answered} {awaited' : List Frame}

/-- A call removes a processor and goes on. -/
theorem Turned.transmit {id : UInt8} {resume : Except Fault Unit → Dialogue true α}
    (turned : Turned Q owner (resume (s.transmit (Processor.removeFrame id)).1)
      (s.transmit (Processor.removeFrame id)).2
      (past ++ (s.link.transmit (Processor.removeFrame id)).2.journal) made awaited made' awaited')
    (mine : id ∈ answeredIds (made owner)) :
    Turned Q owner (.transmit (Processor.removeFrame id) resume) s past made awaited made'
      awaited' where
  desk := by
    rw [eventsOf_deeds_transmit, ← List.append_assoc]
    exact turned.desk
  comes := turned.comes
  grows := turned.grows
  sent o frame result mem := by
    rcases sent_mem_deeds_transmit.mp mem with ⟨rfl, rfl, -⟩ | later
    · exact ⟨rfl, id, mem_answeredIds_mono turned.grows mine, rfl⟩
    · exact turned.sent o frame result later
  roster id' foreign := by
    obtain ⟨_, same⟩ := listenersOnly_transmit s (Processor.removeFrame id)
    exact (turned.roster id' foreign).trans (by rw [same])

variable {resume : Except Fault Frame → Dialogue true α}

/-- A call waits for its turn or for the answer. -/
theorem turned_waits
    (desk : (s.request .creation timeout owner [frame]).Desk
      (past ++ (s.link.request .creation timeout owner [frame]).journal) made
      (Function.update awaited owner [frame]))
    (none : (s.request .creation timeout owner [frame]).takeOutcome? owner = none)
    (answered : ∀ reply, (resume reply).Conducts Q (made owner ++ [(frame, reply)])) :
    Turned Q owner (.ask may .creation timeout [frame] resume) s past made awaited (made owner)
      [frame] := by
  have deeds : s.deeds owner (.ask may .creation timeout [frame] resume) =
      .asked owner .creation [frame] ::
        (s.link.request .creation timeout owner [frame]).journal.map .happened := deeds_waits none
  have waits : s.advance owner (.ask may .creation timeout [frame] resume) =
      (.awaiting resume, s.request .creation timeout owner [frame]) := advance_waits none
  refine ⟨?_, ?_, List.prefix_refl _, fun o frame' result mem => ?_, fun id _ => ?_⟩
  · have events : eventsOf (s.deeds owner (.ask may .creation timeout [frame] resume)) =
        (s.link.request .creation timeout owner [frame]).journal := by
      rw [deeds]
      exact eventsOf_happened _
    rw [waits, events, Function.update_eq_self]
    exact desk
  · rw [waits]
    exact ⟨frame, rfl, answered⟩
  · rw [deeds] at mem
    rcases List.mem_cons.mp mem with same | later
    · contradiction
    · exact absurd later sent_notMem_happened
  · obtain ⟨_, same⟩ := listenersOnly_request s .creation timeout owner [frame]
    rw [waits, same]

/-- A call goes on with an answer that is there. -/
theorem Turned.ask {reply : Except Fault Frame} {s₂ : Session σ}
    (turned : Turned Q owner (resume reply) s₂
      (past ++ (s.link.request .creation timeout owner [frame]).journal)
      (Function.update made owner (made owner ++ [(frame, reply)])) (Function.update awaited owner [])
      made' awaited')
    (taken : (s.request .creation timeout owner [frame]).takeOutcome? owner = some (reply, s₂)) :
    Turned Q owner (.ask may .creation timeout [frame] resume) s past made awaited made'
      awaited' := by
  have goes : s.advance owner (.ask may .creation timeout [frame] resume) =
      s₂.advance owner (resume reply) := advance_ask taken
  have events : eventsOf (s.deeds owner (.ask may .creation timeout [frame] resume)) =
      (s.link.request .creation timeout owner [frame]).journal ++
        eventsOf (s₂.deeds owner (resume reply)) := eventsOf_deeds_ask taken
  have desk := turned.desk
  have grows := turned.grows
  rw [Function.update_idem, Function.update_idem, List.append_assoc, ← events] at desk
  rw [Function.update_self] at grows
  refine ⟨?_, ?_, (List.prefix_append ..).trans grows, fun o frame' result mem => ?_,
    fun id foreign => ?_⟩
  · rw [goes]
    exact desk
  · rw [goes]
    exact turned.comes
  · exact turned.sent o frame' result ((sent_mem_deeds_ask taken).mp mem)
  · obtain ⟨_, same⟩ := listenersOnly_request s .creation timeout owner [frame]
    obtain ⟨-, host, -⟩ := untaken_takeOutcome? taken
    rw [goes, turned.roster id foreign, host, same]

end

/-- A call in its turn, by induction on what it is still to do. -/
theorem advance {Q : Answered → α → Prop} {owner : Nat} {d : Dialogue true α}
    (h : s.Desk past made awaited) (idle : awaited owner = [])
    (conducts : d.Conducts Q (made owner)) :
    ∃ made' awaited', Turned Q owner d s past made awaited made' awaited' := by
  induction d generalizing s past made awaited with
  | done a =>
      refine ⟨made owner, [], ⟨?_, ⟨rfl, conducts⟩, List.prefix_refl _, nofun, fun _ _ => rfl⟩⟩
      rw [Function.update_eq_self, ← idle, Function.update_eq_self]
      show s.Desk (past ++ []) _ _
      rw [List.append_nil]
      exact h
  | look resume ih =>
      obtain ⟨made', awaited', turned⟩ := ih s.host h idle (conducts s.host)
      exact ⟨made', awaited', { turned with }⟩
  | update change next ih =>
      obtain ⟨made', awaited', turned⟩ := ih (h.rehost (change s.host)) idle conducts.2
      refine ⟨made', awaited', { turned with roster := fun id other => ?_ }⟩
      have before : id ∉ answeredIds (made owner) := fun mem =>
        other (mem_answeredIds_mono turned.grows mem)
      exact (turned.roster id other).trans (conducts.1 s.host id before)
  | measure resume ih =>
      obtain ⟨made', awaited', turned⟩ := ih _ h idle (conducts _)
      exact ⟨made', awaited', { turned with }⟩
  | transmit frame resume ih =>
      obtain ⟨⟨id, mine, rfl⟩, later⟩ := conducts
      have other : ReplyKey.ofFrame? (Processor.removeFrame id) ≠ some .creation := fun same =>
        absurd (Option.some.inj same) (by decide)
      obtain ⟨made', awaited', turned⟩ := ih _ (h.transmit other) idle (later _)
      exact ⟨made', awaited', turned.transmit mine⟩
  | ask may key timeout frames resume ih =>
      obtain ⟨rfl, frame, rfl, onKey, answered⟩ := conducts
      have asked := h.request onKey timeout owner
      rw [idle, List.nil_append] at asked
      cases taken : (s.request .creation timeout owner [frame]).takeOutcome? owner with
      | none => exact ⟨made owner, [frame], turned_waits asked taken answered⟩
      | some outcome =>
          obtain ⟨reply, s₂⟩ := outcome
          have took := asked.take (Function.update_self ..) taken
          rw [Function.update_idem] at took
          obtain ⟨made', awaited', turned⟩ := ih reply took (Function.update_self ..)
            (by rw [Function.update_self]; exact answered reply)
          exact ⟨made', awaited', turned.ask taken⟩
  | pause may milliseconds next ih => exact conducts.elim

end Desk

end Session

end SensorHost
