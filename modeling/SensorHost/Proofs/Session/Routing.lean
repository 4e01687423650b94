import SensorHost.Board.Simulated
import SensorHost.Proofs.Exchange.OneWay
import SensorHost.Proofs.Session.Solo

/-!
# Where an inbound frame goes

An inbound frame is routed by two tables: the queue of its module and register, and the headers of
the addresses that somebody listens to, which may be a byte longer. `Session.received_once` says that
the two never both take a frame. Over a one-way transport, in every session that can be reached, a
frame settles the request on the wire of its key, and nobody hears of it; if there is no such request,
nothing on the link changes, and everybody whose address begins the frame hears all of the rest.
-/

namespace SensorHost

/-- What another session sends for its board stays with that session. -/
instance {σ : Type} [Transport σ] : Transport.OneWay (Relay σ) where
  silent w w' frame replies sent := by
    have replied : (w.session.transmit frame).1.map (fun _ => []) = .ok replies :=
      congrArg Prod.fst sent
    cases taken : (w.session.transmit frame).1 with
    | error fault =>
        rw [taken] at replied
        contradiction
    | ok done =>
        rw [taken] at replied
        exact (Except.ok.inj replied).symm

/-! ## Who hears a frame -/

theorem Signal.samples_ne_nil (s : Signal) (payload : Frame) (replayed : Bool) :
    s.samples payload replayed ≠ [] := by
  simp only [samples]
  split
  · exact List.cons_ne_nil _ _
  · rename_i several
    obtain ⟨several, -⟩ := not_or.mp several
    have many : 1 < s.geometry.units.toNat := UInt8.lt_iff_toNat_lt.mp (UInt8.not_le.mp several)
    intro none
    rw [List.map_eq_nil_iff, List.range_eq_nil] at none
    omega

namespace Subscription

/-- What every frame for this subscription begins with. -/
def header (sub : Subscription) : Frame := sub.signal.address.header sub.signal.address.register

/-- What a frame brings to a subscription: all of its payload to one that is open and has the frame's
address, and nothing to any other. -/
inductive Hears (sub : Subscription) (frame : Frame) : List Sample → Prop
  | payload {data : Frame} : sub.isOpen = true → frame = sub.header ++ data →
    Hears sub frame (sub.signal.samples data false)
  | nothing : (sub.isOpen = true → ∀ data, frame ≠ sub.header ++ data) → Hears sub frame []

theorem payload?_eq_some_iff {sub : Subscription} {frame data : Frame} :
    sub.payload? frame = some data ↔ frame = sub.header ++ data := by
  unfold payload? header Address.header Address.key
  split
  · rename_i moduleId register rest
    simp only [List.cons_append, List.cons.injEq]
    by_cases same : sub.signal.address.moduleId = moduleId ∧ sub.signal.address.register = register
    · obtain ⟨rfl, rfl⟩ := same
      by_cases indexed : sub.signal.address.isIndexed = true
      · cases rest with
        | nil => simp [indexed]
        | cons id rest =>
            by_cases own : id = sub.signal.address.id
            · simp [indexed, own]
            · simp [indexed, own]
      · simp [indexed]
    · have other : (⟨sub.signal.address.moduleId, sub.signal.address.register⟩ : ReplyKey) ≠
          ⟨moduleId, register⟩ := fun eq => same (ReplyKey.mk.inj eq)
      rw [if_pos other]
      simp only [reduceCtorEq, false_iff]
      rintro ⟨rfl, rfl, -⟩
      exact same ⟨rfl, rfl⟩
  · rename_i short
    simp only [reduceCtorEq, false_iff]
    rintro rfl
    exact short _ _ _ rfl

/-- The samples that a frame brings to whoever listens. -/
def heard (sub : Subscription) (frame : Frame) : List Sample :=
  if sub.isOpen then sub.samples frame else []

theorem hears_heard (sub : Subscription) (frame : Frame) : sub.Hears frame (sub.heard frame) := by
  unfold heard
  by_cases isOpen : sub.isOpen = true
  · rw [if_pos isOpen, samples]
    cases own : sub.payload? frame with
    | some data => exact .payload isOpen (payload?_eq_some_iff.mp own)
    | none =>
        refine .nothing fun _ data addressed => ?_
        rw [payload?_eq_some_iff.mpr addressed] at own
        contradiction
  · rw [if_neg isOpen]
    exact .nothing fun opened => absurd opened isOpen

/-- Something was meant for the subscription if the frame begins with its address. -/
theorem isEmpty_samples (sub : Subscription) (frame : Frame) :
    (sub.samples frame).isEmpty = !sub.header.isPrefixOf frame := by
  unfold samples
  cases own : sub.payload? frame with
  | some data =>
      obtain rfl := payload?_eq_some_iff.mp own
      have begins : sub.header.isPrefixOf (sub.header ++ data) = true :=
        List.isPrefixOf_iff_prefix.mpr ⟨data, rfl⟩
      rw [begins]
      exact List.isEmpty_eq_false_iff.mpr (sub.signal.samples_ne_nil data false)
  | none =>
      have other : sub.header.isPrefixOf frame = false := by
        rw [← Bool.not_eq_true, List.isPrefixOf_iff_prefix]
        rintro ⟨data, rfl⟩
        rw [payload?_eq_some_iff.mpr rfl] at own
        contradiction
      rw [other]
      rfl

end Subscription

theorem Host.deliver_eq (h : Host) (frame : Frame) : h.deliver frame =
    (h.subscriptions.flatMap fun sub => (sub.heard frame).map (sub.number, ·),
      { h with
        subscriptions := h.subscriptions.filter fun sub =>
          sub.isOpen || !sub.header.isPrefixOf frame }) := by
  unfold deliver
  congr 1
  · induction h.subscriptions with
    | nil => rfl
    | cons sub rest ih =>
        rw [List.flatMap_cons, Subscription.heard, ← ih]
        by_cases isOpen : sub.isOpen = true
        · rw [List.filter_cons_of_pos isOpen, List.flatMap_cons, if_pos isOpen]
        · rw [List.filter_cons_of_neg isOpen, if_neg isOpen]
          rfl
  · simp only [Subscription.isEmpty_samples]

namespace Session

variable {σ : Type}

/-! ## The two ways of a frame -/

section

variable [Transport σ]

/-- The frame settled the request `r`, which was on the wire of `key`. The requests behind it were
served; requests on other keys, their timers, and everybody who listens heard nothing of it. -/
structure Answers (s : Session σ) (key : ReplyKey) (r : Request) (frame : Frame) (s' : Session σ) :
    Prop where
  host : s'.host = s.host
  delivered : s'.delivered = s.delivered
  others : ∀ key', key' ≠ key → s'.link.queue key' = s.link.queue key'
  timers : s'.link.timers.filter (·.key ≠ key) = s.link.timers.filter (·.key ≠ key)
  settled : ∃ waiting refused left, (s.link.queue key).requests = r :: waiting ∧
    Transport.Serves s.link.wire waiting refused left s'.link.wire ∧
    (s'.link.queue key).requests = left ∧
    s'.outcomes = s.outcomes ++ (r.owner, .ok frame) :: refused.map Request.refusal

end

/-- The frame went to everybody who listens to its address. Nothing on the link changed, and nobody's
subscription ended but that of those who were addressed and do not listen any more. -/
structure Streams (s : Session σ) (frame : Frame) (s' : Session σ) : Prop where
  link : s'.link = s.link
  outcomes : s'.outcomes = s.outcomes
  delivered : ∃ heard : Subscription → List Sample,
    (∀ sub ∈ s.host.subscriptions, sub.Hears frame (heard sub)) ∧
    s'.delivered = s.delivered ++
      s.host.subscriptions.flatMap fun sub => (heard sub).map (sub.number, ·)
  host : s'.host = { s.host with
    subscriptions := s.host.subscriptions.filter fun sub =>
      sub.isOpen || !sub.header.isPrefixOf frame }

/-- A session between two operations. -/
structure Orderly (s : Session σ) : Prop where
  link : s.link.Orderly
  told : s.link.journal = []

theorem link_absorb (s : Session σ) : s.absorb.link = { s.link with journal := [] } :=
  (foldl_absorbEvent s.link.journal { s with link := s.link.takeJournal.2 }).1

theorem journal_absorb (s : Session σ) : s.absorb.link.journal = [] :=
  congrArg Link.journal s.link_absorb

theorem orderly_absorb {s : Session σ} (h : s.link.Orderly) : s.absorb.Orderly := by
  refine ⟨?_, s.journal_absorb⟩
  rw [s.link_absorb]
  exact h.of_queues fun _ => rfl

/-- What was not unclaimed changes nothing but the outcomes. -/
theorem foldl_absorbEvent_claimed {journal : List LinkEvent}
    (claimed : ∀ frame, .unclaimed frame ∉ journal) (s : Session σ) :
    journal.foldl absorbEvent s =
      { s with outcomes := s.outcomes ++ journal.filterMap LinkEvent.outcome? } := by
  induction journal generalizing s with
  | nil => rw [List.filterMap_nil, List.append_nil, List.foldl_nil]
  | cons event rest ih =>
      have later : ∀ frame, .unclaimed frame ∉ rest := fun frame mem =>
        claimed frame (List.mem_cons_of_mem _ mem)
      rw [List.foldl_cons, ih later]
      cases event with
      | unclaimed frame => exact absurd List.mem_cons_self (claimed frame)
      | settled key ticket owner result => simp [absorbEvent, LinkEvent.outcome?]
      | _ => rfl

/-- Where requests of one key were settled and nothing came back unclaimed, the session has their
outcomes, and nothing else is new but the link. -/
theorem absorb_served {s : Session σ} {l link : Link σ} {key : ReplyKey}
    {results : List (Nat × Except Fault Frame)} {left : List Request}
    (served : Link.Served key l results left link) (told : l.journal = []) :
    ({ s with link } : Session σ).absorb = { s with
      link := { link with journal := [] }
      outcomes := s.outcomes ++ results } := by
  obtain ⟨events, journal, outcomes, claimed⟩ := served.journal
  rw [told, List.nil_append] at journal
  unfold absorb Link.takeJournal
  simp only [journal]
  rw [foldl_absorbEvent_claimed claimed, outcomes]

variable [Transport σ]

/-- A frame that the link only notes is handed to those who listen. -/
theorem receive_of_noted {s : Session σ} (told : s.link.journal = []) {frame : Frame}
    (noted : s.link.receive frame = s.link.note (.unclaimed frame)) :
    s.receive frame = { s with
      host := (s.host.deliver frame).2, delivered := s.delivered ++ (s.host.deliver frame).1 } := by
  unfold receive absorb Link.takeJournal
  rw [noted]
  simp only [Link.note, told, List.nil_append, List.foldl_cons, List.foldl_nil, absorbEvent]
  rw [← told]

/-- A frame that no request waits for goes to those who listen. -/
theorem Orderly.streams {s : Session σ} (h : s.Orderly) {frame : Frame}
    (unawaited : ∀ key r, ReplyKey.ofFrame? frame = some key → ¬ s.link.InFlight key r) :
    s.Streams frame (s.receive frame) := by
  rw [receive_of_noted h.told (h.link.receive_unclaimed unawaited), Host.deliver_eq]
  exact ⟨rfl, rfl, ⟨fun sub => sub.heard frame, fun sub _ => sub.hears_heard frame, rfl⟩, rfl⟩

variable [Transport.OneWay σ]

/-- A frame on the key of a request on the wire settles it. -/
theorem Orderly.answers {s : Session σ} (h : s.Orderly) {frame : Frame} {key : ReplyKey}
    {r : Request} (on : ReplyKey.ofFrame? frame = some key) (inFlight : s.link.InFlight key r) :
    s.Answers key r frame (s.receive frame) := by
  obtain ⟨waiting, requests⟩ := h.link.head_of_inFlight inFlight
  obtain ⟨refused, left, serves, served⟩ := h.link.receive_inFlight on requests
  show s.Answers key r frame ({ s with link := s.link.receive frame } : Session σ).absorb
  rw [absorb_served served h.told]
  exact ⟨rfl, rfl, served.others, served.timers, waiting, refused, left, requests, serves,
    congrArg Queue.requests served.queue, rfl⟩

/-! ## Sessions that can be reached -/

section

omit [Transport.OneWay σ]

/-- Sessions that come about by calls, frames that arrive, timers and closing, in any order. Whoever
makes the calls may take the outcomes and the samples at any time. -/
inductive Reachable : Session σ → Prop
  | new (settings : Settings) (wire : σ) (now : Nat) (runtime : Runtime) :
    Reachable (.new settings wire now runtime)
  | meanwhile {s s' : Session σ} : Reachable s → Meanwhile (fun _ _ _ => True) s s' → Reachable s'
  | advance {s : Session σ} {α : Type} (owner : Nat) (d : Dialogue true α) : Reachable s →
    Reachable (advance owner d s).2
  | perform {s : Session σ} {α : Type} (d : Dialogue false α) : Reachable s →
    Reachable (perform d s).2
  | taken {s : Session σ} (outcomes : List (Nat × Except Fault Frame))
      (delivered : List (Nat × Sample)) : Reachable s → Reachable { s with outcomes, delivered }

/-- What holds of a session whatever its host knows and whatever outcomes and samples it has not handed
over, and is kept by all traffic. -/
structure Kept (P : Session σ → Prop) : Prop where
  around {s : Session σ} (host : Host) (outcomes : List (Nat × Except Fault Frame))
    (delivered : List (Nat × Sample)) : P s → P ⟨host, s.link, outcomes, delivered⟩
  transmit {s : Session σ} (frame : Frame) : P s → P (s.transmit frame).2
  request {s : Session σ} (key : ReplyKey) (timeout owner : Nat) (frames : List Frame) : P s →
    P (s.request key timeout owner frames)
  meanwhile {s s' : Session σ} : P s → Meanwhile (fun _ _ _ => True) s s' → P s'

namespace Kept

variable {P : Session σ → Prop} {s : Session σ} {α : Type}

/-- A piece of a call asks and transmits, and changes what the host knows. -/
theorem advance (kept : Kept P) {owner : Nat} (d : Dialogue true α) (holds : P s) :
    P (Session.advance owner d s).2 := by
  induction d generalizing s with
  | done _ => exact holds
  | look resume ih => exact ih s.host holds
  | update change next ih => exact ih (kept.around _ _ _ holds)
  | measure resume ih => exact ih _ holds
  | transmit frame resume ih => exact ih _ (kept.transmit frame holds)
  | ask may key timeout frames resume ih =>
      have asked := kept.request key timeout owner frames holds
      unfold Session.advance takeOutcome?
      cases outcome : (s.request key timeout owner frames).outcomes.lookup owner with
      | none =>
          simp only [outcome]
          exact asked
      | some result =>
          simp only [outcome]
          exact ih result (kept.around _ _ _ asked)
  | pause may milliseconds next ih => exact holds

theorem perform (kept : Kept P) (d : Dialogue false α) (holds : P s) :
    P (Session.perform d s).2 := by
  induction d generalizing s with
  | done _ => exact holds
  | look resume ih => exact ih s.host holds
  | update change next ih => exact ih (kept.around _ _ _ holds)
  | measure resume ih => exact ih _ holds
  | transmit frame resume ih => exact ih _ (kept.transmit frame holds)
  | ask may => exact nomatch may
  | pause may => exact nomatch may

/-- What is kept from the beginning holds of every session that can be reached. -/
theorem reachable (kept : Kept P)
    (new : ∀ settings (wire : σ) now runtime, P (.new settings wire now runtime))
    (reachable : s.Reachable) : P s := by
  induction reachable with
  | new settings wire now runtime => exact new settings wire now runtime
  | meanwhile _ step ih => exact kept.meanwhile ih step
  | advance owner d _ ih => exact kept.advance d ih
  | perform d _ ih => exact kept.perform d ih
  | taken outcomes delivered _ ih => exact kept.around _ _ _ ih

end Kept

/-- Everything that happens on the link is told before anything else happens. -/
theorem kept_told : Kept (σ := σ) fun s => s.link.journal = [] where
  around _ _ _ told := told
  transmit _ _ := journal_absorb _
  request _ _ _ _ _ := journal_absorb _
  meanwhile told step := by
    cases step with
    | stirs | passes => exact told
    | arrives | expires | closes => exact journal_absorb _

theorem Reachable.told {s : Session σ} (reachable : s.Reachable) : s.link.journal = [] :=
  kept_told.reachable (fun _ _ _ _ => rfl) reachable

end

namespace Orderly

variable {s s' : Session σ}

theorem transmit (h : s.Orderly) (frame : Frame) : (s.transmit frame).2.Orderly :=
  orderly_absorb (s := { s with link := (s.link.transmit frame).2 }) (h.link.transmit frame)

theorem request (h : s.Orderly) (key : ReplyKey) (timeout owner : Nat) (frames : List Frame) :
    (s.request key timeout owner frames).Orderly :=
  orderly_absorb (s := { s with link := s.link.request key timeout owner frames })
    (h.link.request key timeout owner frames)

theorem meanwhile {Stirs : σ → Option Frame → σ → Prop} (h : s.Orderly)
    (step : Meanwhile Stirs s s') : s'.Orderly := by
  cases step with
  | stirs => exact ⟨h.link.of_queues fun _ => rfl, h.told⟩
  | @arrives wire frame =>
      have drifted : (s.link.withWire wire).Orderly := h.link.of_queues fun _ => rfl
      exact orderly_absorb (s := { s with link := (s.link.withWire wire).receive frame })
        (drifted.receive frame)
  | expires key ticket =>
      exact orderly_absorb (s := { s with link := s.link.expire key ticket })
        (h.link.expire key ticket)
  | closes =>
      have closed := orderly_absorb (s := { s with link := s.link.close }) h.link.close
      exact ⟨closed.link, closed.told⟩
  | passes now nextTimer => exact ⟨h.link.of_queues fun _ => rfl, h.told⟩

end Orderly

theorem kept_orderly : Kept (σ := σ) Orderly where
  around _ _ _ orderly := ⟨orderly.link, orderly.told⟩
  transmit frame orderly := orderly.transmit frame
  request key timeout owner frames orderly := orderly.request key timeout owner frames
  meanwhile orderly step := orderly.meanwhile step

theorem Reachable.orderly {s : Session σ} (reachable : s.Reachable) : s.Orderly :=
  kept_orderly.reachable (fun _ _ _ _ => ⟨fun _ => nofun, rfl⟩) reachable

/-- An inbound frame is routed once. If a request is on the wire of its key, the frame settles that
request, and the requests behind it are served; nobody hears the frame, and nothing happens on any
other key. Otherwise nothing happens on any key, and the frame goes to those who listen to its
address. -/
theorem received_once {s : Session σ} (reachable : s.Reachable) (frame : Frame) :
    (∀ key r, ReplyKey.ofFrame? frame = some key → s.link.InFlight key r →
      s.Answers key r frame (s.receive frame)) ∧
    ((∀ key r, ReplyKey.ofFrame? frame = some key → ¬ s.link.InFlight key r) →
      s.Streams frame (s.receive frame)) :=
  ⟨fun _ _ on inFlight => reachable.orderly.answers on inFlight,
    fun unawaited => reachable.orderly.streams unawaited⟩

/-! A session over another one. Two calls ask the same register, and somebody listens to another. -/

def relayedKey : ReplyKey := ⟨1, 0x81⟩

def relayedQuestion : Dialogue true (Except Fault Frame) :=
  (Call.ask relayedKey 1000 [[1, 0x81]]).run

def relayedSession : Session (Relay Board) :=
  let s : Session (Relay Board) := .new default ⟨.new default (.new 18) 0 .virtual⟩ 0 .virtual
  let listening := (perform (Call.stream 7 (.root .uint ⟨2, 3, 255⟩
    { widths := [1], units := 1, offset := 0, signed := false })).run s).2
  (advance 1 relayedQuestion (advance 0 relayedQuestion listening).2).2

theorem reachable_relayedSession : relayedSession.Reachable :=
  .advance 1 _ (.advance 0 _ (.perform _ (.new ..)))

theorem relayedSession_requests : (relayedSession.link.queue relayedKey).requests.map
    (fun r => (r.owner, r.isStarted)) = [(0, true), (1, false)] := by decide +kernel

theorem received_once_relayed : relayedSession.Reachable ∧
    (∃ r : Request, r.owner = 0 ∧ relayedSession.Answers relayedKey r [1, 0x81, 5]
      (relayedSession.receive [1, 0x81, 5])) ∧
    relayedSession.Streams [2, 3, 9] (relayedSession.receive [2, 3, 9]) := by
  refine ⟨reachable_relayedSession, ?_, ?_⟩
  · obtain ⟨r, waiting, requests, first, -⟩ := List.map_eq_cons_iff.mp relayedSession_requests
    obtain ⟨owner, begun⟩ := Prod.mk.inj first
    refine ⟨r, owner, (received_once reachable_relayedSession _).1 relayedKey r rfl ⟨?_, ?_⟩⟩
    · rw [requests]
      exact List.mem_cons_self
    · exact begun
  · have unused : (relayedSession.link.queue ⟨2, 3⟩).requests.isEmpty := by decide +kernel
    refine (received_once reachable_relayedSession _).2 ?_
    rintro _ r ⟨rfl⟩ ⟨mem, -⟩
    rw [List.isEmpty_iff.mp unused] at mem
    contradiction

/-- The frame of the other register is heard by whoever listens to it. -/
example : (relayedSession.receive [2, 3, 9]).delivered.map (·.1) = [7] := by decide +kernel

end Session

end SensorHost
