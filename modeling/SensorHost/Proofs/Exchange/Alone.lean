import SensorHost.Proofs.Exchange.Weight

/-!
# A link with a single request

What a link does when one request at most is unsettled. `Link.Stands` says where such a link stands:
the request that waits for its answer, if there is one, and the results that were given since the
journal was last taken. Sending the frames of a request hands them to the transport in order
(`Transport.sendAll`); the first frame that comes back on the key of the request answers it
(`Link.Stands.request`), and if none does, a later frame, the timer or the end of the link settles
it.
-/

namespace SensorHost

/-- The owner and the result of the request that an event settles. -/
def LinkEvent.outcome? : LinkEvent → Option (Nat × Except Fault Frame)
  | settled _ _ owner result => some (owner, result)
  | _ => none

/-- The first of some frames that belongs to a key. -/
def firstOn (key : ReplyKey) (frames : List Frame) : Option Frame :=
  frames.find? fun frame => ReplyKey.ofFrame? frame == some key

variable {σ : Type}

/-- Hands frames to a transport in order, up to the first that is refused: all that comes back at
once, whether every frame was taken, and the transport afterwards. -/
def Transport.sendAll [Transport σ] (wire : σ) :
    List Frame → List Frame × Except Fault Unit × σ
  | [] => ([], .ok (), wire)
  | frame :: rest =>
    match Transport.send wire frame with
    | (.error fault, wire) => ([], .error fault, wire)
    | (.ok replies, wire) =>
      let (more, result, wire) := sendAll wire rest
      (replies ++ more, result, wire)

namespace Link

/-- The unsettled requests of a key on a link that holds one request at most. -/
def heldOn (held : Option (ReplyKey × Request)) (key : ReplyKey) : List Request :=
  match held with
  | some (key', r) => if key = key' then [r] else []
  | none => []

/-- The link holds no request but the given one, which has been started; these results were given
since the journal was last taken. -/
structure Stands (l : Link σ) (held : Option (ReplyKey × Request))
    (results : List (Nat × Except Fault Frame)) : Prop where
  label : ∀ key, (l.queue key).label = key.text
  requests : ∀ key, (l.queue key).requests = heldOn held key
  started : ∀ entry ∈ held, entry.2.isStarted = true
  results : l.journal.filterMap LinkEvent.outcome? = results

/-- What starts the next request does nothing where there is none to start. -/
def Inert (resume : ReplyKey → Link σ → Link σ) : Prop :=
  ∀ key l, l.startHead? key = none → resume key l = l

variable {l : Link σ} {key : ReplyKey} {r : Request} {held : Option (ReplyKey × Request)}
  {results : List (Nat × Except Fault Frame)}

theorem inert_activateWithin [Transport σ] (fuel : Nat) :
    Inert (activateWithin (σ := σ) fuel) := by
  intro key l none
  cases fuel with
  | zero => rfl
  | succ fuel =>
      unfold activateWithin
      rw [none]

theorem inert_activate [Transport σ] : Inert (activate (σ := σ)) :=
  fun key l none => inert_activateWithin l.weight key l none

theorem wire_foldl_settle (l : Link σ) (key : ReplyKey) (fault : Fault)
    (requests : List Request) :
    (requests.foldl (fun l r => l.settle key r (.error fault)) l).wire = l.wire := by
  induction requests generalizing l with
  | nil => rfl
  | cons r rest ih =>
      rw [List.foldl_cons, ih]
      rfl

theorem wire_failAll (l : Link σ) (key : ReplyKey) (fault : Fault) :
    (l.failAll key fault).wire = l.wire :=
  wire_foldl_settle ..

theorem stands_new (wire : σ) (now : Nat) (runtime : Runtime) :
    (new wire now runtime).Stands none [] :=
  ⟨fun _ => rfl, fun _ => rfl, by nofun, rfl⟩

namespace Stands

/-! ## Nothing to start -/

theorem startHead? (h : l.Stands held results) (key : ReplyKey) : l.startHead? key = none := by
  rw [startHead?_eq_none_iff, Queue.start?_eq_none_iff]
  intro head rest requests
  rw [h.requests key] at requests
  unfold heldOn at requests
  cases held with
  | none => contradiction
  | some entry =>
      obtain ⟨key', r⟩ := entry
      simp only at requests
      split at requests
      · obtain ⟨rfl, -⟩ := List.cons.inj requests
        exact h.started _ rfl
      · contradiction

theorem pop?_eq_some {q : Queue} (h : l.Stands held results)
    (pop : (l.queue key).pop? = some (r, q)) :
    held = some (key, r) ∧ q = { l.queue key with requests := [] } := by
  obtain ⟨rest, requests, rfl⟩ := Queue.pop?_eq_some_iff.mp pop
  rw [h.requests key] at requests
  unfold heldOn at requests
  cases held with
  | none => contradiction
  | some entry =>
      obtain ⟨key', r'⟩ := entry
      simp only at requests
      split at requests
      · rename_i same
        obtain ⟨rfl, rfl⟩ := List.cons.inj requests
        exact ⟨by rw [same], rfl⟩
      · contradiction

theorem pop? (h : l.Stands (some (key, r)) results) :
    (l.queue key).pop? = some (r, { l.queue key with requests := [] }) := by
  rw [Queue.pop?_eq_some_iff]
  refine ⟨[], ?_, rfl⟩
  rw [h.requests key, heldOn, if_pos rfl]

/-- The request leaves its queue with a result. -/
theorem settle (h : l.Stands (some (key, r)) results) (result : Except Fault Frame) :
    ((l.setQueue key { l.queue key with requests := [] }).settle key r result).Stands none
      (results ++ [(r.owner, result)]) := by
  have queues (key' : ReplyKey) :
      ((l.setQueue key { l.queue key with requests := [] }).settle key r result).queue key' =
        if key' = key then { l.queue key with requests := [] } else l.queue key' :=
    queue_setQueue l key key' _
  refine ⟨fun key' => ?_, fun key' => ?_, by nofun, ?_⟩
  · rw [queues]
    split
    · rename_i same
      rw [same]
      exact h.label key
    · exact h.label key'
  · rw [queues]
    split
    · rfl
    · rename_i other
      rw [h.requests key', heldOn, if_neg other]
      rfl
  · show (l.journal ++ [_]).filterMap LinkEvent.outcome? = _
    rw [List.filterMap_append, h.results]
    rfl

theorem note (h : l.Stands held results) {event : LinkEvent} (quiet : event.outcome? = none) :
    (l.note event).Stands held results := by
  refine ⟨h.label, h.requests, h.started, ?_⟩
  show (l.journal ++ [event]).filterMap LinkEvent.outcome? = results
  rw [List.filterMap_append, h.results]
  simp [quiet]

theorem rewire (h : l.Stands held results) (wire : σ) : { l with wire }.Stands held results :=
  ⟨h.label, h.requests, h.started, h.results⟩

/-! ## Frames that come back -/

theorem popStarted?_eq_some {q : Queue} {key' : ReplyKey} {r' : Request}
    (h : l.Stands held results) (popped : (l.queue key').popStarted? = some (r', q)) :
    held = some (key', r') ∧ q = { l.queue key' with requests := [] } :=
  h.pop?_eq_some (Queue.popStarted?_eq_some_iff.mp popped).1

section Resuming

variable {resume : ReplyKey → Link σ → Link σ} (inert : Inert resume)
include inert

/-- A frame answers the request if it belongs to its key. Any other one changes nothing. -/
theorem receiveThen (h : l.Stands held results) (frame : Frame) :
    (l.receiveThen resume frame).wire = l.wire ∧
      ((∃ key r, held = some (key, r) ∧ ReplyKey.ofFrame? frame = some key ∧
          (l.receiveThen resume frame).Stands none (results ++ [(r.owner, .ok frame)])) ∨
        ((∀ key r, held = some (key, r) → ReplyKey.ofFrame? frame ≠ some key) ∧
          (l.receiveThen resume frame).Stands held results)) := by
  unfold Link.receiveThen Link.dispatchThen
  cases on : ReplyKey.ofFrame? frame with
  | none => exact ⟨rfl, .inr ⟨by nofun, h.note rfl⟩⟩
  | some key =>
      simp only [Link.completeThen]
      cases popped : (l.queue key).popStarted? with
      | none =>
          refine ⟨rfl, .inr ⟨?_, h.note rfl⟩⟩
          rintro key' r rfl same
          obtain rfl := Option.some.inj same
          rw [Queue.popStarted?, h.pop?, Option.filter_some, if_pos (h.started _ rfl)] at popped
          contradiction
      | some entry =>
          obtain ⟨r, q⟩ := entry
          obtain ⟨rfl, rfl⟩ := h.popStarted?_eq_some popped
          have settled := h.settle (.ok frame)
          simp only
          rw [inert _ _ (settled.startHead? key)]
          exact ⟨rfl, .inl ⟨key, r, rfl, rfl, settled⟩⟩

theorem receiveAll_idle (frames : List Frame) (h : l.Stands none results) :
    (frames.foldl (Link.receiveThen resume) l).wire = l.wire ∧
      (frames.foldl (Link.receiveThen resume) l).Stands none results := by
  induction frames generalizing l with
  | nil => exact ⟨rfl, h⟩
  | cons frame rest ih =>
      obtain ⟨wire, ⟨_, _, held, _⟩ | ⟨-, stands⟩⟩ := h.receiveThen inert frame
      · contradiction
      · obtain ⟨wire', stands'⟩ := ih stands
        exact ⟨wire'.trans wire, stands'⟩

/-- Of the frames that come back, the first on the key of the request answers it. -/
theorem receiveAll (frames : List Frame) (h : l.Stands (some (key, r)) results) :
    (frames.foldl (Link.receiveThen resume) l).wire = l.wire ∧
      match firstOn key frames with
      | some frame => (frames.foldl (Link.receiveThen resume) l).Stands none
          (results ++ [(r.owner, .ok frame)])
      | none => (frames.foldl (Link.receiveThen resume) l).Stands (some (key, r)) results := by
  induction frames generalizing l with
  | nil => exact ⟨rfl, h⟩
  | cons frame rest ih =>
      obtain ⟨wire, ⟨key', r', held, on, stands⟩ | ⟨other, stands⟩⟩ := h.receiveThen inert frame
      · obtain ⟨rfl, rfl⟩ := Prod.mk.inj (Option.some.inj held)
        have first : firstOn key (frame :: rest) = some frame := by simp [firstOn, on]
        obtain ⟨wire', stands'⟩ := receiveAll_idle inert rest stands
        rw [first]
        exact ⟨wire'.trans wire, stands'⟩
      · have later : firstOn key (frame :: rest) = firstOn key rest := by
          simp [firstOn, other key r rfl]
        obtain ⟨wire', stands'⟩ := ih stands
        rw [later]
        exact ⟨wire'.trans wire, stands'⟩

/-! ## Sending -/

variable [Transport σ]

theorem transmitThen_idle (h : l.Stands none results) (frame : Frame) :
    (l.transmitThen resume frame).1 = (Transport.send l.wire frame).1.map (fun _ => ()) ∧
      (l.transmitThen resume frame).2.wire = (Transport.send l.wire frame).2 ∧
      (l.transmitThen resume frame).2.Stands none results := by
  unfold Link.transmitThen
  cases sent : Transport.send l.wire frame with
  | mk result wire =>
    cases result with
    | error fault => exact ⟨rfl, rfl, h.rewire wire⟩
    | ok replies =>
        obtain ⟨kept, stands⟩ := receiveAll_idle inert replies (h.rewire wire)
        exact ⟨rfl, kept, stands⟩

theorem performAll_idle (frames : List Frame) (h : l.Stands none results) :
    (l.performAll resume (frames.map .transmit)).1 = (Transport.sendAll l.wire frames).2.1 ∧
      (l.performAll resume (frames.map .transmit)).2.wire =
        (Transport.sendAll l.wire frames).2.2 ∧
      (l.performAll resume (frames.map .transmit)).2.Stands none results := by
  induction frames generalizing l with
  | nil => exact ⟨rfl, rfl, h⟩
  | cons frame rest ih =>
      rw [List.map_cons, Link.performAll, Link.perform, Link.transmitThen, Transport.sendAll]
      cases sent : Transport.send l.wire frame with
      | mk result wire =>
        cases result with
        | error fault => exact ⟨rfl, rfl, h.rewire wire⟩
        | ok replies =>
            obtain ⟨kept, stands⟩ := receiveAll_idle inert replies (h.rewire wire)
            have rest := ih stands
            rw [kept] at rest
            exact rest

/-- While the frames of a request are sent, the first frame that comes back on its key answers
it. -/
theorem performAll (frames : List Frame) (h : l.Stands (some (key, r)) results) :
    (l.performAll resume (frames.map .transmit)).1 = (Transport.sendAll l.wire frames).2.1 ∧
      (l.performAll resume (frames.map .transmit)).2.wire =
        (Transport.sendAll l.wire frames).2.2 ∧
      match firstOn key (Transport.sendAll l.wire frames).1 with
      | some frame => (l.performAll resume (frames.map .transmit)).2.Stands none
          (results ++ [(r.owner, .ok frame)])
      | none => (l.performAll resume (frames.map .transmit)).2.Stands (some (key, r)) results := by
  induction frames generalizing l with
  | nil => exact ⟨rfl, rfl, h⟩
  | cons frame rest ih =>
      rw [List.map_cons, Link.performAll, Link.perform, Link.transmitThen, Transport.sendAll]
      cases sent : Transport.send l.wire frame with
      | mk result wire =>
        cases result with
        | error fault => exact ⟨rfl, rfl, h.rewire wire⟩
        | ok replies =>
            obtain ⟨kept, stands⟩ := receiveAll inert replies (h.rewire wire)
            have split : firstOn key (replies ++ (Transport.sendAll wire rest).1) =
                (firstOn key replies).or (firstOn key (Transport.sendAll wire rest).1) :=
              List.find?_append
            simp only [split]
            cases first : firstOn key replies with
            | some reply =>
                rw [first] at stands
                have others := performAll_idle inert rest stands
                rw [kept] at others
                exact others
            | none =>
                rw [first] at stands
                have others := ih stands
                rw [kept] at others
                exact others

end Resuming

/-! ## Requests -/

variable [Transport σ]

omit [Transport σ] in
/-- A request that is queued on an idle link is the head of its queue and can be started. -/
theorem start (h : l.Stands none results) (key : ReplyKey) (timeout owner : Nat)
    (moves : List Move) :
    ∃ (r : Request) (l' : Link σ), r.owner = owner ∧ r.timeout = timeout ∧
      (l.setQueue key ((l.queue key).push timeout owner moves)).startHead? key =
        some (r, moves, l') ∧
      l'.wire = l.wire ∧ l'.Stands (some (key, { r with moves := none })) results := by
  have empty : (l.queue key).requests = [] := h.requests key
  let r : Request := ⟨(l.queue key).nextTicket, owner, timeout, some moves⟩
  let q : Queue := { (l.queue key).push timeout owner moves with
    requests := [{ r with moves := none }] }
  have start : ((l.queue key).push timeout owner moves).start? = some (r, moves, q) := by
    rw [Queue.start?_eq_some_iff]
    refine ⟨[], ?_, rfl, rfl⟩
    simp [Queue.push, empty, r]
  let l₀ := l.setQueue key ((l.queue key).push timeout owner moves)
  have pushed : l₀.queue key = (l.queue key).push timeout owner moves := by
    rw [queue_setQueue, if_pos rfl]
  refine ⟨r, { (l₀.setQueue key q).note (.started key r.ticket r.owner) with
    timers := l.timers ++ [⟨l.nextTimer, key, r.ticket, l.runtime.wakes l.now r.timeout⟩]
    nextTimer := l.nextTimer + 1 }, rfl, rfl, ?_, rfl, ?_⟩
  · show l₀.startHead? key = _
    unfold Link.startHead?
    rw [pushed, start]
    rfl
  · -- Only the queue of the key has changed, twice.
    have queues (key' : ReplyKey) :
        (l₀.setQueue key q).queue key' = if key' = key then q else l.queue key' := by
      rw [queue_setQueue, queue_setQueue]
      split <;> rfl
    refine ⟨fun key' => ?_, fun key' => ?_, ?_, ?_⟩
    · refine (congrArg Queue.label (queues key')).trans ?_
      split
      · rename_i same
        rw [same]
        exact h.label key
      · exact h.label key'
    · refine (congrArg Queue.requests (queues key')).trans ?_
      simp only [heldOn]
      split
      · rfl
      · exact h.requests key'
    · rintro _ ⟨rfl⟩
      rfl
    · show (l.journal ++ [_]).filterMap LinkEvent.outcome? = results
      rw [List.filterMap_append, h.results]
      exact List.append_nil results

/-- A request on an idle link hands its frames to the transport. The first frame that comes back on
its key is its result; if there is none it fails with the fault of a frame that was refused, and
waits if all were taken. -/
theorem request (h : l.Stands none results) (key : ReplyKey) (timeout owner : Nat)
    (frames : List Frame) :
    (l.request key timeout owner frames).wire = (Transport.sendAll l.wire frames).2.2 ∧
      match firstOn key (Transport.sendAll l.wire frames).1,
        (Transport.sendAll l.wire frames).2.1 with
      | some frame, _ => (l.request key timeout owner frames).Stands none
          (results ++ [(owner, .ok frame)])
      | none, .error fault => (l.request key timeout owner frames).Stands none
          (results ++ [(owner, .error fault)])
      | none, .ok () => ∃ r : Request, r.owner = owner ∧ r.timeout = timeout ∧
          (l.request key timeout owner frames).Stands (some (key, r)) results := by
  obtain ⟨r, l₁, rfl, rfl, started, wired, stands⟩ :=
    h.start key timeout owner (frames.map .transmit)
  have alone : ((l.queue key).push r.timeout r.owner (frames.map .transmit)).pending = 1 := by
    have empty : (l.queue key).requests = [] := h.requests key
    simp [Queue.pending, Queue.push, empty]
  have weight := weight_setQueue_push l key r.timeout r.owner (frames.map .transmit)
  rw [Nat.add_comm 1, ← Nat.add_assoc] at weight
  obtain ⟨made, kept, answer⟩ := stands.performAll
    (inert_activateWithin (l.weight + Move.weights (frames.map .transmit))) frames
  rw [wired] at made kept answer
  unfold Link.request Link.submit Link.submitThen
  simp only [alone, if_true]
  unfold Link.activate
  rw [weight, Link.activateWithin, started]
  simp only
  -- The request has been started. Its frames are sent with what is left to be started.
  generalize l₁.performAll _ _ = performed at made kept answer ⊢
  obtain ⟨result, l₂⟩ := performed
  simp only at made kept answer
  rw [← made]
  cases result with
  | ok done =>
      refine ⟨kept, ?_⟩
      cases first : firstOn key (Transport.sendAll l.wire frames).1 with
      | some frame =>
          rw [first] at answer
          exact answer
      | none =>
          rw [first] at answer
          exact ⟨{ r with moves := none }, rfl, rfl, answer⟩
  | error fault =>
      cases first : firstOn key (Transport.sendAll l.wire frames).1 with
      | some frame =>
          -- It was answered before a later frame was refused.
          rw [first] at answer
          have gone : (l₂.queue key).popTicket? r.ticket = none := by
            cases popped : (l₂.queue key).popTicket? r.ticket with
            | none => rfl
            | some entry =>
                obtain ⟨pop, -⟩ := Queue.popTicket?_eq_some_iff.mp popped
                exact absurd (answer.pop?_eq_some pop).1 nofun
          simp only [gone]
          exact ⟨kept, answer⟩
      | none =>
          rw [first] at answer
          have popped : (l₂.queue key).popTicket? r.ticket =
              some ({ r with moves := none }, { l₂.queue key with requests := [] }) :=
            Queue.popTicket?_eq_some_iff.mpr ⟨answer.pop?, rfl⟩
          have settled := answer.settle (.error fault)
          simp only [popped]
          rw [inert_activateWithin _ _ _ (settled.startHead? key)]
          exact ⟨kept, settled⟩

theorem transmit (h : l.Stands none results) (frame : Frame) :
    (l.transmit frame).1 = (Transport.send l.wire frame).1.map (fun _ => ()) ∧
      (l.transmit frame).2.wire = (Transport.send l.wire frame).2 ∧
      (l.transmit frame).2.Stands none results :=
  h.transmitThen_idle inert_activate frame

/-! ## What else settles the request -/

/-- What may become of the request when something happens that is not its doing: it stays as it is,
or gets one of some results. -/
def Becomes (held : Option (ReplyKey × Request)) (results : List (Nat × Except Fault Frame))
    (possible : ReplyKey → Request → Except Fault Frame → Prop) (l : Link σ) : Prop :=
  l.Stands held results ∨ ∃ key r result, held = some (key, r) ∧ possible key r result ∧
    l.Stands none (results ++ [(r.owner, result)])

theorem receive (h : l.Stands held results) (frame : Frame) :
    (l.receive frame).wire = l.wire ∧
      Becomes held results (fun key _ result =>
        ReplyKey.ofFrame? frame = some key ∧ result = .ok frame) (l.receive frame) := by
  obtain ⟨wire, ⟨key, r, rfl, on, stands⟩ | ⟨-, stands⟩⟩ := h.receiveThen inert_activate frame
  · exact ⟨wire, .inr ⟨key, r, _, rfl, ⟨on, rfl⟩, stands⟩⟩
  · exact ⟨wire, .inl stands⟩

/-- The timer of the request fires. -/
theorem expire_held (h : l.Stands (some (key, r)) results) :
    (l.expire key r.ticket).wire = l.wire ∧ (l.expire key r.ticket).Stands none
      (results ++ [(r.owner, .error (.timeout key.text r.timeout))]) := by
  have popped : (l.queue key).popTicket? r.ticket = some (r, { l.queue key with requests := [] }) :=
    Queue.popTicket?_eq_some_iff.mpr ⟨h.pop?, rfl⟩
  have settled := h.settle (.error (.timeout (l.queue key).label r.timeout))
  unfold Link.expire
  simp only [popped]
  rw [inert_activate _ _ (settled.startHead? key)]
  rw [h.label key] at settled ⊢
  exact ⟨rfl, settled⟩

theorem expire (h : l.Stands held results) (key : ReplyKey) (ticket : Nat) :
    (l.expire key ticket).wire = l.wire ∧
      Becomes held results (fun key r result => result = .error (.timeout key.text r.timeout))
        (l.expire key ticket) := by
  cases popped : (l.queue key).popTicket? ticket with
  | none =>
      unfold Link.expire
      rw [popped]
      exact ⟨rfl, .inl h⟩
  | some entry =>
      obtain ⟨r, q⟩ := entry
      obtain ⟨pop, rfl⟩ := Queue.popTicket?_eq_some_iff.mp popped
      obtain ⟨rfl, rfl⟩ := h.pop?_eq_some pop
      obtain ⟨wire, settled⟩ := h.expire_held
      exact ⟨wire, .inr ⟨key, r, _, rfl, rfl, settled⟩⟩

omit [Transport σ] in
theorem failAll (h : l.Stands held results) (key : ReplyKey) (fault : Fault) :
    (l.failAll key fault).wire = l.wire ∧
      Becomes held results (fun _ _ result => result = .error fault) (l.failAll key fault) := by
  refine ⟨wire_failAll l key fault, ?_⟩
  have label (key' : ReplyKey) : ((l.failAll key fault).queue key').label = key'.text := by
    rw [queue_failAll]
    split
    · rename_i same
      rw [same]
      exact h.label key
    · exact h.label key'
  have journal := journal_failAll l key fault
  rw [h.requests key] at journal
  by_cases own : ∃ r, held = some (key, r)
  · obtain ⟨r, rfl⟩ := own
    refine .inr ⟨key, r, _, rfl, rfl, label, ?_, by nofun, ?_⟩
    · intro key'
      rw [queue_failAll]
      split
      · rfl
      · rename_i other
        rw [h.requests key', heldOn, if_neg other]
        rfl
    · rw [journal, heldOn, if_pos rfl, List.filterMap_append, h.results]
      rfl
  · -- The queue of the key was empty.
    have empty : heldOn held key = [] := by
      unfold heldOn
      split
      · rename_i key' r
        rw [if_neg]
        rintro rfl
        exact own ⟨r, rfl⟩
      · rfl
    refine .inl ⟨label, ?_, h.started, ?_⟩
    · intro key'
      rw [queue_failAll]
      split
      · rename_i same
        rw [same, empty]
      · exact h.requests key'
    · rw [journal, empty, List.map_nil, List.append_nil, h.results]

omit [Transport σ] in
/-- Failing one queue after the other settles the request once. -/
theorem failEvery (queues : List (ReplyKey × Queue)) (fault : Fault) (h : l.Stands held results) :
    (queues.foldl (fun l (key, _) => l.failAll key fault) l).wire = l.wire ∧
      Becomes held results (fun _ _ result => result = .error fault)
        (queues.foldl (fun l (key, _) => l.failAll key fault) l) := by
  induction queues generalizing l held results with
  | nil => exact ⟨rfl, .inl h⟩
  | cons entry rest ih =>
      obtain ⟨wire, stands | ⟨key, r, result, rfl, failed, stands⟩⟩ := h.failAll entry.1 fault
      · obtain ⟨wire', becomes⟩ := ih stands
        exact ⟨wire'.trans wire, becomes⟩
      · obtain ⟨wire', stands' | ⟨_, _, _, held, _⟩⟩ := ih stands
        · exact ⟨wire'.trans wire, .inr ⟨key, r, result, rfl, failed, stands'⟩⟩
        · contradiction

omit [Transport σ] in
theorem close (h : l.Stands held results) :
    l.close.wire = l.wire ∧
      Becomes held results (fun _ _ result => result = .error .closed) l.close :=
  h.failEvery l.queues .closed

end Stands

end Link

end SensorHost
