import SensorHost.Proofs.Exchange.Alone
import SensorHost.Proofs.Exchange.Order

/-!
# Links over one-way transports

Most transports only take frames: what the board answers arrives later, by `Link.receive`. Over such
a transport (`Transport.OneWay`) nothing else happens while a request is started, and what settling
one request does can be told in full. The requests behind it are tried in turn, up to the first whose
frames are all taken (`Transport.Serves`); every other queue, with its timers, stays as it is
(`Link.Served`).

Between operations every queue is `Orderly`: its head is on the wire, and every request behind it
still has all of its frames.
-/

namespace SensorHost

/-- A transport on which nothing comes back while it takes a frame. -/
class Transport.OneWay (σ : Type) [Transport σ] : Prop where
  silent : ∀ (w w' : σ) (frame : Frame) (replies : List Frame),
    Transport.send w frame = (.ok replies, w') → replies = []

theorem Move.weights_transmit (frames : List Frame) : weights (frames.map .transmit) = 0 := by
  induction frames with
  | nil => rfl
  | cons frame rest ih =>
      rw [List.map_cons, weights, ih]
      rfl

namespace Request

/-- The request was not started, and transmits these frames when it is. -/
def Transmits (r : Request) (frames : List Frame) : Prop := r.moves = some (frames.map .transmit)

/-- The request was not started, and does nothing but transmit. -/
def IsPlain (r : Request) : Prop := ∃ frames, r.Transmits frames

/-- The request once it was started. -/
def begun (r : Request) : Request := { r with moves := none }

/-- What the owner of a request is told that could not be sent. -/
def refusal : Request × Fault → Nat × Except Fault Frame := fun (r, fault) => (r.owner, .error fault)

theorem isStarted_begun (r : Request) : r.begun.isStarted = true := rfl

theorem IsPlain.weight {r : Request} (plain : r.IsPlain) : r.weight = 1 := by
  obtain ⟨frames, moves⟩ := plain
  unfold Request.weight
  rw [moves]
  show 1 + Move.weights (frames.map .transmit) = 1
  rw [Move.weights_transmit]

end Request

/-- The head has been started, and the requests behind it do nothing but transmit when they are. -/
def Queue.Orderly (q : Queue) : Prop :=
  ∀ head rest, q.requests = head :: rest → head.isStarted = true ∧ ∀ r ∈ rest, r.IsPlain

namespace Transport

variable {σ : Type} [Transport σ]

/-- Requests that wait are tried in order: those of `refused`, each with a frame that the transport
did not take, and then one whose frames were all taken, if there is one. That one and those behind it
are left. -/
inductive Serves : σ → List Request → List (Request × Fault) → List Request → σ → Prop
  | none {w : σ} : Serves w [] [] [] w
  | taken {w : σ} {r : Request} {frames : List Frame} {rest : List Request} :
    r.Transmits frames → (sendAll w frames).2.1 = .ok () →
    Serves w (r :: rest) [] (r.begun :: rest) (sendAll w frames).2.2
  | refused {w w' : σ} {r : Request} {frames : List Frame} {fault : Fault}
      {rest left : List Request} {refused : List (Request × Fault)} :
    r.Transmits frames → (sendAll w frames).2.1 = .error fault →
    Serves (sendAll w frames).2.2 rest refused left w' →
    Serves w (r :: rest) ((r, fault) :: refused) left w'

/-- What is left of requests that wait is an orderly queue. -/
theorem Serves.orderly {w w' : σ} {waiting left : List Request} {refused : List (Request × Fault)}
    (serves : Serves w waiting refused left w') (plain : ∀ r ∈ waiting, r.IsPlain) :
    ∀ head rest, left = head :: rest → head.isStarted = true ∧ ∀ r ∈ rest, r.IsPlain := by
  induction serves with
  | none => nofun
  | taken _ _ =>
      rintro _ _ ⟨rfl, rfl⟩
      exact ⟨Request.isStarted_begun _, (List.forall_mem_cons.mp plain).2⟩
  | refused _ _ _ ih => exact ih (List.forall_mem_cons.mp plain).2

end Transport

namespace Link

variable {σ : Type} {l l' : Link σ} {key : ReplyKey} {r : Request}

/-- A request of this key is on the wire. -/
def InFlight (l : Link σ) (key : ReplyKey) (r : Request) : Prop :=
  r ∈ (l.queue key).requests ∧ r.isStarted = true

/-- Every queue is orderly. -/
def Orderly (l : Link σ) : Prop := ∀ key, (l.queue key).Orderly

/-- On an orderly link a request that is on the wire is the head of its queue. -/
theorem Orderly.head_of_inFlight (h : l.Orderly) (inFlight : l.InFlight key r) :
    ∃ rest, (l.queue key).requests = r :: rest := by
  obtain ⟨mem, started⟩ := inFlight
  cases requests : (l.queue key).requests with
  | nil =>
      rw [requests] at mem
      contradiction
  | cons head rest =>
      rw [requests] at mem
      rcases List.mem_cons.mp mem with rfl | behind
      · exact ⟨rest, rfl⟩
      · obtain ⟨frames, moves⟩ := (h key head rest requests).2 r behind
        rw [Request.isStarted, moves] at started
        contradiction

theorem Orderly.inFlight_of_head (h : l.Orderly) {rest : List Request}
    (requests : (l.queue key).requests = r :: rest) : l.InFlight key r := by
  refine ⟨?_, (h key r rest requests).1⟩
  rw [requests]
  exact List.mem_cons_self

/-! ## Serving a queue -/

/-- Requests of one key were settled with these results, and those are left. Nothing else changed but
the transport. -/
structure Served (key : ReplyKey) (l : Link σ) (results : List (Nat × Except Fault Frame))
    (left : List Request) (l' : Link σ) : Prop where
  queue : l'.queue key = { l.queue key with requests := left }
  others : ∀ key', key' ≠ key → l'.queue key' = l.queue key'
  timers : l'.timers.filter (·.key ≠ key) = l.timers.filter (·.key ≠ key)
  journal : ∃ events, l'.journal = l.journal ++ events ∧
    events.filterMap LinkEvent.outcome? = results ∧ ∀ frame, .unclaimed frame ∉ events

namespace Served

theorem refl (l : Link σ) (key : ReplyKey) : Served key l [] (l.queue key).requests l :=
  ⟨rfl, fun _ _ => rfl, rfl, [], (List.append_nil _).symm, rfl, fun _ => nofun⟩

variable {results : List (Nat × Except Fault Frame)} {left : List Request}

theorem rewire (h : Served key l results left l') (wire : σ) :
    Served key l results left { l' with wire } :=
  ⟨h.queue, h.others, h.timers, h.journal⟩

theorem trans {l₁ : Link σ} {results' : List (Nat × Except Fault Frame)} {left' : List Request}
    (first : Served key l results left l₁) (second : Served key l₁ results' left' l') :
    Served key l (results ++ results') left' l' := by
  obtain ⟨events, journal, outcomes, claimed⟩ := first.journal
  obtain ⟨events', journal', outcomes', claimed'⟩ := second.journal
  refine ⟨?_, fun key' other => ?_, second.timers.trans first.timers, events ++ events', ?_, ?_, ?_⟩
  · rw [second.queue, first.queue]
  · rw [second.others key' other, first.others key' other]
  · rw [journal', journal, List.append_assoc]
  · rw [List.filterMap_append, outcomes, outcomes']
  · intro frame mem
    rcases List.mem_append.mp mem with mem | mem
    · exact claimed frame mem
    · exact claimed' frame mem

theorem orderly (h : Served key l results left l') (others : ∀ key', key' ≠ key → (l.queue key').Orderly)
    (kept : ∀ head rest, left = head :: rest → head.isStarted = true ∧ ∀ r ∈ rest, r.IsPlain) :
    l'.Orderly := by
  intro key'
  by_cases same : key' = key
  · subst same
    rw [h.queue]
    exact kept
  · rw [h.others key' same]
    exact others key' same

end Served

/-- The head of a queue is started. -/
theorem served_startHead? {rest : List Request} {moves : List Move}
    (requests : (l.queue key).requests = r :: rest) (unstarted : r.moves = some moves) :
    ∃ l₁, l.startHead? key = some (r, moves, l₁) ∧ l₁.wire = l.wire ∧
      Served key l [] (r.begun :: rest) l₁ := by
  have start : (l.queue key).start? =
      some (r, moves, { l.queue key with requests := r.begun :: rest }) :=
    Queue.start?_eq_some_iff.mpr ⟨rest, requests, unstarted, rfl⟩
  unfold startHead?
  rw [start]
  refine ⟨_, rfl, rfl, ?_, fun key' other => ?_, ?_, [.started key r.ticket r.owner], rfl, rfl, ?_⟩
  · exact (queue_setQueue l key key _).trans (if_pos rfl)
  · exact (queue_setQueue l key key' _).trans (if_neg other)
  · show (l.timers ++ [_]).filter _ = _
    rw [List.filter_append]
    simp
  · intro frame mem
    exact nomatch List.mem_singleton.mp mem

/-- The head of a queue leaves it with a result. -/
theorem served_settle (l : Link σ) (key : ReplyKey) (r : Request) (rest : List Request)
    (result : Except Fault Frame) :
    Served key l [(r.owner, result)] rest
      ((l.setQueue key { l.queue key with requests := rest }).settle key r result) := by
  refine ⟨?_, fun key' other => ?_, ?_, [.settled key r.ticket r.owner result], rfl, rfl, ?_⟩
  · exact (queue_setQueue l key key _).trans (if_pos rfl)
  · exact (queue_setQueue l key key' _).trans (if_neg other)
  · show (l.timers.filter _).filter _ = _
    rw [List.filter_filter]
    congr 1
    funext t
    by_cases same : t.key = key <;> simp [same]
  · intro frame mem
    exact nomatch List.mem_singleton.mp mem

variable [Transport σ]

/-- While frames are sent to which nothing comes back, nothing happens on the link but that. -/
theorem performAll_unanswered (resume : ReplyKey → Link σ → Link σ) {l : Link σ}
    {frames : List Frame} (nothing : (Transport.sendAll l.wire frames).1 = []) :
    l.performAll resume (frames.map .transmit) =
      ((Transport.sendAll l.wire frames).2.1,
        { l with wire := (Transport.sendAll l.wire frames).2.2 }) := by
  induction frames generalizing l with
  | nil => rfl
  | cons frame rest ih =>
      rw [List.map_cons, performAll, perform, transmitThen, Transport.sendAll]
      rw [Transport.sendAll] at nothing
      cases sent : Transport.send l.wire frame with
      | mk result wire =>
        cases result with
        | error fault => rfl
        | ok replies =>
            rw [sent] at nothing
            obtain ⟨rfl, nothing⟩ := List.append_eq_nil_iff.mp nothing
            exact ih (l := { l with wire }) nothing

/-- A frame on a key without requests is noted, and nothing else happens. -/
theorem receive_of_empty (empty : (l.queue key).requests = []) {frame : Frame}
    (on : ReplyKey.ofFrame? frame = some key) : l.receive frame = l.note (.unclaimed frame) := by
  have popped : (l.queue key).popStarted? = none := by
    simp only [Queue.popStarted?, Queue.pop?, empty, Option.filter_none]
  simp only [Link.receive, receiveThen, dispatchThen, on, completeThen, popped]

variable [Transport.OneWay σ]

theorem sendAll_silent (wire : σ) (frames : List Frame) :
    (Transport.sendAll wire frames).1 = [] := by
  induction frames generalizing wire with
  | nil => rfl
  | cons frame rest ih =>
      rw [Transport.sendAll]
      cases sent : Transport.send wire frame with
      | mk result wire' =>
        cases result with
        | error fault => rfl
        | ok replies =>
            obtain rfl := Transport.OneWay.silent _ _ _ _ sent
            exact ih wire'

omit [Transport.OneWay σ] in
theorem activateWithin_taken {fuel : Nat} {moves : List Move} {l₁ l₂ : Link σ}
    (start : l.startHead? key = some (r, moves, l₁))
    (taken : l₁.performAll (activateWithin fuel) moves = (.ok (), l₂)) :
    activateWithin (fuel + 1) key l = l₂ := by
  rw [activateWithin, start]
  simp only [taken]

omit [Transport.OneWay σ] in
theorem activateWithin_refused {fuel : Nat} {moves : List Move} {l₁ l₂ : Link σ} {fault : Fault}
    {r' : Request} {q : Queue} (start : l.startHead? key = some (r, moves, l₁))
    (refused : l₁.performAll (activateWithin fuel) moves = (.error fault, l₂))
    (popped : (l₂.queue key).popTicket? r.ticket = some (r', q)) :
    activateWithin (fuel + 1) key l =
      activateWithin fuel key ((l₂.setQueue key q).settle key r' (.error fault)) := by
  rw [activateWithin, start]
  simp only [refused, popped]

/-- Requests that wait are started in turn until the frames of one are all taken. The induction is on
the requests; the fuel lasts for as many as there are. -/
theorem served_activateWithin {waiting : List Request} {fuel : Nat}
    (requests : (l.queue key).requests = waiting) (plain : ∀ r ∈ waiting, r.IsPlain)
    (enough : waiting.length ≤ fuel) :
    ∃ refused left, Transport.Serves l.wire waiting refused left (activateWithin fuel key l).wire ∧
      Served key l (refused.map Request.refusal) left (activateWithin fuel key l) := by
  induction waiting generalizing l fuel with
  | nil =>
      have idle : l.startHead? key = none := by
        rw [startHead?_eq_none_iff, Queue.start?_eq_none_iff, requests]
        nofun
      rw [inert_activateWithin fuel key l idle]
      have served := Served.refl l key
      rw [requests] at served
      exact ⟨[], [], .none, served⟩
  | cons r rest ih =>
      obtain ⟨fuel, rfl⟩ : ∃ n, fuel = n + 1 :=
        Nat.exists_eq_add_one.mpr (Nat.lt_of_lt_of_le (Nat.succ_pos _) enough)
      obtain ⟨⟨frames, moves⟩, plain⟩ := List.forall_mem_cons.mp plain
      obtain ⟨l₁, start, wire, started⟩ := served_startHead? requests moves
      obtain ⟨l₂, wire₂, performed, started⟩ : ∃ l₂ : Link σ,
          l₂.wire = (Transport.sendAll l.wire frames).2.2 ∧
          l₁.performAll (activateWithin fuel) (frames.map .transmit) =
            ((Transport.sendAll l.wire frames).2.1, l₂) ∧
          Served key l [] (r.begun :: rest) l₂ := by
        refine ⟨_, rfl, ?_, started.rewire _⟩
        rw [performAll_unanswered _ (sendAll_silent _ _), wire]
      cases result : (Transport.sendAll l.wire frames).2.1 with
      | ok done =>
          rw [result] at performed
          rw [activateWithin_taken start performed, wire₂]
          exact ⟨[], _, .taken moves result, started⟩
      | error fault =>
          -- The request leaves the queue again, and the next one is tried.
          rw [result] at performed
          have popped : (l₂.queue key).popTicket? r.ticket =
              some (r.begun, { l₂.queue key with requests := rest }) := by
            rw [Queue.popTicket?_eq_some_iff, Queue.pop?_eq_some_iff, started.queue]
            exact ⟨⟨rest, rfl, rfl⟩, rfl⟩
          rw [activateWithin_refused start performed popped]
          have refused := started.trans (served_settle l₂ key r.begun rest (.error fault))
          obtain ⟨others, left, serves, served⟩ :=
            ih (congrArg Queue.requests refused.queue) plain (Nat.le_of_succ_le_succ enough)
          rw [show ((l₂.setQueue key _).settle key _ _).wire = _ from wire₂] at serves
          exact ⟨(r, fault) :: others, left, .refused moves result serves, refused.trans served⟩

omit [Transport σ] [Transport.OneWay σ] in
/-- A link weighs at least as much as one queue of it. -/
theorem length_le_weight (plain : ∀ r ∈ (l.queue key).requests, r.IsPlain) :
    (l.queue key).requests.length ≤ l.weight := by
  have emptied := weight_setQueue l key (.new key.text)
  have counted : (l.queue key).weight = (l.queue key).requests.length := by
    unfold Queue.weight
    generalize (l.queue key).requests = requests at plain
    induction requests with
    | nil => rfl
    | cons r rest ih =>
        obtain ⟨first, plain⟩ := List.forall_mem_cons.mp plain
        rw [total_cons, first.weight, ih plain, List.length_cons]
        omega
  have nothing : (Queue.new key.text).weight = 0 := rfl
  omega

theorem served_activate {waiting : List Request} (requests : (l.queue key).requests = waiting)
    (plain : ∀ r ∈ waiting, r.IsPlain) :
    ∃ refused left, Transport.Serves l.wire waiting refused left (activate key l).wire ∧
      Served key l (refused.map Request.refusal) left (activate key l) := by
  subst requests
  exact served_activateWithin rfl plain (length_le_weight plain)

namespace Orderly

/-- The head of a queue is settled, and the requests behind it are served. -/
theorem settled (h : l.Orderly) {rest : List Request} (requests : (l.queue key).requests = r :: rest)
    (result : Except Fault Frame) {l' : Link σ} (settles : l' = activate key
      ((l.setQueue key { l.queue key with requests := rest }).settle key r result)) :
    ∃ refused left, Transport.Serves l.wire rest refused left l'.wire ∧
      Served key l ((r.owner, result) :: refused.map Request.refusal) left l' := by
  subst settles
  have settled := served_settle l key r rest result
  obtain ⟨refused, left, serves, served⟩ :=
    served_activate (congrArg Queue.requests settled.queue) (h key r rest requests).2
  exact ⟨refused, left, serves, settled.trans served⟩

/-- A frame on the key of a request on the wire settles that request. -/
theorem receive_inFlight (h : l.Orderly) {frame : Frame} (on : ReplyKey.ofFrame? frame = some key)
    {rest : List Request} (requests : (l.queue key).requests = r :: rest) :
    ∃ refused left, Transport.Serves l.wire rest refused left (l.receive frame).wire ∧
      Served key l ((r.owner, .ok frame) :: refused.map Request.refusal) left (l.receive frame) := by
  have popped : (l.queue key).popStarted? = some (r, { l.queue key with requests := rest }) :=
    Queue.popStarted?_eq_some_iff.mpr
      ⟨Queue.pop?_eq_some_iff.mpr ⟨rest, requests, rfl⟩, (h key r rest requests).1⟩
  refine h.settled requests (.ok frame) ?_
  simp only [Link.receive, receiveThen, dispatchThen, on, completeThen, popped]

omit [Transport.OneWay σ] in
/-- Any other frame is noted, and nothing else happens. -/
theorem receive_unclaimed (h : l.Orderly) {frame : Frame}
    (unawaited : ∀ key r, ReplyKey.ofFrame? frame = some key → ¬ l.InFlight key r) :
    l.receive frame = l.note (.unclaimed frame) := by
  cases on : ReplyKey.ofFrame? frame with
  | none => simp only [Link.receive, receiveThen, dispatchThen, on]
  | some key =>
      cases requests : (l.queue key).requests with
      | nil => exact receive_of_empty requests on
      | cons r rest => exact absurd (h.inFlight_of_head requests) (unawaited key r on)

/-! ## What keeps the queues orderly -/

omit [Transport σ] [Transport.OneWay σ] in
theorem of_queues (h : l.Orderly) (same : ∀ key, l'.queue key = l.queue key) : l'.Orderly := by
  intro key
  rw [same key]
  exact h key

omit [Transport.OneWay σ] in
theorem served (h : l.Orderly) {rest : List Request} (requests : (l.queue key).requests = r :: rest)
    {results : List (Nat × Except Fault Frame)} {refused : List (Request × Fault)}
    {left : List Request} (serves : Transport.Serves l.wire rest refused left l'.wire)
    (served : Served key l results left l') : l'.Orderly :=
  served.orderly (fun key' _ => h key') (serves.orderly (h key r rest requests).2)

theorem receive (h : l.Orderly) (frame : Frame) : (l.receive frame).Orderly := by
  by_cases awaited : ∃ key r, ReplyKey.ofFrame? frame = some key ∧ l.InFlight key r
  · obtain ⟨key, r, on, inFlight⟩ := awaited
    obtain ⟨rest, requests⟩ := h.head_of_inFlight inFlight
    obtain ⟨refused, left, serves, served⟩ := h.receive_inFlight on requests
    exact h.served requests serves served
  · rw [h.receive_unclaimed fun key r on inFlight => awaited ⟨key, r, on, inFlight⟩]
    exact h.of_queues fun _ => rfl

theorem expire (h : l.Orderly) (key : ReplyKey) (ticket : Nat) : (l.expire key ticket).Orderly := by
  unfold Link.expire
  cases popped : (l.queue key).popTicket? ticket with
  | none => exact h
  | some entry =>
      obtain ⟨r, q⟩ := entry
      obtain ⟨pop, -⟩ := Queue.popTicket?_eq_some_iff.mp popped
      obtain ⟨rest, requests, rfl⟩ := Queue.pop?_eq_some_iff.mp pop
      obtain ⟨refused, left, serves, served⟩ := h.settled requests _ rfl
      exact h.served requests serves served

theorem transmit (h : l.Orderly) (frame : Frame) : (l.transmit frame).2.Orderly := by
  unfold Link.transmit transmitThen
  cases sent : Transport.send l.wire frame with
  | mk result wire =>
    cases result with
    | error fault => exact h.of_queues fun _ => rfl
    | ok replies =>
        obtain rfl := Transport.OneWay.silent _ _ _ _ sent
        exact h.of_queues fun _ => rfl

/-- A request that is queued is started at once if it is alone, and waits otherwise. -/
theorem request (h : l.Orderly) (key : ReplyKey) (timeout owner : Nat) (frames : List Frame) :
    (l.request key timeout owner frames).Orderly := by
  let r : Request := ⟨(l.queue key).nextTicket, owner, timeout, some (frames.map .transmit)⟩
  let l₁ := l.setQueue key ((l.queue key).push timeout owner (frames.map .transmit))
  have plain : r.IsPlain := ⟨frames, rfl⟩
  have own : (l₁.queue key).requests = (l.queue key).requests ++ [r] :=
    congrArg Queue.requests ((queue_setQueue l key key _).trans (if_pos rfl))
  have others (key' : ReplyKey) (other : key' ≠ key) : (l₁.queue key').Orderly := by
    rw [queue_setQueue, if_neg other]
    exact h key'
  unfold Link.request Link.submit submitThen
  cases requests : (l.queue key).requests with
  | nil =>
      rw [requests, List.nil_append] at own
      rw [if_pos (by simp [Queue.pending, Queue.push, requests])]
      obtain ⟨refused, left, serves, served⟩ :=
        served_activate own (List.forall_mem_singleton.mpr plain)
      exact served.orderly others (serves.orderly (List.forall_mem_singleton.mpr plain))
  | cons head rest =>
      rw [requests] at own
      rw [if_neg (by simp [Queue.pending, Queue.push, requests])]
      intro key'
      by_cases same : key' = key
      · subst same
        intro _ _ split
        obtain ⟨rfl, rfl⟩ := List.cons.inj (own.symm.trans split)
        obtain ⟨started, waiting⟩ := h key' head rest requests
        exact ⟨started, List.forall_mem_append.mpr ⟨waiting, List.forall_mem_singleton.mpr plain⟩⟩
      · exact others key' same

omit [Transport σ] [Transport.OneWay σ] in
theorem close (h : l.Orderly) : l.close.Orderly := by
  unfold Link.close
  generalize l.queues = queues
  induction queues generalizing l with
  | nil => exact h
  | cons entry rest ih =>
      refine ih fun key => ?_
      rw [queue_failAll]
      split
      · nofun
      · exact h key

end Orderly

end Link

end SensorHost
