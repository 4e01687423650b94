import SensorHost.Proofs.Exchange.OneWay

/-!
# Where answers come from

Many owners ask on one link, each of them always on the same key. Whatever comes back, at once or
later, and in whatever order requests are sent, refused and timed out, an owner is only ever given
frames of its key. `Link.Addressed` is the invariant: it follows a request from its queue to its
result, also through the answers that arrive while other requests are being sent.

Nothing is asked of the transport, so that a board may answer whatever it likes, whenever it likes.
-/

namespace SensorHost.Link

variable {σ : Type} {keyOf : Nat → ReplyKey} {l : Link σ} {key : ReplyKey}

/-- Every request waits on the key of its owner and does nothing but transmit, and every frame that
an owner was given belongs to its key. -/
structure Addressed (keyOf : Nat → ReplyKey) (l : Link σ) : Prop where
  waiting : ∀ key, ∀ r ∈ (l.queue key).requests,
    keyOf r.owner = key ∧ (r.isStarted = false → r.IsPlain)
  answered : ∀ key ticket owner frame, .settled key ticket owner (.ok frame) ∈ l.journal →
    ReplyKey.ofFrame? frame = some (keyOf owner)

theorem addressed_new (keyOf : Nat → ReplyKey) (wire : σ) (now : Nat) (runtime : Runtime) :
    (new wire now runtime).Addressed keyOf where
  waiting := by
    intro key r mem
    contradiction
  answered := by
    intro key ticket owner frame mem
    contradiction

namespace Addressed

/-! ## Primitive changes -/

/-- Queues that lose requests or get requests of their owners. -/
theorem setQueue (h : l.Addressed keyOf) {q : Queue}
    (requests : ∀ r ∈ q.requests, keyOf r.owner = key ∧ (r.isStarted = false → r.IsPlain)) :
    (l.setQueue key q).Addressed keyOf := by
  refine ⟨fun key' r mem => ?_, h.answered⟩
  rw [queue_setQueue] at mem
  split at mem
  · rename_i same
    rw [same]
    exact requests r mem
  · exact h.waiting key' r mem

theorem note (h : l.Addressed keyOf) {event : LinkEvent}
    (honest : ∀ key ticket owner frame, event = .settled key ticket owner (.ok frame) →
      ReplyKey.ofFrame? frame = some (keyOf owner)) : (l.note event).Addressed keyOf := by
  refine ⟨h.waiting, fun key ticket owner frame mem => ?_⟩
  rcases List.mem_append.mp mem with mem | mem
  · exact h.answered key ticket owner frame mem
  · exact honest key ticket owner frame (List.mem_singleton.mp mem).symm

theorem note_started (h : l.Addressed keyOf) (key : ReplyKey) (ticket owner : Nat) :
    (l.note (.started key ticket owner)).Addressed keyOf := by
  apply h.note
  intro key ticket owner frame same
  contradiction

theorem note_unclaimed (h : l.Addressed keyOf) (frame : Frame) :
    (l.note (.unclaimed frame)).Addressed keyOf := by
  apply h.note
  intro key ticket owner frame same
  contradiction

/-- The head of a queue gets a result; a frame has to belong to the key. -/
theorem settle_pop (h : l.Addressed keyOf) {r : Request} {q : Queue}
    (pop : (l.queue key).pop? = some (r, q)) {result : Except Fault Frame}
    (on : ∀ frame, result = .ok frame → ReplyKey.ofFrame? frame = some key) :
    ((l.setQueue key q).settle key r result).Addressed keyOf := by
  obtain ⟨rest, requests, rfl⟩ := Queue.pop?_eq_some_iff.mp pop
  have waiting := h.waiting key
  rw [requests, List.forall_mem_cons] at waiting
  have removed : (l.setQueue key { l.queue key with requests := rest }).Addressed keyOf :=
    h.setQueue waiting.2
  have noted : ((l.setQueue key { l.queue key with requests := rest }).note
      (.settled key r.ticket r.owner result)).Addressed keyOf := by
    refine removed.note fun key' ticket owner frame same => ?_
    obtain ⟨rfl, rfl, rfl, rfl⟩ := LinkEvent.settled.inj same
    rw [waiting.1.1]
    exact on frame rfl
  exact ⟨noted.waiting, noted.answered⟩

/-- The head of a queue is started; it transmits frames. -/
theorem startHead? (h : l.Addressed keyOf) {r : Request} {moves : List Move} {l' : Link σ}
    (start : l.startHead? key = some (r, moves, l')) :
    (∃ frames : List Frame, moves = frames.map .transmit) ∧ l'.Addressed keyOf := by
  obtain ⟨q, taken, rfl⟩ := startHead?_eq_some start
  obtain ⟨rest, requests, unstarted, rfl⟩ := Queue.start?_eq_some_iff.mp taken
  have waiting := h.waiting key
  rw [requests, List.forall_mem_cons] at waiting
  obtain ⟨⟨own, plain⟩, others⟩ := waiting
  obtain ⟨frames, transmits⟩ := plain (by rw [Request.isStarted, unstarted]; rfl)
  refine ⟨⟨frames, Option.some.inj (unstarted.symm.trans transmits)⟩, ?_⟩
  have begun : (l.setQueue key { l.queue key with
      requests := { r with moves := none } :: rest }).Addressed keyOf :=
    h.setQueue (List.forall_mem_cons.mpr ⟨⟨own, by simp [Request.isStarted]⟩, others⟩)
  have noted := begun.note_started key r.ticket r.owner
  exact ⟨noted.waiting, noted.answered⟩

theorem failAll (h : l.Addressed keyOf) (key : ReplyKey) (fault : Fault) :
    (l.failAll key fault).Addressed keyOf := by
  refine ⟨fun key' r mem => ?_, fun key' ticket owner frame mem => ?_⟩
  · rw [queue_failAll] at mem
    split at mem
    · contradiction
    · exact h.waiting key' r mem
  · rw [journal_failAll] at mem
    rcases List.mem_append.mp mem with mem | mem
    · exact h.answered key' ticket owner frame mem
    · simp at mem

theorem rewire (h : l.Addressed keyOf) (wire : σ) : ({ l with wire } : Link σ).Addressed keyOf :=
  ⟨h.waiting, h.answered⟩

/-! ## While a request is being sent -/

section Resuming

variable {resume : ReplyKey → Link σ → Link σ}
  (resumes : ∀ key l, l.Addressed keyOf → (resume key l).Addressed keyOf)
include resumes

theorem receiveThen (h : l.Addressed keyOf) (frame : Frame) :
    (l.receiveThen resume frame).Addressed keyOf := by
  have unclaimed := h.note_unclaimed frame
  unfold Link.receiveThen dispatchThen
  cases on : ReplyKey.ofFrame? frame with
  | none => exact unclaimed
  | some key =>
      simp only [completeThen]
      cases popped : (l.queue key).popStarted? with
      | none => exact unclaimed
      | some entry =>
          obtain ⟨pop, -⟩ := Queue.popStarted?_eq_some_iff.mp popped
          refine resumes key _ (h.settle_pop pop fun reply same => ?_)
          rw [← Except.ok.inj same]
          exact on

theorem receiveAll (h : l.Addressed keyOf) (frames : List Frame) :
    (frames.foldl (Link.receiveThen resume) l).Addressed keyOf := by
  induction frames generalizing l with
  | nil => exact h
  | cons frame rest ih => exact ih (h.receiveThen resumes frame)

theorem transmitThen [Transport σ] (h : l.Addressed keyOf) (frame : Frame) :
    (l.transmitThen resume frame).2.Addressed keyOf := by
  unfold Link.transmitThen
  split
  · exact h.rewire _
  · rename_i replies wire _
    exact (h.rewire wire).receiveAll resumes replies

theorem transmitAll [Transport σ] (h : l.Addressed keyOf) (frames : List Frame) :
    (l.performAll resume (frames.map .transmit)).2.Addressed keyOf := by
  induction frames generalizing l with
  | nil => exact h
  | cons frame rest ih =>
      have sent := h.transmitThen resumes frame
      rw [List.map_cons, performAll, perform]
      split <;> rename_i eq <;> rw [eq] at sent
      · exact sent
      · exact ih sent

end Resuming

variable [Transport σ]

/-- The induction is on the number of requests that may be started. -/
theorem activateWithin (fuel : Nat) (key : ReplyKey) (h : l.Addressed keyOf) :
    (Link.activateWithin fuel key l).Addressed keyOf := by
  induction fuel generalizing l key with
  | zero => exact h
  | succ fuel ih =>
      unfold Link.activateWithin
      split
      · exact h
      · rename_i r moves l₁ start
        obtain ⟨⟨frames, rfl⟩, started⟩ := h.startHead? start
        have sent := started.transmitAll (fun key l h => ih key h) frames
        split <;> rename_i eq <;> rw [eq] at sent
        · exact sent
        · split
          · exact sent
          · rename_i popped
            obtain ⟨pop, -⟩ := Queue.popTicket?_eq_some_iff.mp popped
            refine ih key (sent.settle_pop pop ?_)
            intro reply same
            contradiction

theorem activate (h : l.Addressed keyOf) (key : ReplyKey) : (l.activate key).Addressed keyOf :=
  h.activateWithin l.weight key

/-! ## Operations -/

theorem receive (h : l.Addressed keyOf) (frame : Frame) : (l.receive frame).Addressed keyOf :=
  h.receiveThen (fun key _ h => h.activate key) frame

theorem transmit (h : l.Addressed keyOf) (frame : Frame) : (l.transmit frame).2.Addressed keyOf :=
  h.transmitThen (fun key _ h => h.activate key) frame

/-- An owner asks on its key. -/
theorem request (h : l.Addressed keyOf) (timeout : Nat) {owner : Nat} (own : keyOf owner = key)
    (frames : List Frame) : (l.request key timeout owner frames).Addressed keyOf := by
  have queued : (l.setQueue key
      ((l.queue key).push timeout owner (frames.map .transmit))).Addressed keyOf := by
    refine h.setQueue fun r mem => ?_
    rcases List.mem_append.mp mem with mem | mem
    · exact h.waiting key r mem
    · rw [List.mem_singleton.mp mem]
      exact ⟨own, fun _ => ⟨frames, rfl⟩⟩
  unfold Link.request submit submitThen
  simp only
  split
  · exact queued.activate key
  · exact queued

theorem expire (h : l.Addressed keyOf) (key : ReplyKey) (ticket : Nat) :
    (l.expire key ticket).Addressed keyOf := by
  unfold Link.expire
  split
  · exact h
  · rename_i popped
    obtain ⟨pop, -⟩ := Queue.popTicket?_eq_some_iff.mp popped
    refine Addressed.activate (h.settle_pop pop ?_) key
    intro reply same
    contradiction

omit [Transport σ] in
theorem close (h : l.Addressed keyOf) : l.close.Addressed keyOf := by
  unfold Link.close
  generalize l.queues = queues
  induction queues generalizing l with
  | nil => exact h
  | cons entry rest ih => exact ih (h.failAll entry.1 .closed)

end Addressed

end SensorHost.Link
