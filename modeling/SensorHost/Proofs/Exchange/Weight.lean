import SensorHost.Exchange.Link

/-!
# The weight of a link

`Link.weight` counts the requests that may still be started: those that wait, and those that they
may queue in turn. Starting a request takes it, and what it may queue, out of the count; queueing
one puts it in; nothing else that happens to a link makes the count grow. This is what bounds the
recursion of `activateWithin`.
-/

namespace SensorHost

namespace Queue

variable {q q' : Queue} {r : Request} {moves : List Move}

theorem weight_push (q : Queue) (timeout owner : Nat) (moves : List Move) :
    (q.push timeout owner moves).weight = q.weight + (1 + Move.weights moves) := by
  unfold weight push
  rw [total_append]
  rfl

/-- The head that is started, and the queue that is left. -/
theorem start?_eq_some_iff :
    q.start? = some (r, moves, q') ↔
      ∃ rest, q.requests = r :: rest ∧ r.moves = some moves ∧
        q' = { q with requests := { r with moves := none } :: rest } := by
  unfold start?
  constructor
  · intro h
    split at h
    · contradiction
    · rename_i head rest requests
      split at h
      · contradiction
      · rename_i taken unstarted
        obtain ⟨rfl, rfl, rfl⟩ : head = r ∧ taken = moves ∧ _ = q' := by
          simpa using h
        exact ⟨rest, requests, unstarted, rfl⟩
  · rintro ⟨rest, requests, unstarted, rfl⟩
    rw [requests]
    simp only [unstarted]

theorem start?_eq_none_iff :
    q.start? = none ↔ ∀ head rest, q.requests = head :: rest → head.isStarted = true := by
  unfold start? Request.isStarted
  cases requests : q.requests with
  | nil => simp
  | cons head rest =>
      cases moves : head.moves with
      | none =>
          simp only [moves, true_iff]
          rintro _ _ ⟨rfl, rfl⟩
          rw [moves]
          rfl
      | some taken =>
          simp only [moves, reduceCtorEq, false_iff]
          intro started
          have := started head rest rfl
          rw [moves] at this
          contradiction

theorem pop?_eq_some_iff :
    q.pop? = some (r, q') ↔ ∃ rest, q.requests = r :: rest ∧ q' = { q with requests := rest } := by
  unfold pop?
  cases q.requests with
  | nil => simp
  | cons head rest =>
      simp only [Option.some.injEq, Prod.mk.injEq, List.cons.injEq]
      constructor
      · rintro ⟨rfl, rfl⟩
        exact ⟨rest, ⟨rfl, rfl⟩, rfl⟩
      · rintro ⟨_, ⟨rfl, rfl⟩, rfl⟩
        exact ⟨rfl, rfl⟩

theorem popStarted?_eq_some_iff :
    q.popStarted? = some (r, q') ↔ q.pop? = some (r, q') ∧ r.isStarted = true := by
  unfold popStarted?
  rw [Option.filter_eq_some_iff]

theorem popTicket?_eq_some_iff {ticket : Nat} :
    q.popTicket? ticket = some (r, q') ↔ q.pop? = some (r, q') ∧ r.ticket = ticket := by
  unfold popTicket?
  rw [Option.filter_eq_some_iff]
  simp

theorem weight_start? (h : q.start? = some (r, moves, q')) :
    q'.weight + (1 + Move.weights moves) = q.weight := by
  obtain ⟨rest, requests, unstarted, rfl⟩ := start?_eq_some_iff.mp h
  simp only [weight, requests, total_cons, Request.weight, unstarted]
  omega

theorem weight_pop? (h : q.pop? = some (r, q')) : q'.weight ≤ q.weight := by
  obtain ⟨rest, requests, rfl⟩ := pop?_eq_some_iff.mp h
  simp only [weight, requests, total_cons]
  omega

theorem start?_of_weight (h : q.weight = 0) : q.start? = none := by
  rw [start?_eq_none_iff]
  intro head rest requests
  unfold Request.isStarted
  cases moves : head.moves with
  | none => rfl
  | some taken =>
      simp only [weight, requests, total_cons, Request.weight, moves] at h
      omega

end Queue

namespace Link

variable {σ : Type} {l l' : Link σ} {key : ReplyKey} {r : Request} {moves : List Move}

theorem total_replaced (key : ReplyKey) (q : Queue) (queues : List (ReplyKey × Queue)) :
    total (fun entry => entry.2.weight) (replaced key q queues) +
        ((queues.lookup key).getD (.new key.text)).weight =
      total (fun entry => entry.2.weight) queues + q.weight := by
  induction queues with
  | nil =>
      show q.weight + 0 + 0 = 0 + q.weight
      omega
  | cons entry rest ih =>
      obtain ⟨key', q'⟩ := entry
      unfold replaced
      by_cases same : key = key'
      · subst same
        simp only [beq_self_eq_true, if_true, List.lookup_cons, total_cons, Option.getD_some]
        omega
      · have differs : (key == key') = false := beq_eq_false_iff_ne.mpr same
        simp only [differs, Bool.false_eq_true, if_false, List.lookup_cons, total_cons]
        omega

/-- A queue counts with its own weight. -/
theorem weight_setQueue (l : Link σ) (key : ReplyKey) (q : Queue) :
    (l.setQueue key q).weight + (l.queue key).weight = l.weight + q.weight :=
  total_replaced key q l.queues

theorem startHead?_eq_some (h : l.startHead? key = some (r, moves, l')) :
    ∃ q, (l.queue key).start? = some (r, moves, q) ∧
      l' = { (l.setQueue key q).note (.started key r.ticket r.owner) with
        timers := l.timers ++ [⟨l.nextTimer, key, r.ticket, l.runtime.wakes l.now r.timeout⟩]
        nextTimer := l.nextTimer + 1 } := by
  unfold startHead? at h
  split at h
  · contradiction
  · rename_i r' moves' q start
    obtain ⟨rfl, rfl, rfl⟩ : r' = r ∧ moves' = moves ∧ _ = l' := by
      simpa using h
    exact ⟨q, start, rfl⟩

theorem startHead?_eq_none_iff : l.startHead? key = none ↔ (l.queue key).start? = none := by
  unfold startHead?
  split
  · rename_i none
    simp [none]
  · rename_i some
    simp [some]

theorem weight_startHead? (h : l.startHead? key = some (r, moves, l')) :
    l'.weight + (1 + Move.weights moves) = l.weight := by
  obtain ⟨q, start, rfl⟩ := startHead?_eq_some h
  have taken := Queue.weight_start? start
  have replaced := weight_setQueue l key q
  show (l.setQueue key q).weight + _ = _
  omega

theorem startHead?_of_weight (h : l.weight = 0) (key : ReplyKey) : l.startHead? key = none := by
  rw [startHead?_eq_none_iff]
  apply Queue.start?_of_weight
  have := weight_setQueue l key (.new "")
  have : (Queue.new "").weight = 0 := rfl
  omega

/-- Removing the head of a queue and settling it does not add anything to be started. -/
theorem weight_settle_pop {q : Queue} (h : (l.queue key).pop? = some (r, q))
    (result : Except Fault Frame) :
    ((l.setQueue key q).settle key r result).weight ≤ l.weight := by
  have removed := Queue.weight_pop? h
  have replaced := weight_setQueue l key q
  show (l.setQueue key q).weight ≤ _
  omega

theorem weight_setQueue_push (l : Link σ) (key : ReplyKey) (timeout owner : Nat)
    (moves : List Move) :
    (l.setQueue key ((l.queue key).push timeout owner moves)).weight =
      l.weight + (1 + Move.weights moves) := by
  have replaced := weight_setQueue l key ((l.queue key).push timeout owner moves)
  rw [Queue.weight_push] at replaced
  omega

/-! ## Failing a whole queue -/

theorem queues_foldl_settle (l : Link σ) (key : ReplyKey) (fault : Fault)
    (requests : List Request) :
    (requests.foldl (fun l r => l.settle key r (.error fault)) l).queues = l.queues := by
  induction requests generalizing l with
  | nil => rfl
  | cons r rest ih =>
      rw [List.foldl_cons, ih]
      rfl

theorem journal_foldl_settle (l : Link σ) (key : ReplyKey) (fault : Fault)
    (requests : List Request) :
    (requests.foldl (fun l r => l.settle key r (.error fault)) l).journal =
      l.journal ++ requests.map fun r => .settled key r.ticket r.owner (.error fault) := by
  induction requests generalizing l with
  | nil => rw [List.map_nil, List.append_nil, List.foldl_nil]
  | cons r rest ih =>
      rw [List.foldl_cons, ih, List.map_cons]
      show l.journal ++ [_] ++ _ = _
      rw [List.append_assoc, List.singleton_append]

theorem queue_failAll (l : Link σ) (key key' : ReplyKey) (fault : Fault) :
    (l.failAll key fault).queue key' =
      if key' = key then { l.queue key with requests := [] } else l.queue key' := by
  unfold failAll
  rw [← queue_setQueue]
  simp only [queue, queues_foldl_settle]

theorem journal_failAll (l : Link σ) (key : ReplyKey) (fault : Fault) :
    (l.failAll key fault).journal = l.journal ++
      (l.queue key).requests.map fun r => .settled key r.ticket r.owner (.error fault) :=
  journal_foldl_settle ..

theorem weight_failAll (l : Link σ) (key : ReplyKey) (fault : Fault) :
    (l.failAll key fault).weight ≤ l.weight := by
  have replaced := weight_setQueue l key { l.queue key with requests := [] }
  have emptied : Queue.weight { l.queue key with requests := [] } = 0 := rfl
  have same : (l.failAll key fault).weight =
      (l.setQueue key { l.queue key with requests := [] }).weight := by
    unfold weight failAll
    rw [queues_foldl_settle]
  omega

end Link

end SensorHost
