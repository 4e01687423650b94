import SensorHost.Proofs.Exchange.Activation

/-!
# First come, first served

The requests on one reply key are started and settled in the order of their submission. What
carries this through every nesting of answers, failures and new requests is `InOrder`, an invariant
of one queue and the journal:

* the tickets that were settled, followed by those that wait, are all tickets in order;
* a request was started once every earlier one was settled, and an answer settles the request that
  was started last;
* only the head can have been started.

`InOrder` holds even while the next request is still to be started. That it is started before
anything else happens to its queue is what `AtRest` adds.
-/

namespace SensorHost

namespace LinkEvent

/-- The ticket and the owner of the request of `key` that an event starts. -/
def start? (key : ReplyKey) : LinkEvent → Option (Nat × Nat)
  | started key' ticket owner => if key' = key then some (ticket, owner) else none
  | _ => none

/-- The ticket of the request of `key` that an event settles. -/
def settlement? (key : ReplyKey) : LinkEvent → Option Nat
  | settled key' ticket _ _ => if key' = key then some ticket else none
  | _ => none

end LinkEvent

/-- The requests of `key` that were started, in order. -/
def starts (key : ReplyKey) (journal : List LinkEvent) : List (Nat × Nat) :=
  journal.filterMap (LinkEvent.start? key)

/-- The tickets of the requests of `key` that were settled, in order. -/
def settlements (key : ReplyKey) (journal : List LinkEvent) : List Nat :=
  journal.filterMap (LinkEvent.settlement? key)

/-- What an event of `key` says of those before it: a request is started when all earlier ones were
settled, and an answer is for the request that was started last. -/
def InTurn (key : ReplyKey) (before : List LinkEvent) : LinkEvent → Prop
  | .started key' ticket _ => key' = key → settlements key before = List.range ticket
  | .settled key' ticket owner (.ok _) =>
    key' = key → (starts key before).getLast? = some (ticket, owner)
  | _ => True

/-- The invariant of the queue of a key. -/
structure InOrder (key : ReplyKey) (q : Queue) (journal : List LinkEvent) : Prop where
  inTurn : ∀ before event after, journal = before ++ event :: after → InTurn key before event
  tickets : settlements key journal ++ q.requests.map (·.ticket) = List.range q.nextTicket
  increasing : (starts key journal).Pairwise fun a b => a.1 < b.1
  begun : ∀ s ∈ starts key journal, s.1 < (settlements key journal).length ∨
    ∃ r ∈ q.requests.head?, r.isStarted = true ∧ r.ticket = s.1
  current : ∀ r ∈ q.requests.head?, r.isStarted = true →
    (starts key journal).getLast? = some (r.ticket, r.owner)
  waiting : ∀ r ∈ q.requests.tail, r.isStarted = false

/-- The head of the queue, if there is one, has been started. -/
def AtRest (q : Queue) : Prop := ∀ r ∈ q.requests.head?, r.isStarted = true

/-! ## Lists of all tickets -/

theorem eq_range_of_append {xs ys : List Nat} {n : Nat} (h : xs ++ ys = List.range n) :
    xs = List.range xs.length := by
  have length : xs.length ≤ n := by
    have := congrArg List.length h
    rw [List.length_append, List.length_range] at this
    omega
  have prefixes := congrArg (List.take xs.length) h
  rw [List.take_left' rfl, List.take_range, Nat.min_eq_left length] at prefixes
  exact prefixes

theorem eq_length_of_append {xs ys : List Nat} {y n : Nat} (h : xs ++ y :: ys = List.range n) :
    y = xs.length := by
  have grouped : (xs ++ [y]) ++ ys = List.range n := by
    rw [List.append_assoc, List.singleton_append]
    exact h
  have both := eq_range_of_append grouped
  rw [List.length_append, List.length_singleton, List.range_succ] at both
  have last := List.append_inj_right' both rfl
  exact List.singleton_inj.mp last

/-- What every element of a list is to those before it, so is every element of a longer list, if the
last one is. -/
theorem forall_prefix_concat {α : Type} {P : List α → α → Prop} {xs : List α} {last : α}
    (h : ∀ before x after, xs = before ++ x :: after → P before x) (own : P xs last) :
    ∀ before x after, xs ++ [last] = before ++ x :: after → P before x := by
  intro before x after split
  rcases List.eq_nil_or_concat after with rfl | ⟨others, y, rfl⟩
  · obtain ⟨rfl, eq⟩ := List.append_inj' split rfl
    rw [← List.singleton_inj.mp eq]
    exact own
  · rw [List.concat_eq_append, ← List.cons_append, ← List.append_assoc] at split
    obtain ⟨shorter, -⟩ := List.append_inj' split rfl
    exact h before x others shorter

/-! ## The primitive changes of a queue -/

section

variable {key : ReplyKey} {q q' : Queue} {journal : List LinkEvent} {r : Request}

theorem starts_append (key : ReplyKey) (journal : List LinkEvent) (event : LinkEvent) :
    starts key (journal ++ [event]) = starts key journal ++ (event.start? key).toList := by
  unfold starts
  rw [List.filterMap_append]
  cases h : event.start? key <;> simp [h]

theorem settlements_append (key : ReplyKey) (journal : List LinkEvent) (event : LinkEvent) :
    settlements key (journal ++ [event]) =
      settlements key journal ++ (event.settlement? key).toList := by
  unfold settlements
  rw [List.filterMap_append]
  cases h : event.settlement? key <;> simp [h]

theorem inTurn_append (h : ∀ before event after, journal = before ++ event :: after →
    InTurn key before event) {last : LinkEvent} (inTurn : InTurn key journal last) :
    ∀ before event after, journal ++ [last] = before ++ event :: after →
      InTurn key before event :=
  forall_prefix_concat h inTurn

theorem InOrder.new (key : ReplyKey) (label : String) : InOrder key (.new label) [] := by
  refine ⟨?_, rfl, .nil, by nofun, by nofun, by nofun⟩
  intro before event after split
  exact absurd split (List.append_ne_nil_of_right_ne_nil before (List.cons_ne_nil event after)).symm

/-- An event that neither starts nor settles a request of the key changes nothing for it. -/
theorem InOrder.other (h : InOrder key q journal) {event : LinkEvent}
    (noStart : event.start? key = none) (noSettlement : event.settlement? key = none) :
    InOrder key q (journal ++ [event]) := by
  have sameStarts : starts key (journal ++ [event]) = starts key journal := by
    rw [starts_append, noStart, Option.toList_none, List.append_nil]
  have sameSettlements : settlements key (journal ++ [event]) = settlements key journal := by
    rw [settlements_append, noSettlement, Option.toList_none, List.append_nil]
  refine
    { inTurn := inTurn_append h.inTurn ?turn
      tickets := ?tickets, increasing := ?increasing, begun := ?begun, current := ?current
      waiting := h.waiting }
  case turn =>
    cases event with
    | started key' ticket owner =>
        intro same
        simp [LinkEvent.start?, same] at noStart
    | settled key' ticket owner result =>
        cases result with
        | error fault => trivial
        | ok reply =>
            intro same
            simp [LinkEvent.settlement?, same] at noSettlement
    | _ => trivial
  case tickets =>
    rw [sameSettlements]
    exact h.tickets
  case increasing =>
    rw [sameStarts]
    exact h.increasing
  case begun =>
    rw [sameStarts, sameSettlements]
    exact h.begun
  case current =>
    rw [sameStarts]
    exact h.current

theorem InOrder.startElsewhere (h : InOrder key q journal) {key' : ReplyKey} (other : key ≠ key')
    (ticket owner : Nat) : InOrder key q (journal ++ [.started key' ticket owner]) := by
  refine h.other ?_ rfl
  rw [LinkEvent.start?, if_neg (Ne.symm other)]

theorem InOrder.settleElsewhere (h : InOrder key q journal) {key' : ReplyKey} (other : key ≠ key')
    (ticket owner : Nat) (result : Except Fault Frame) :
    InOrder key q (journal ++ [.settled key' ticket owner result]) := by
  refine h.other rfl ?_
  rw [LinkEvent.settlement?, if_neg (Ne.symm other)]

/-- The head of a queue has the lowest ticket that was not settled. -/
theorem InOrder.ticket_head (h : InOrder key q journal) {rest : List Request}
    (requests : q.requests = r :: rest) : r.ticket = (settlements key journal).length := by
  have tickets := h.tickets
  rw [requests, List.map_cons] at tickets
  exact eq_length_of_append tickets

theorem InOrder.start (h : InOrder key q journal) {moves : List Move}
    (start : q.start? = some (r, moves, q')) :
    InOrder key q' (journal ++ [.started key r.ticket r.owner]) := by
  obtain ⟨rest, requests, unstarted, rfl⟩ := Queue.start?_eq_some_iff.mp start
  have ticket := h.ticket_head requests
  have newStarts : starts key (journal ++ [.started key r.ticket r.owner]) =
      starts key journal ++ [(r.ticket, r.owner)] := by
    rw [starts_append]
    simp [LinkEvent.start?]
  have sameSettlements : settlements key (journal ++ [.started key r.ticket r.owner]) =
      settlements key journal := by
    rw [settlements_append]
    simp [LinkEvent.settlement?]
  -- The head was not started before, so every request that was has been settled.
  have earlier : ∀ s ∈ starts key journal, s.1 < r.ticket := by
    intro s mem
    rw [ticket]
    rcases h.begun s mem with settled | ⟨head, isHead, started, -⟩
    · exact settled
    · rw [requests, List.head?_cons, Option.mem_some_iff] at isHead
      rw [← isHead, Request.isStarted, unstarted] at started
      contradiction
  refine
    { inTurn := inTurn_append h.inTurn ?turn
      tickets := ?tickets, increasing := ?increasing, begun := ?begun, current := ?current
      waiting := ?waiting }
  case turn =>
    intro _
    rw [ticket]
    exact eq_range_of_append h.tickets
  case tickets =>
    have tickets := h.tickets
    rw [requests] at tickets
    rw [sameSettlements]
    exact tickets
  case increasing =>
    rw [newStarts, List.pairwise_append]
    refine ⟨h.increasing, List.pairwise_singleton _ _, ?_⟩
    intro s mem last isLast
    rw [List.mem_singleton.mp isLast]
    exact earlier s mem
  case begun =>
    rw [newStarts, sameSettlements]
    intro s mem
    rcases List.mem_append.mp mem with old | new
    · exact .inl (ticket ▸ earlier s old)
    · rw [List.mem_singleton.mp new]
      exact .inr ⟨{ r with moves := none }, rfl, rfl, rfl⟩
  case current =>
    intro head isHead _
    obtain rfl := Option.mem_some_iff.mp isHead
    rw [newStarts, List.getLast?_concat]
  case waiting =>
    intro other mem
    refine h.waiting other ?_
    rw [requests]
    exact mem

theorem atRest_start {moves : List Move} (start : q.start? = some (r, moves, q')) : AtRest q' := by
  obtain ⟨rest, -, -, rfl⟩ := Queue.start?_eq_some_iff.mp start
  intro head isHead
  obtain rfl := Option.mem_some_iff.mp isHead
  rfl

theorem InOrder.settle (h : InOrder key q journal) (pop : q.pop? = some (r, q'))
    {result : Except Fault Frame} (answered : ∀ reply, result = .ok reply → r.isStarted = true) :
    InOrder key q' (journal ++ [.settled key r.ticket r.owner result]) := by
  obtain ⟨rest, requests, rfl⟩ := Queue.pop?_eq_some_iff.mp pop
  have isHead : r ∈ q.requests.head? := by
    rw [requests]
    rfl
  have ticket := h.ticket_head requests
  have unstarted : ∀ other ∈ rest, other.isStarted = false := by
    have waiting := h.waiting
    rw [requests] at waiting
    exact waiting
  have sameStarts : starts key (journal ++ [.settled key r.ticket r.owner result]) =
      starts key journal := by
    rw [starts_append]
    simp [LinkEvent.start?]
  have newSettlements : settlements key (journal ++ [.settled key r.ticket r.owner result]) =
      settlements key journal ++ [r.ticket] := by
    rw [settlements_append]
    simp [LinkEvent.settlement?]
  refine
    { inTurn := inTurn_append h.inTurn ?turn
      tickets := ?tickets, increasing := ?increasing, begun := ?begun, current := ?current
      waiting := ?waiting }
  case turn =>
    cases result with
    | error fault => trivial
    | ok reply =>
        intro _
        exact h.current r isHead (answered reply rfl)
  case tickets =>
    have tickets := h.tickets
    rw [requests, List.map_cons] at tickets
    rw [newSettlements, List.append_assoc, List.singleton_append]
    exact tickets
  case increasing =>
    rw [sameStarts]
    exact h.increasing
  case begun =>
    -- Whatever was started has been settled now: only the head could have been unsettled.
    rw [sameStarts, newSettlements, List.length_append, List.length_singleton]
    intro s mem
    rcases h.begun s mem with settled | ⟨head, isHead', -, same⟩
    · exact .inl (by omega)
    · obtain rfl := Option.mem_unique isHead isHead'
      exact .inl (by omega)
  case current =>
    -- The next head has not been started yet, so there is nothing to show.
    intro head isHead' started
    rw [unstarted head (List.mem_of_mem_head? isHead')] at started
    contradiction
  case waiting =>
    intro other mem
    exact unstarted other (List.mem_of_mem_tail mem)

theorem InOrder.push (h : InOrder key q journal) (timeout owner : Nat) (moves : List Move) :
    InOrder key (q.push timeout owner moves) journal := by
  refine
    { inTurn := h.inTurn
      tickets := ?tickets
      increasing := h.increasing
      begun := ?begun, current := ?current, waiting := ?waiting }
  case tickets =>
    unfold Queue.push
    rw [List.map_append, ← List.append_assoc, h.tickets, List.range_succ]
    rfl
  case begun =>
    intro s mem
    rcases h.begun s mem with settled | ⟨head, isHead, started, same⟩
    · exact .inl settled
    · refine .inr ⟨head, ?_, started, same⟩
      unfold Queue.push
      rw [List.head?_append, isHead]
      rfl
  case current =>
    intro head isHead started
    unfold Queue.push at isHead
    cases requests : q.requests with
    | nil =>
        rw [requests] at isHead
        obtain rfl := Option.mem_some_iff.mp isHead
        contradiction
    | cons first rest =>
        rw [requests] at isHead
        refine h.current head ?_ started
        rw [requests]
        exact isHead
  case waiting =>
    intro other mem
    unfold Queue.push at mem
    cases requests : q.requests with
    | nil =>
        rw [requests] at mem
        exact absurd mem List.not_mem_nil
    | cons first rest =>
        rw [requests] at mem
        rcases List.mem_append.mp mem with old | new
        · refine h.waiting other ?_
          rw [requests]
          exact old
        · rw [List.mem_singleton.mp new]
          rfl

/-- A queue whose requests are all failed, in order, is left empty. -/
theorem InOrder.drain (h : InOrder key q journal) (fault : Fault) :
    InOrder key { q with requests := [] } (journal ++
      q.requests.map fun r => .settled key r.ticket r.owner (.error fault)) := by
  obtain ⟨label, requests, nextTicket⟩ := q
  induction requests generalizing journal with
  | nil =>
      rw [List.map_nil, List.append_nil]
      exact h
  | cons r rest ih =>
      have unanswered : ∀ reply, (.error fault : Except Fault Frame) = .ok reply →
          r.isStarted = true := nofun
      have first := h.settle rfl unanswered
      rw [List.map_cons, List.append_cons]
      exact ih first

end

/-! ## Every queue of a link -/

variable {σ : Type}

/-- Every queue is in order, and all but perhaps the one of `key` are at rest. -/
def OrderedBut (key : ReplyKey) (l : Link σ) : Prop :=
  ∀ key', InOrder key' (l.queue key') l.journal ∧ (key' ≠ key → AtRest (l.queue key'))

/-- Every queue is in order and at rest. -/
def Ordered (l : Link σ) : Prop :=
  ∀ key, InOrder key (l.queue key) l.journal ∧ AtRest (l.queue key)

section

variable {l : Link σ} {key : ReplyKey} {r : Request} {q : Queue}

/-- What holds of the changed queue and of all others holds of every queue. -/
theorem forall_setQueue {P : ReplyKey → Queue → Prop} (own : P key q)
    (others : ∀ key', key' ≠ key → P key' (l.queue key')) (key' : ReplyKey) :
    P key' ((l.setQueue key q).queue key') := by
  rw [Link.queue_setQueue]
  by_cases same : key' = key
  · rw [if_pos same, same]
    exact own
  · rw [if_neg same]
    exact others key' same

theorem OrderedBut.start {l' : Link σ} {moves : List Move} (h : OrderedBut key l)
    (start : l.startHead? key = some (r, moves, l')) : Ordered l' := by
  obtain ⟨q, taken, rfl⟩ := Link.startHead?_eq_some start
  refine forall_setQueue (P := fun key' q => InOrder key' q _ ∧ AtRest q) ?_ ?_
  · exact ⟨(h key).1.start taken, atRest_start taken⟩
  · intro key' other
    exact ⟨(h key').1.startElsewhere other r.ticket r.owner, (h key').2 other⟩

theorem OrderedBut.idle (h : OrderedBut key l) (none : l.startHead? key = none) : Ordered l := by
  intro key'
  refine ⟨(h key').1, ?_⟩
  by_cases same : key' = key
  · subst same
    intro head isHead
    have started := Queue.start?_eq_none_iff.mp (Link.startHead?_eq_none_iff.mp none)
    obtain ⟨rest, requests⟩ := List.head?_eq_some_iff.mp isHead
    exact started head rest requests
  · exact (h key').2 same

theorem Ordered.pop (h : Ordered l) (pop : (l.queue key).pop? = some (r, q))
    {result : Except Fault Frame} (answered : ∀ reply, result = .ok reply → r.isStarted = true) :
    OrderedBut key ((l.setQueue key q).settle key r result) := by
  refine forall_setQueue (P := fun key' q => InOrder key' q _ ∧ (key' ≠ key → AtRest q)) ?_ ?_
  · exact ⟨(h key).1.settle pop answered, absurd rfl⟩
  · intro key' other
    exact ⟨(h key').1.settleElsewhere other r.ticket r.owner result, fun _ => (h key').2⟩

theorem Ordered.push (h : Ordered l) (key : ReplyKey) (timeout owner : Nat) (moves : List Move) :
    OrderedBut key (l.setQueue key ((l.queue key).push timeout owner moves)) :=
  forall_setQueue (P := fun key' q => InOrder key' q _ ∧ (key' ≠ key → AtRest q))
    ⟨(h key).1.push timeout owner moves, absurd rfl⟩ fun key' _ => ⟨(h key').1, fun _ => (h key').2⟩

theorem Ordered.pushBehind (h : Ordered l) (key : ReplyKey) (timeout owner : Nat)
    (moves : List Move) (behind : ((l.queue key).push timeout owner moves).pending ≠ 1) :
    Ordered (l.setQueue key ((l.queue key).push timeout owner moves)) := by
  refine forall_setQueue (P := fun key' q => InOrder key' q _ ∧ AtRest q) ?_ fun key' _ => h key'
  refine ⟨(h key).1.push timeout owner moves, ?_⟩
  -- The queue was not empty, so its head stays and has been started.
  intro head isHead
  refine (h key).2 head ?_
  unfold Queue.push Queue.pending at behind
  unfold Queue.push at isHead
  cases requests : (l.queue key).requests with
  | nil =>
      rw [requests] at behind
      exact absurd rfl behind
  | cons first rest =>
      rw [requests] at isHead
      exact isHead

/-- Failing every request of a queue keeps the order of all queues. -/
theorem InOrder.failAll (h : ∀ key, InOrder key (l.queue key) l.journal) (key : ReplyKey)
    (fault : Fault) (key' : ReplyKey) :
    InOrder key' ((l.failAll key fault).queue key') (l.failAll key fault).journal := by
  rw [Link.queue_failAll, Link.journal_failAll]
  by_cases same : key' = key
  · subst same
    rw [if_pos rfl]
    exact (h key').drain fault
  · -- To another key each settlement is an event that does not concern it.
    rw [if_neg same]
    have inOrder := h key'
    generalize (l.queue key).requests = requests
    generalize l.journal = journal at inOrder ⊢
    induction requests generalizing journal with
    | nil =>
        rw [List.map_nil, List.append_nil]
        exact inOrder
    | cons r rest ih =>
        rw [List.map_cons, List.append_cons]
        exact ih _ (inOrder.settleElsewhere same r.ticket r.owner (.error fault))

theorem Ordered.drain (h : Ordered l) (key : ReplyKey) (fault : Fault) :
    Ordered (l.failAll key fault) := by
  intro key'
  refine ⟨InOrder.failAll (fun key => (h key).1) key fault key', ?_⟩
  rw [Link.queue_failAll]
  by_cases same : key' = key
  · rw [if_pos same]
    nofun
  · rw [if_neg same]
    exact (h key').2

theorem Ordered.note (h : Ordered l) {event : LinkEvent} (quiet : event.isQuiet = true) :
    Ordered (l.note event) := by
  intro key
  refine ⟨(h key).1.other ?_ ?_, (h key).2⟩ <;> cases event <;> first | rfl | contradiction

end

theorem ordered_discipline : Discipline (Ordered (σ := σ)) OrderedBut where
  started := fun h start => h.start start
  idle := fun h none => h.idle none
  answered := fun _ h pop started => h.pop pop fun _ _ => started
  failed := fun _ h pop => h.pop pop (by nofun)
  queuedAlone := fun key timeout owner moves h _ => h.push key timeout owner moves
  queuedBehind := fun key timeout owner moves h behind => h.pushBehind key timeout owner moves behind
  drained := fun key fault h => h.drain key fault
  noted := fun h quiet => h.note quiet
  rewired := fun _ h => h

variable [Transport σ]

/-- Whatever happens to a link, its queues are in order and at rest afterwards. -/
theorem ordered_run (wire : σ) (now : Nat) (runtime : Runtime) (steps : List Link.Step) :
    Ordered (Link.run wire now runtime steps) := by
  refine ordered_discipline.run (fun _ _ _ h => h) (fun _ h => h) ?_ steps
  exact fun key => ⟨.new key key.text, by nofun⟩

/-- At every moment of a run, a request that was started and not settled is the first one of those
that were not settled. -/
theorem InOrder.in_flight {key : ReplyKey} {q : Queue} {before after : List LinkEvent}
    (h : InOrder key q (before ++ after)) {ticket owner : Nat}
    (started : (ticket, owner) ∈ starts key before) (unsettled : ticket ∉ settlements key before) :
    ticket = (settlements key before).length := by
  obtain ⟨event, mem, isStart⟩ := List.mem_filterMap.mp started
  obtain ⟨earlier, later, rfl⟩ := List.append_of_mem mem
  have all : settlements key (earlier ++ event :: later) =
      List.range (settlements key (earlier ++ event :: later)).length := by
    have tickets := h.tickets
    rw [settlements, List.filterMap_append, List.append_assoc] at tickets
    exact eq_range_of_append tickets
  -- When it was started, all requests before it had been settled.
  have atStart : settlements key earlier = List.range ticket := by
    cases event with
    | started key' ticket' owner' =>
        rw [LinkEvent.start?] at isStart
        by_cases same : key' = key
        · rw [if_pos same] at isStart
          obtain ⟨rfl, -⟩ := Prod.mk.inj (Option.some.inj isStart)
          exact h.inTurn earlier (.started key' ticket' owner') (later ++ after) (by simp) same
        · rw [if_neg same] at isStart
          contradiction
    | _ => contradiction
  have grown : ticket ≤ (settlements key (earlier ++ event :: later)).length := by
    have length := congrArg List.length atStart
    rw [List.length_range] at length
    unfold settlements at length ⊢
    rw [List.filterMap_append, List.length_append]
    omega
  rw [all, List.mem_range] at unsettled
  omega

/-- A queue never stalls and never has two requests on the wire. Between operations the head has been
started, if there is one, as the last of its key, and the others have not. At every moment before,
a request that was started and not settled was the first of those not settled. -/
theorem head_alone_started (wire : σ) (now : Nat) (runtime : Runtime) (steps : List Link.Step)
    (key : ReplyKey) :
    let l := Link.run wire now runtime steps
    ((l.queue key).requests = [] ∨ ∃ head rest, (l.queue key).requests = head :: rest ∧
      head.isStarted = true ∧ (starts key l.journal).getLast? = some (head.ticket, head.owner) ∧
        ∀ r ∈ rest, r.isStarted = false) ∧
      ∀ before after, l.journal = before ++ after → ∀ ticket owner,
        (ticket, owner) ∈ starts key before → ticket ∉ settlements key before →
          ticket = (settlements key before).length := by
  intro l
  obtain ⟨h, atRest⟩ := ordered_run wire now runtime steps key
  refine ⟨?_, ?_⟩
  · cases requests : (l.queue key).requests with
    | nil => exact .inl rfl
    | cons head rest =>
        have isHead : head ∈ (l.queue key).requests.head? := by
          rw [requests]
          rfl
        refine .inr ⟨head, rest, rfl, atRest head isHead, ?_, ?_⟩
        · exact h.current head isHead (atRest head isHead)
        · intro r mem
          refine h.waiting r ?_
          rw [requests]
          exact mem
  · intro before after split ticket owner started unsettled
    rw [split] at h
    exact h.in_flight started unsettled

end SensorHost
