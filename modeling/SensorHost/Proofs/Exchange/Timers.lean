import SensorHost.Board.Simulated
import SensorHost.Proofs.Exchange.Order

/-!
# Timers

Whenever no request is being started, every queue that is not empty has exactly one running timer:
that of its head. It is due when the sleep of the runtime for the head's own timeout ends, which began
when the head was started (`Clocked`). A timer that fires after its request was settled does nothing,
however late; and what a timer settles is the request that it was started for, once that sleep is over
(`Link.Timed`).

Moments do not stand in the journal, so they are kept beside it: `History` is a run with the moment
of every event. It takes the passing of time apart into the timers that fire on the way, and lets
them fire late.
-/

namespace SensorHost

/-- What happened, and when. -/
abbrev Log := List (Nat × LinkEvent)

/-- The timers of a key go with its requests: without requests there is none, otherwise there is one,
of the head, which was started at `begun`. -/
inductive Clocked (runtime : Runtime) (log : Log) (key : ReplyKey) :
    List Request → List Timer → Prop
  | idle : Clocked runtime log key [] []
  | waiting {head : Request} {rest : List Request} {begun due : Nat} (number : Nat) :
    (begun, .started key head.ticket head.owner) ∈ log → runtime.Ends begun head.timeout due →
    Clocked runtime log key (head :: rest) [⟨number, key, head.ticket, due⟩]

theorem Clocked.mono {runtime : Runtime} {log more : Log} {key : ReplyKey}
    {requests : List Request} {timers : List Timer} (h : Clocked runtime log key requests timers) :
    Clocked runtime (log ++ more) key requests timers := by
  cases h with
  | idle => exact .idle
  | waiting number started ends => exact .waiting number (List.mem_append_left _ started) ends

namespace Link

variable {σ : Type} {l : Link σ} {key key' : ReplyKey} {runtime : Runtime}

def timersOn (l : Link σ) (key : ReplyKey) : List Timer := l.timers.filter (·.key = key)

theorem timersOn_settle (l : Link σ) (key key' : ReplyKey) (r : Request)
    (result : Except Fault Frame) :
    (l.settle key r result).timersOn key' =
      if key' = key then (l.timersOn key).filter (·.ticket ≠ r.ticket) else l.timersOn key' := by
  unfold timersOn settle
  by_cases same : key' = key
  · rw [if_pos same, same, List.filter_filter, List.filter_filter]
    refine List.filter_congr fun t _ => ?_
    by_cases own : t.key = key <;> simp [own, Bool.beq_eq_decide_eq]
  · rw [if_neg same, List.filter_filter]
    refine List.filter_congr fun t _ => ?_
    by_cases own : t.key = key'
    · simp [own, same]
    · simp [own]

/-- Without its head, a queue has no timer left. -/
theorem timersOn_settle_head {log : Log} {r : Request} {rest : List Request}
    (clocked : Clocked runtime log key (r :: rest) (l.timersOn key)) (result : Except Fault Frame) :
    (l.settle key r result).timersOn key = [] := by
  rw [timersOn_settle, if_pos rfl]
  generalize l.timersOn key = timers at clocked ⊢
  cases clocked with
  | waiting number started ends => simp

theorem timers_foldl_settle (l : Link σ) (key : ReplyKey) (fault : Fault)
    (requests : List Request) :
    (requests.foldl (fun l r => l.settle key r (.error fault)) l).timers.Sublist l.timers := by
  induction requests generalizing l with
  | nil => exact .refl _
  | cons r rest ih => exact (ih _).trans List.filter_sublist

theorem runtime_foldl_settle (l : Link σ) (key : ReplyKey) (fault : Fault)
    (requests : List Request) :
    (requests.foldl (fun l r => l.settle key r (.error fault)) l).runtime = l.runtime := by
  induction requests generalizing l with
  | nil => rfl
  | cons r rest ih => exact ih _

theorem timersOn_foldl_settle (l : Link σ) (key : ReplyKey) (fault : Fault)
    (requests : List Request) {key' : ReplyKey} (other : key' ≠ key) :
    (requests.foldl (fun l r => l.settle key r (.error fault)) l).timersOn key' =
      l.timersOn key' := by
  induction requests generalizing l with
  | nil => rfl
  | cons r rest ih =>
      rw [List.foldl_cons, ih, timersOn_settle, if_neg other]

/-- A queue that is failed as a whole has no timer left, and the others keep theirs. -/
theorem timersOn_failAll {log : Log}
    (clocked : Clocked runtime log key (l.queue key).requests (l.timersOn key)) (fault : Fault)
    (key' : ReplyKey) :
    (l.failAll key fault).timersOn key' = if key' = key then [] else l.timersOn key' := by
  unfold failAll
  simp only
  by_cases same : key' = key
  · rw [if_pos same, same]
    cases requests : (l.queue key).requests with
    | nil =>
        rw [requests] at clocked
        show l.timersOn key = []
        generalize l.timersOn key = timers at clocked ⊢
        cases clocked with
        | idle => rfl
    | cons head rest =>
        rw [requests] at clocked
        have settled := timersOn_settle_head
          (l := l.setQueue key { l.queue key with requests := [] }) clocked (.error fault)
        rw [List.foldl_cons]
        refine List.sublist_nil.mp (settled ▸ ?_)
        exact (timers_foldl_settle _ key fault rest).filter _
  · rw [if_neg same]
    exact timersOn_foldl_settle _ key fault _ same

/-! ## What every change keeps -/

/-- What is the same since `base`, or has grown. A timer that is new is one of a request that had not
been started. -/
structure Since (base l : Link σ) (events : List LinkEvent) : Prop where
  clock : l.now = base.now
  runtime : l.runtime = base.runtime
  journal : l.journal = base.journal ++ events
  timers : ∀ t ∈ l.timers, t ∈ base.timers ∨ ∀ owner, (t.ticket, owner) ∉ starts t.key base.journal

/-- The log of the events since `base`. -/
def stamped (base : Link σ) (log : Log) (events : List LinkEvent) : Log :=
  log ++ events.map (base.now, ·)

/-- Every queue has its timer. -/
def Ticking (base : Link σ) (log : Log) (l : Link σ) : Prop :=
  Ordered l ∧ ∃ events, Since base l events ∧
    ∀ key, Clocked base.runtime (base.stamped log events) key (l.queue key).requests
      (l.timersOn key)

/-- The head of `key` is still to be started, and the other queues have their timers. -/
def TickingBut (base : Link σ) (log : Log) (key : ReplyKey) (l : Link σ) : Prop :=
  OrderedBut key l ∧ l.timersOn key = [] ∧ (∀ r ∈ (l.queue key).requests, r.isStarted = false) ∧
    ∃ events, Since base l events ∧ ∀ key', key' ≠ key →
      Clocked base.runtime (base.stamped log events) key' (l.queue key').requests
        (l.timersOn key')

variable {base : Link σ} {log : Log} {r : Request} {q : Queue} {events : List LinkEvent}

theorem stamped_append (base : Link σ) (log : Log) (events more : List LinkEvent) :
    base.stamped log (events ++ more) = base.stamped log events ++ more.map (base.now, ·) := by
  unfold stamped
  rw [List.map_append, List.append_assoc]

/-- An event changes neither the clock nor the timers. -/
theorem Since.note (h : Since base l events) (event : LinkEvent) :
    Since base (l.note event) (events ++ [event]) := by
  refine ⟨h.clock, h.runtime, ?_, h.timers⟩
  show l.journal ++ [event] = _
  rw [h.journal, List.append_assoc]

theorem Since.settle (h : Since base l events) (q : Queue) (key : ReplyKey) (r : Request)
    (result : Except Fault Frame) : Since base ((l.setQueue key q).settle key r result)
      (events ++ [.settled key r.ticket r.owner result]) := by
  have noted := h.note (.settled key r.ticket r.owner result)
  refine ⟨noted.clock, noted.runtime, noted.journal, fun t mem => ?_⟩
  exact noted.timers t (List.mem_filter.mp mem).1

theorem Since.start (h : Since base l events) {moves : List Move} {l' : Link σ}
    (ordered : Ordered l') (start : l.startHead? key = some (r, moves, l')) :
    Since base l' (events ++ [.started key r.ticket r.owner]) := by
  obtain ⟨q, taken, rfl⟩ := startHead?_eq_some start
  have noted := h.note (.started key r.ticket r.owner)
  refine ⟨noted.clock, noted.runtime, noted.journal, fun t mem => ?_⟩
  rcases List.mem_append.mp mem with old | new
  · exact noted.timers t old
  · -- The tickets that are started increase, so this one was not started before.
    obtain rfl := List.mem_singleton.mp new
    refine .inr fun owner before => ?_
    have increasing := (ordered key).1.increasing
    have grown : starts key (l.journal ++ [.started key r.ticket r.owner]) =
        starts key l.journal ++ [(r.ticket, r.owner)] := by
      rw [starts_append]
      simp [LinkEvent.start?]
    have earlier : (r.ticket, owner) ∈ starts key l.journal := by
      rw [h.journal]
      unfold starts
      rw [List.filterMap_append]
      exact List.mem_append_left _ before
    rw [show Link.journal _ = l.journal ++ [.started key r.ticket r.owner] from rfl, grown,
      List.pairwise_append] at increasing
    exact absurd (increasing.2.2 _ earlier _ (List.mem_singleton_self _)) (Nat.lt_irrefl _)

theorem timersOn_startHead? {l' : Link σ} {moves : List Move}
    (start : l.startHead? key = some (r, moves, l')) (key' : ReplyKey) :
    l'.timersOn key' = l.timersOn key' ++
      if key' = key then [⟨l.nextTimer, key, r.ticket, l.runtime.wakes l.now r.timeout⟩]
      else [] := by
  obtain ⟨q, -, rfl⟩ := startHead?_eq_some start
  unfold timersOn
  rw [List.filter_append]
  congr 1
  by_cases same : key' = key
  · simp [same]
  · simp [same, Ne.symm same]

/-- The head is started together with its timer. -/
theorem TickingBut.start {l' : Link σ} {moves : List Move} (punctual : base.runtime.Punctual)
    (h : TickingBut base log key l) (start : l.startHead? key = some (r, moves, l')) :
    Ticking base log l' := by
  obtain ⟨ordered, noTimer, -, events, since, others⟩ := h
  have ordered' := ordered.start start
  have timers := timersOn_startHead? start
  have started := since.start ordered' start
  refine ⟨ordered', _, started, ?_⟩
  rw [stamped_append]
  obtain ⟨q, taken, rfl⟩ := startHead?_eq_some start
  obtain ⟨rest, -, -, rfl⟩ := Queue.start?_eq_some_iff.mp taken
  refine forall_setQueue (P := fun key' q => Clocked _ _ key' q.requests (timersOn _ key')) ?_ ?_
  · rw [timers, noTimer, if_pos rfl, List.nil_append, since.clock, since.runtime]
    refine .waiting l.nextTimer ?_ (punctual.ends base.now r.timeout)
    exact List.mem_append_right _ (List.mem_singleton_self _)
  · intro key' other
    rw [timers, if_neg other, List.append_nil]
    exact (others key' other).mono

/-- Where there is no head to start, there is no request either. -/
theorem TickingBut.idle (h : TickingBut base log key l) (none : l.startHead? key = none) :
    Ticking base log l := by
  obtain ⟨ordered, noTimer, unstarted, events, since, others⟩ := h
  refine ⟨ordered.idle none, events, since, fun key' => ?_⟩
  by_cases same : key' = key
  · subst same
    have started := Queue.start?_eq_none_iff.mp (startHead?_eq_none_iff.mp none)
    cases requests : (l.queue key').requests with
    | nil =>
        rw [noTimer]
        exact .idle
    | cons head rest =>
        have fresh := unstarted head (requests ▸ List.mem_cons_self)
        rw [started head rest requests] at fresh
        contradiction
  · exact others key' same

/-- The head leaves together with its timer. -/
theorem Ticking.pop (h : Ticking base log l) (pop : (l.queue key).pop? = some (r, q))
    {result : Except Fault Frame} (answered : ∀ reply, result = .ok reply → r.isStarted = true) :
    TickingBut base log key ((l.setQueue key q).settle key r result) := by
  obtain ⟨ordered, events, since, clocked⟩ := h
  obtain ⟨rest, requests, eq⟩ := Queue.pop?_eq_some_iff.mp pop
  have own := clocked key
  rw [requests] at own
  refine ⟨ordered.pop pop answered, ?_, ?_, _, since.settle q key r result, ?_⟩
  · exact timersOn_settle_head (l := l.setQueue key q) own result
  · intro other mem
    have left : ((l.setQueue key q).queue key).requests = rest := by
      rw [queue_setQueue, if_pos rfl, eq]
    refine (ordered key).1.waiting other ?_
    rw [requests, List.tail_cons, ← left]
    exact mem
  · intro key' other
    have queue : ((l.setQueue key q).settle key r result).queue key' = l.queue key' := by
      show (l.setQueue key q).queue key' = _
      rw [queue_setQueue, if_neg other]
    rw [queue, timersOn_settle, if_neg other, stamped_append]
    exact (clocked key').mono

theorem Ticking.push (h : Ticking base log l) (key : ReplyKey) (timeout owner : Nat)
    (moves : List Move) (alone : ((l.queue key).push timeout owner moves).pending = 1) :
    TickingBut base log key (l.setQueue key ((l.queue key).push timeout owner moves)) := by
  obtain ⟨ordered, events, since, clocked⟩ := h
  have empty : (l.queue key).requests = [] := by
    unfold Queue.pending Queue.push at alone
    rw [List.length_append, List.length_singleton] at alone
    exact List.length_eq_zero_iff.mp (by omega)
  refine ⟨ordered.push key timeout owner moves, ?_, ?_, events,
    ⟨since.clock, since.runtime, since.journal, since.timers⟩, ?_⟩
  · have own := clocked key
    rw [empty] at own
    show l.timersOn key = []
    generalize l.timersOn key = timers at own ⊢
    cases own with
    | idle => rfl
  · intro r mem
    rw [queue_setQueue, if_pos rfl] at mem
    unfold Queue.push at mem
    rw [empty, List.nil_append] at mem
    rw [List.mem_singleton.mp mem]
    rfl
  · intro key' other
    rw [queue_setQueue, if_neg other]
    exact clocked key'

theorem Ticking.pushBehind (h : Ticking base log l) (key : ReplyKey) (timeout owner : Nat)
    (moves : List Move) (behind : ((l.queue key).push timeout owner moves).pending ≠ 1) :
    Ticking base log (l.setQueue key ((l.queue key).push timeout owner moves)) := by
  obtain ⟨ordered, events, since, clocked⟩ := h
  refine ⟨ordered.pushBehind key timeout owner moves behind, events,
    ⟨since.clock, since.runtime, since.journal, since.timers⟩, ?_⟩
  refine forall_setQueue (P := fun key' q => Clocked _ _ key' q.requests (l.timersOn key')) ?_
    fun key' _ => clocked key'
  -- The queue was not empty, so its head stays, and the timer of the head with it.
  have own := clocked key
  unfold Queue.push Queue.pending at behind
  unfold Queue.push
  generalize (l.queue key).requests = requests at own behind ⊢
  generalize l.timersOn key = timers at own ⊢
  cases own with
  | idle => exact absurd rfl behind
  | waiting number started ends => exact .waiting number started ends

theorem Ticking.drain (h : Ticking base log l) (key : ReplyKey) (fault : Fault) :
    Ticking base log (l.failAll key fault) := by
  obtain ⟨ordered, events, since, clocked⟩ := h
  have clock := (Discipline.clock l.now).drained key fault rfl
  refine ⟨ordered.drain key fault, events ++ (l.queue key).requests.map fun r =>
    .settled key r.ticket r.owner (.error fault), ⟨?_, ?_, ?_, ?_⟩, ?_⟩
  · exact clock.trans since.clock
  · exact (runtime_foldl_settle _ key fault _).trans since.runtime
  · rw [journal_failAll, since.journal, List.append_assoc]
  · intro t mem
    exact since.timers t ((timers_foldl_settle _ key fault _).mem mem)
  · intro key'
    rw [queue_failAll, timersOn_failAll (clocked key), stamped_append]
    by_cases same : key' = key
    · rw [if_pos same, if_pos same]
      exact .idle
    · rw [if_neg same, if_neg same]
      exact (clocked key').mono

theorem Ticking.note (h : Ticking base log l) {event : LinkEvent} (quiet : event.isQuiet = true) :
    Ticking base log (l.note event) := by
  obtain ⟨ordered, events, since, clocked⟩ := h
  refine ⟨ordered.note quiet, _, since.note event, fun key => ?_⟩
  rw [stamped_append]
  exact (clocked key).mono

theorem ticking_discipline {base : Link σ} (punctual : base.runtime.Punctual) (log : Log) :
    Discipline (Ticking base log) (TickingBut base log) where
  started := fun h start => h.start punctual start
  idle := fun h none => h.idle none
  answered := fun _ h pop started => h.pop pop fun _ _ => started
  failed := fun _ h pop => h.pop pop (by nofun)
  queuedAlone := fun key timeout owner moves h alone => h.push key timeout owner moves alone
  queuedBehind := fun key timeout owner moves h behind => h.pushBehind key timeout owner moves behind
  drained := fun key fault h => h.drain key fault
  noted := fun h quiet => h.note quiet
  rewired := fun _ ⟨ordered, events, since, clocked⟩ =>
    ⟨ordered, events, ⟨since.clock, since.runtime, since.journal, since.timers⟩, clocked⟩

/-! ## Between operations -/

/-- Between operations every queue has its timer, and the log has the events of the journal. -/
structure Keeps (runtime : Runtime) (log : Log) (l : Link σ) : Prop where
  ordered : Ordered l
  runsOn : l.runtime = runtime
  journal : log.map (·.2) = l.journal
  clocked : ∀ key, Clocked runtime log key (l.queue key).requests (l.timersOn key)

theorem Keeps.ticking (h : Keeps runtime log l) : Ticking l log l := by
  refine ⟨h.ordered, [], ⟨rfl, rfl, (List.append_nil _).symm, fun t mem => .inl mem⟩, fun key => ?_⟩
  rw [h.runsOn]
  exact (h.clocked key).mono

theorem Keeps.discipline (h : Keeps runtime log l) (punctual : runtime.Punctual) (log' : Log) :
    Discipline (Ticking l log') (TickingBut l log') := by
  refine ticking_discipline ?_ log'
  rw [h.runsOn]
  exact punctual

theorem Keeps.of_ticking {l' : Link σ} (h : Keeps runtime log l) (ticking : Ticking l log l')
    (grown : l'.journal = l.journal ++ events) : Keeps runtime (l.stamped log events) l' := by
  obtain ⟨ordered, _, since, clocked⟩ := ticking
  obtain rfl := List.append_cancel_left (since.journal.symm.trans grown)
  rw [h.runsOn] at clocked
  refine ⟨ordered, since.runtime.trans h.runsOn, ?_, clocked⟩
  unfold stamped
  rw [List.map_append, h.journal, List.map_map, since.journal]
  congr 1
  exact List.map_id _

/-- Every running timer of this ticket is due. There may be none: a timer that was stopped may still
fire, at any time. -/
def MayFire (l : Link σ) (key : ReplyKey) (ticket : Nat) : Prop :=
  ∀ t ∈ l.timersOn key, t.ticket = ticket → t.due ≤ l.now

/-- A running timer is the only one of its key, and that of the head. -/
theorem Keeps.timer (h : Keeps runtime log l) {t : Timer} (running : t ∈ l.timers) :
    ∃ begun owner, l.timersOn t.key = [t] ∧ (begun, .started t.key t.ticket owner) ∈ log := by
  have clocked := h.clocked t.key
  have own : t ∈ l.timersOn t.key := List.mem_filter.mpr ⟨running, decide_eq_true rfl⟩
  generalize (l.queue t.key).requests = requests at clocked
  generalize l.timersOn t.key = timers at clocked own ⊢
  generalize t.key = key at clocked ⊢
  cases clocked with
  | idle => exact absurd own List.not_mem_nil
  | waiting number started ends =>
      obtain rfl := List.mem_singleton.mp own
      exact ⟨_, _, rfl, started⟩

/-- A timer that was due stays the only one of its ticket: a ticket is not started twice. -/
theorem Keeps.mayFire {l' : Link σ} (h : Keeps runtime log l) (ticking : Ticking l log l')
    {t : Timer} (running : t ∈ l.timers) (due : t.due ≤ l.now) : l'.MayFire t.key t.ticket := by
  intro t' mem ticket
  obtain ⟨begun, owner, only, started⟩ := h.timer running
  obtain ⟨-, events, since, -⟩ := ticking
  obtain ⟨mem, onKey⟩ := List.mem_filter.mp mem
  have key : t'.key = t.key := of_decide_eq_true onKey
  rcases since.timers t' mem with old | new
  · have own : t' ∈ l.timersOn t.key := List.mem_filter.mpr ⟨old, onKey⟩
    rw [only] at own
    rw [List.mem_singleton.mp own, since.clock]
    exact due
  · refine absurd ?_ (new owner)
    rw [key, ticket, ← h.journal]
    refine List.mem_filterMap.mpr ⟨_, List.mem_map_of_mem started, ?_⟩
    rw [LinkEvent.start?, if_pos rfl]

/-! ## Histories -/

/-- No timer fires early. -/
def Step.InTime (l : Link σ) : Step → Prop
  | .expire key ticket => l.MayFire key ticket
  | _ => True

variable [Transport σ]

/-- No timer fires early in any of some steps. -/
def InTime (l : Link σ) : List Step → Prop
  | [] => True
  | step :: rest => step.InTime l ∧ (l.after step).InTime rest

/-- How a link comes about, with everything that happened on the way and when. Time passes without
regard to the timers, so they may fire late, but none fires early. -/
inductive History (wire : σ) (start : Nat) (runtime : Runtime) : Log → Link σ → Prop
  | opens : History wire start runtime [] (.new wire start runtime)
  | acts {log : Log} {l : Link σ} {events : List LinkEvent} (step : Step) :
    History wire start runtime log l → step.isPrompt = true → step.InTime l →
    (l.after step).journal = l.journal ++ events →
    History wire start runtime (l.stamped log events) (l.after step)
  | givesUp {log : Log} {l : Link σ} {events : List LinkEvent} : History wire start runtime log l →
    l.giveUp.journal = l.journal ++ events →
    History wire start runtime (l.stamped log events) l.giveUp
  | passes {log : Log} {l : Link σ} (now : Nat) : History wire start runtime log l → l.now ≤ now →
    History wire start runtime log { l with now }

theorem Ticking.after (punctual : base.runtime.Punctual) (h : Ticking base log l) (step : Step)
    (prompt : step.isPrompt = true) : Ticking base log (l.after step) :=
  (ticking_discipline punctual log).atOnce (fun _ ⟨ordered, events, since, clocked⟩ =>
    ⟨ordered, events, ⟨since.clock, since.runtime, since.journal, since.timers⟩, clocked⟩) h step
    prompt

section

variable {wire : σ} {start : Nat} (punctual : runtime.Punctual)
include punctual

theorem Keeps.after (h : Keeps runtime log l) (step : Step) (prompt : step.isPrompt = true) :
    Ticking l log (l.after step) :=
  h.ticking.after (h.runsOn ▸ punctual) step prompt

omit [Transport σ] in
theorem Keeps.giveUp (h : Keeps runtime log l) : Ticking l log l.giveUp :=
  (h.discipline punctual log).giveUp h.ticking

theorem History.keeps (h : History wire start runtime log l) : Keeps runtime log l := by
  induction h with
  | opens => exact ⟨ordered_run wire start runtime [], rfl, rfl, fun _ => .idle⟩
  | acts step _ prompt _ grown ih => exact ih.of_ticking (ih.after punctual step prompt) grown
  | givesUp _ grown ih => exact ih.of_ticking (ih.giveUp punctual) grown
  | passes now _ _ ih => exact ⟨ih.ordered, ih.runsOn, ih.journal, ih.clocked⟩

/-! ## Runs have histories -/

theorem History.after (h : History wire start runtime log l) (step : Step)
    (prompt : step.isPrompt = true) (inTime : step.InTime l) :
    ∃ log', History wire start runtime log' (l.after step) := by
  obtain ⟨-, events, since, -⟩ := (h.keeps punctual).after punctual step prompt
  exact ⟨_, .acts step h prompt inTime since.journal⟩

theorem History.giveUp (h : History wire start runtime log l) :
    ∃ log', History wire start runtime log' l.giveUp := by
  obtain ⟨-, events, since, -⟩ := (h.keeps punctual).giveUp punctual
  exact ⟨_, .givesUp h since.journal⟩

/-- The timers that fire together were all due before the first of them did. -/
theorem History.expireAll {base : Link σ} {log₀ : Log} (keeps : Keeps runtime log₀ base)
    (timers : List Timer) (due : ∀ t ∈ timers, t ∈ base.timers ∧ t.due ≤ base.now)
    (h : History wire start runtime log l) (ticking : Ticking base log₀ l) :
    ∃ log', History wire start runtime log'
      (timers.foldl (fun l t => (l.expire t.key t.ticket).giveUp) l) := by
  induction timers generalizing log l with
  | nil => exact ⟨log, h⟩
  | cons t rest ih =>
      obtain ⟨running, late⟩ := due t List.mem_cons_self
      obtain ⟨_, fired⟩ := h.after punctual (.expire t.key t.ticket) rfl
        (keeps.mayFire ticking running late)
      obtain ⟨_, left⟩ := fired.giveUp punctual
      have discipline := keeps.discipline punctual log₀
      refine ih (fun t' mem => due t' (List.mem_cons_of_mem _ mem)) left ?_
      exact discipline.giveUp (discipline.expire ticking t.key t.ticket)

theorem History.expireDue (h : History wire start runtime log l) :
    ∃ log', History wire start runtime log' l.expireDue := by
  have keeps := h.keeps punctual
  refine h.expireAll punctual keeps _ ?_ keeps.ticking
  intro t mem
  obtain ⟨running, late⟩ := List.mem_filter.mp mem
  exact ⟨running, of_decide_eq_true late⟩

theorem History.elapse (h : History wire start runtime log l) (milliseconds : Nat) :
    ∃ log', History wire start runtime log' (l.elapse milliseconds) := by
  unfold Link.elapse
  have ahead : l.now ≤ l.now + milliseconds := Nat.le_add_right ..
  generalize l.outstanding + 1 = rounds
  generalize l.now + milliseconds = target at ahead ⊢
  induction rounds generalizing log l with
  | zero => exact ⟨log, h.passes target ahead⟩
  | succ rounds ih =>
      unfold Link.elapseWithin
      split
      · exact ⟨log, h.passes target ahead⟩
      · rename_i due _
        split
        · obtain ⟨_, fired⟩ := (h.passes (max l.now due) (Nat.le_max_left ..)).expireDue punctual
          refine ih fired ?_
          have kept := (Discipline.clock (max l.now due)).expireDue (l := { l with now := _ }) rfl
          omega
        · exact ⟨log, h.passes target ahead⟩

theorem History.run (h : History wire start runtime log l) (steps : List Step)
    (inTime : l.InTime steps) :
    ∃ log', History wire start runtime log' (steps.foldl Link.after l) := by
  induction steps generalizing log l with
  | nil => exact ⟨log, h⟩
  | cons step rest ih =>
      obtain ⟨first, others⟩ := inTime
      cases prompt : step.isPrompt with
      | true =>
          obtain ⟨_, done⟩ := h.after punctual step prompt first
          exact ih done others
      | false =>
          cases step with
          | elapse milliseconds =>
              obtain ⟨_, done⟩ := h.elapse punctual milliseconds
              exact ih done others
          | _ => contradiction

/-! ## What a timer does when it fires -/

omit [Transport σ] punctual in
/-- What happens from here on is added to the log that there is. -/
theorem TickingBut.rebase (h : TickingBut base log key l) :
    l.runtime = base.runtime ∧ ∃ log', TickingBut l log' key l := by
  obtain ⟨ordered, noTimer, unstarted, events, since, others⟩ := h
  refine ⟨since.runtime, base.stamped log events, ordered, noTimer, unstarted, [], ?_, ?_⟩
  · exact ⟨rfl, rfl, (List.append_nil _).symm, fun t mem => .inl mem⟩
  · intro key' other
    rw [since.runtime]
    exact (others key' other).mono

omit punctual in
theorem TickingBut.activate (punctual : base.runtime.Punctual) (h : TickingBut base log key l) :
    ∃ events, (l.activate key).journal = l.journal ++ events := by
  obtain ⟨runtime, log', due⟩ := h.rebase
  rw [← runtime] at punctual
  obtain ⟨-, events, since, -⟩ := (ticking_discipline punctual log').activate due
  exact ⟨events, since.journal⟩

/-- The timers of a key, as they run and as they fire. -/
structure Timed (runtime : Runtime) (l : Link σ) (log : Log) (key : ReplyKey) : Prop where
  clocked : Clocked runtime log key (l.queue key).requests (l.timersOn key)
  once : ∀ {ticket owner owner' begun begun'}, (begun, .started key ticket owner) ∈ log →
    (begun', .started key ticket owner') ∈ log → begun = begun'
  stale : ∀ ticket ∈ settlements key l.journal, l.expire key ticket = l
  fires : ∀ ticket, l.MayFire key ticket → l.expire key ticket = l ∨
    ∃ head rest begun due events, (l.queue key).requests = head :: rest ∧ head.ticket = ticket ∧
      (begun, .started key ticket head.owner) ∈ log ∧ runtime.Ends begun head.timeout due ∧
      due ≤ l.now ∧ (l.expire key ticket).journal = l.journal ++
        .settled key ticket head.owner (.error (.timeout (l.queue key).label head.timeout)) :: events

omit punctual in
theorem Keeps.stale (h : Keeps runtime log l) {ticket : Nat}
    (settled : ticket ∈ settlements key l.journal) : l.expire key ticket = l := by
  have inOrder := (h.ordered key).1
  unfold Link.expire
  split
  · rfl
  · rename_i r q popped
    obtain ⟨pop, rfl⟩ := Queue.popTicket?_eq_some_iff.mp popped
    obtain ⟨rest, requests, -⟩ := Queue.pop?_eq_some_iff.mp pop
    rw [inOrder.ticket_head requests, eq_range_of_append inOrder.tickets, List.length_range,
      List.mem_range] at settled
    exact absurd settled (Nat.lt_irrefl _)

omit [Transport σ] punctual in
theorem Keeps.once (h : Keeps runtime log l) {ticket owner owner' begun begun' : Nat}
    (first : (begun, .started key ticket owner) ∈ log)
    (second : (begun', .started key ticket owner') ∈ log) : begun = begun' := by
  have increasing := (h.ordered key).1.increasing
  unfold starts at increasing
  rw [← h.journal, List.filterMap_map, List.pairwise_filterMap] at increasing
  -- Of two different starts of the log the later one has the higher ticket.
  have same (one two : Nat) : log.Pairwise fun a b => a.2 = .started key ticket one →
      b.2 = .started key ticket two → a.1 = b.1 := by
    refine increasing.imp fun before isFirst isSecond => ?_
    have higher := before (ticket, one) (by simp [isFirst, LinkEvent.start?])
      (ticket, two) (by simp [isSecond, LinkEvent.start?])
    exact absurd higher (Nat.lt_irrefl _)
  refine List.Pairwise.forall_of_forall_of_flip ?_ (same owner owner') ?_ first second rfl rfl
  · exact fun _ _ _ _ => rfl
  · exact (same owner' owner).imp fun eq isFirst isSecond => (eq isSecond isFirst).symm

theorem Keeps.fires (h : Keeps runtime log l) {ticket : Nat} (may : l.MayFire key ticket) :
    l.expire key ticket = l ∨
    ∃ head rest begun due events, (l.queue key).requests = head :: rest ∧ head.ticket = ticket ∧
      (begun, .started key ticket head.owner) ∈ log ∧ runtime.Ends begun head.timeout due ∧
      due ≤ l.now ∧ (l.expire key ticket).journal = l.journal ++
        .settled key ticket head.owner (.error (.timeout (l.queue key).label head.timeout)) ::
          events := by
  unfold Link.expire
  split
  · exact .inl rfl
  · rename_i r q popped
    obtain ⟨pop, rfl⟩ := Queue.popTicket?_eq_some_iff.mp popped
    obtain ⟨rest, requests, rfl⟩ := Queue.pop?_eq_some_iff.mp pop
    have clocked := h.clocked key
    rw [requests] at clocked
    obtain ⟨begun, due, started, ends, passed⟩ : ∃ begun due,
        (begun, .started key r.ticket r.owner) ∈ log ∧ runtime.Ends begun r.timeout due ∧
          due ≤ l.now := by
      unfold MayFire at may
      generalize l.timersOn key = timers at clocked may
      cases clocked with
      | waiting number started ends =>
          exact ⟨_, _, started, ends, may _ (List.mem_singleton_self _) rfl⟩
    have popped : TickingBut l log key ((l.setQueue key { l.queue key with requests := rest }).settle
        key r (.error (.timeout (l.queue key).label r.timeout))) :=
      h.ticking.pop pop (by nofun)
    have kept : l.runtime.Punctual := h.runsOn ▸ punctual
    obtain ⟨events, activated⟩ := popped.activate kept
    refine .inr ⟨r, rest, begun, due, events, requests, rfl, started, ends, passed, ?_⟩
    rw [activated]
    show (l.journal ++ [_]) ++ events = _
    rw [List.append_assoc, List.singleton_append]

end

/-- Every run on which no timer fires early has a history, whatever the requests do when they are
started. In every history, between operations, a queue that is not empty has one running timer: that
of its head. It is due when the sleep for the head's own timeout ends, which began when the head was
started; where a sleep can be that long, it is over after that timeout. A timer of a settled request
does nothing. A timer that is due, or was stopped, does nothing or times out the head that it was
started for; then that sleep is over. -/
theorem timed_histories (wire : σ) (start : Nat) (runtime : Runtime)
    (punctual : runtime.Punctual) :
    (∀ steps, (new wire start runtime).InTime steps →
      ∃ log, History wire start runtime log (Link.run wire start runtime steps)) ∧
    ∀ log l, History wire start runtime log l →
      log.map (·.2) = l.journal ∧ ∀ key, Timed runtime l log key := by
  refine ⟨fun steps inTime => History.opens.run punctual steps inTime, fun log l h => ?_⟩
  have keeps := h.keeps punctual
  refine ⟨keeps.journal, fun key => ⟨keeps.clocked key, keeps.once, ?_, ?_⟩⟩
  · exact fun ticket settled => keeps.stale settled
  · exact fun ticket may => keeps.fires punctual may

/-! Reads of a board that never answers. -/

def silentBoard : Board := { Board.new 18 with silent := true }

def readKey : ReplyKey := ⟨3, 132⟩

def read (timeout owner : Nat) : Step :=
  .submit readKey timeout owner [.transmit [readKey.moduleId, readKey.register]]

/-- The second read waits for the first one, and its time runs from when that one timed out. -/
theorem timed_histories_second : ∃ log,
    History silentBoard 0 .virtual log
      (Link.run silentBoard 0 .virtual [read 5 0, read 7 1, .elapse 5]) ∧
    Timed .virtual (Link.run silentBoard 0 .virtual [read 5 0, read 7 1, .elapse 5]) log readKey ∧
    (Link.run silentBoard 0 .virtual [read 5 0, read 7 1, .elapse 5]).timersOn readKey =
      [⟨1, readKey, 1, 5 + 7⟩] := by
  obtain ⟨runs, timed⟩ := timed_histories silentBoard 0 .virtual Runtime.virtual_punctual
  obtain ⟨log, history⟩ := runs [read 5 0, read 7 1, .elapse 5] ⟨trivial, trivial, trivial, trivial⟩
  exact ⟨log, history, (timed log _ history).2 readKey, by decide +kernel⟩

/-- A read that may take longer than any sleep is timed out before its own time is over. -/
theorem overlong_read_times_out :
    let l := Link.run silentBoard 0 .virtual [read 9223372036854775807 0]
    l.timersOn readKey = [⟨0, readKey, 0, 946080000000⟩] ∧
    (l.elapse 946080000000).now < 9223372036854775807 ∧
    (l.elapse 946080000000).journal = [.started readKey 0 0,
      .settled readKey 0 0 (.error (.timeout "03:84" 9223372036854775807))] := by
  refine ⟨by decide +kernel, by decide +kernel, rfl⟩

end Link

end SensorHost
