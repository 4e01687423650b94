import SensorHost.Proofs.Exchange.Order

/-!
# Accounts

Requests are submitted from outside, and by the moves of other requests while these are started. In
what order is told by an account of what happens on a link:

* `Makes` is the account of some moves. A move that submits a request has that submission in it, and
  what ensues before the next move is made. Moves are made in order, up to the first that is refused.
* `Ensues` is the account of what happens without a submission from outside: requests are settled,
  and others are started, whose moves are made.
* `Recounts` is the account of the steps of a run.

Nothing else is submitted. `Booked` ties an account to a link: the journal is that of the account, and
the request with a ticket is the submission with that number (`Numbered`). Here every primitive change
of a link is entered into its account.
-/

namespace SensorHost

/-- What is asked for when a request is submitted. -/
structure Submission where
  owner : Nat
  timeout : Nat
  moves : List Move

/-- Something that happens on a link. -/
inductive Happening where
  | submits (key : ReplyKey) (asked : Submission)
  /-- A request is started, and its moves are made next. -/
  | starts (key : ReplyKey) (ticket : Nat) (asked : Submission)
  /-- What else stands in the journal. -/
  | notes (event : LinkEvent)

namespace Happening

/-- What the journal says of it. -/
def event? : Happening → Option LinkEvent
  | submits .. => none
  | starts key ticket asked => some (.started key ticket asked.owner)
  | notes event => some event

/-- What is submitted on `key`. -/
def submission? (key : ReplyKey) : Happening → Option Submission
  | submits key' asked => if key' = key then some asked else none
  | _ => none

end Happening

/-- The journal of an account. -/
def journalOf (account : List Happening) : List LinkEvent := account.filterMap Happening.event?

/-- What was submitted on a key, in order. -/
def submissions (key : ReplyKey) (account : List Happening) : List Submission :=
  account.filterMap (Happening.submission? key)

/-! ## Accounts -/

/-- Whether an event starts a request. -/
def LinkEvent.isStart : LinkEvent → Bool
  | started .. => true
  | _ => false

/-- Whether a move neither submits a request nor ends the one that makes it. -/
def Move.isPlain : Move → Bool
  | submit .. | refuse _ => false
  | _ => true

/-- Whether a step submits a request. -/
def Link.Step.isSubmission : Link.Step → Bool
  | submit .. => true
  | _ => false

section

variable (σ : Type) [Transport σ]

mutual

/-- What may happen on a link over such a transport without a submission from outside. -/
inductive Ensues : List Happening → Prop where
  | nothing : Ensues []
  | both {first later : List Happening} : Ensues first → Ensues later → Ensues (first ++ later)
  | notes {event : LinkEvent} : event.isStart = false → Ensues [.notes event]
  /-- A request is started and makes all its moves. -/
  | sent {key : ReplyKey} {ticket : Nat} {asked : Submission} {account : List Happening} :
    Makes asked.moves (.ok ()) account → Ensues (.starts key ticket asked :: account)
  /-- A move is refused, and the request fails of it. -/
  | refused {key : ReplyKey} {ticket : Nat} {asked : Submission} {account : List Happening}
    {fault : Fault} : Makes asked.moves (.error fault) account →
    Ensues (.starts key ticket asked ::
      (account ++ [.notes (.settled key ticket asked.owner (.error fault))]))
  /-- A move is refused, but its request was settled before. -/
  | overtaken {key : ReplyKey} {ticket : Nat} {asked : Submission} {account : List Happening}
    {fault : Fault} : Makes asked.moves (.error fault) account →
    ticket ∈ settlements key (journalOf account) → Ensues (.starts key ticket asked :: account)

/-- What may happen while moves are made. -/
inductive Makes : List Move → Except Fault Unit → List Happening → Prop where
  | done : Makes [] (.ok ()) []
  | refuses {fault : Fault} {rest : List Move} : Makes (.refuse fault :: rest) (.error fault) []
  | unsent {wire wire' : σ} {frame : Frame} {fault : Fault} {rest : List Move} :
    Transport.send wire frame = (.error fault, wire') →
    Makes (.transmit frame :: rest) (.error fault) []
  | submits {key : ReplyKey} {timeout owner : Nat} {moves rest : List Move}
    {result : Except Fault Unit} {now later : List Happening} :
    Ensues now → Makes rest result later →
    Makes (.submit key timeout owner moves :: rest) result
      (.submits key ⟨owner, timeout, moves⟩ :: (now ++ later))
  | plain {move : Move} {rest : List Move} {result : Except Fault Unit}
    {now later : List Happening} :
    move.isPlain = true → Ensues now → Makes rest result later →
    Makes (move :: rest) result (now ++ later)

end

/-- What may happen in some steps. -/
inductive Recounts : List Link.Step → List Happening → Prop where
  | nothing : Recounts [] []
  | submits {key : ReplyKey} {timeout owner : Nat} {moves : List Move} {rest : List Link.Step}
    {now later : List Happening} : Ensues σ now → Recounts rest later →
    Recounts (.submit key timeout owner moves :: rest)
      (.submits key ⟨owner, timeout, moves⟩ :: (now ++ later))
  | others {step : Link.Step} {rest : List Link.Step} {now later : List Happening} :
    step.isSubmission = false → Ensues σ now → Recounts rest later →
    Recounts (step :: rest) (now ++ later)

end

/-! ## Requests and submissions -/

/-- The request is what was asked for. Once it is started its moves have been taken from it. -/
structure Request.Carries (r : Request) (asked : Submission) : Prop where
  owner : r.owner = asked.owner
  timeout : r.timeout = asked.timeout
  moves : ∀ moves, r.moves = some moves → moves = asked.moves

/-- A request that is started or settled is the submission with the number of its ticket, which was
submitted before. -/
def Happening.IsNumbered (key : ReplyKey) (before : List Happening) : Happening → Prop
  | starts key' ticket asked => key' = key → (submissions key before)[ticket]? = some asked
  | notes (.settled key' ticket owner _) =>
    key' = key → ((submissions key before)[ticket]?).map (·.owner) = some owner
  | _ => True

/-- The tickets of a key are the numbers of its submissions. -/
structure Numbered (key : ReplyKey) (account : List Happening) (q : Queue) : Prop where
  next : q.nextTicket = (submissions key account).length
  waiting : ∀ r ∈ q.requests, ∃ asked, (submissions key account)[r.ticket]? = some asked ∧
    r.Carries asked
  past : ∀ before happening after, account = before ++ happening :: after →
    happening.IsNumbered key before

section

variable {key : ReplyKey} {account more : List Happening} {q q' : Queue} {r : Request}
  {asked : Submission}

/-- Some requests of a key fail, in order. -/
def failures (key : ReplyKey) (fault : Fault) (requests : List Request) : List Happening :=
  requests.map fun r => .notes (.settled key r.ticket r.owner (.error fault))

theorem journalOf_append (account more : List Happening) :
    journalOf (account ++ more) = journalOf account ++ journalOf more := List.filterMap_append

theorem journalOf_failures (key : ReplyKey) (fault : Fault) (requests : List Request) :
    journalOf (failures key fault requests) =
      requests.map fun r => .settled key r.ticket r.owner (.error fault) := by
  induction requests with
  | nil => rfl
  | cons r rest ih => exact congrArg _ ih

theorem submissions_append (key : ReplyKey) (account more : List Happening) :
    submissions key (account ++ more) = submissions key account ++ submissions key more :=
  List.filterMap_append

namespace Numbered

theorem new (key : ReplyKey) (label : String) : Numbered key [] (.new label) := by
  refine ⟨rfl, by nofun, ?_⟩
  intro before happening after split
  exact absurd split (List.append_ne_nil_of_right_ne_nil before (List.cons_ne_nil _ after)).symm

/-- Nothing is submitted on this key. -/
theorem other (h : Numbered key account q) {happening : Happening}
    (none : happening.submission? key = none) (numbered : happening.IsNumbered key account) :
    Numbered key (account ++ [happening]) q := by
  have same : submissions key (account ++ [happening]) = submissions key account := by
    rw [submissions_append]
    simp [submissions, none]
  refine ⟨?next, ?waiting, forall_prefix_concat h.past numbered⟩
  case next =>
    rw [same]
    exact h.next
  case waiting =>
    rw [same]
    exact h.waiting

/-- Requests may leave the queue, and have their moves taken from them. -/
theorem mono (h : Numbered key account q) (next : q'.nextTicket = q.nextTicket)
    (requests : ∀ r' ∈ q'.requests, ∃ r ∈ q.requests, r'.ticket = r.ticket ∧
      ∀ asked, r.Carries asked → r'.Carries asked) : Numbered key account q' := by
  refine ⟨next.trans h.next, ?_, h.past⟩
  intro r' mem
  obtain ⟨r, old, ticket, carries⟩ := requests r' mem
  obtain ⟨asked, number, carried⟩ := h.waiting r old
  rw [ticket]
  exact ⟨asked, number, carries asked carried⟩

theorem push (h : Numbered key account q) (timeout owner : Nat) (moves : List Move) :
    Numbered key (account ++ [.submits key ⟨owner, timeout, moves⟩])
      (q.push timeout owner moves) := by
  have grown : submissions key (account ++ [.submits key ⟨owner, timeout, moves⟩]) =
      submissions key account ++ [⟨owner, timeout, moves⟩] := by
    rw [submissions_append]
    simp [submissions, Happening.submission?]
  refine ⟨?next, ?waiting, forall_prefix_concat h.past trivial⟩
  case next =>
    rw [grown, List.length_append, ← h.next]
    rfl
  case waiting =>
    rw [grown]
    intro r mem
    rcases List.mem_append.mp mem with old | new
    · obtain ⟨asked, number, carries⟩ := h.waiting r old
      obtain ⟨inside, -⟩ := List.getElem?_eq_some_iff.mp number
      exact ⟨asked, (List.getElem?_append_left inside).trans number, carries⟩
    · rw [List.mem_singleton.mp new]
      refine ⟨⟨owner, timeout, moves⟩, ?_, rfl, rfl, ?_⟩
      · show (submissions key account ++ [_])[q.nextTicket]? = _
        rw [h.next]
        exact List.getElem?_concat_length
      · intro taken same
        exact (Option.some.inj same).symm

/-- The head is started with what was asked for. -/
theorem start (h : Numbered key account q) {moves : List Move}
    (start : q.start? = some (r, moves, q')) : ∃ asked, r.owner = asked.owner ∧
      moves = asked.moves ∧ Numbered key (account ++ [.starts key r.ticket asked]) q' := by
  obtain ⟨rest, requests, unstarted, rfl⟩ := Queue.start?_eq_some_iff.mp start
  have isHead : r ∈ q.requests := requests ▸ List.mem_cons_self
  obtain ⟨asked, number, carries⟩ := h.waiting r isHead
  refine ⟨asked, carries.owner, carries.moves moves unstarted, ?_⟩
  have started : Numbered key (account ++ [.starts key r.ticket asked]) q :=
    h.other rfl fun _ => number
  refine started.mono rfl ?_
  intro r' mem
  rcases List.mem_cons.mp mem with rfl | behind
  · exact ⟨r, isHead, rfl, fun asked carries => ⟨carries.owner, carries.timeout, nofun⟩⟩
  · exact ⟨r', requests ▸ List.mem_cons_of_mem _ behind, rfl, fun _ carries => carries⟩

theorem settle (h : Numbered key account q) (pop : q.pop? = some (r, q'))
    (result : Except Fault Frame) :
    Numbered key (account ++ [.notes (.settled key r.ticket r.owner result)]) q' := by
  obtain ⟨rest, requests, rfl⟩ := Queue.pop?_eq_some_iff.mp pop
  obtain ⟨asked, number, carries⟩ := h.waiting r (requests ▸ List.mem_cons_self)
  refine (h.other rfl ?_).mono rfl ?_
  · intro _
    rw [number, Option.map_some, carries.owner]
  · intro r' mem
    exact ⟨r', requests ▸ List.mem_cons_of_mem _ mem, rfl, fun _ carries => carries⟩

/-- A queue whose requests are all failed, in order, is left empty. -/
theorem drain (h : Numbered key account q) (fault : Fault) :
    Numbered key (account ++ failures key fault q.requests) { q with requests := [] } := by
  obtain ⟨label, requests, nextTicket⟩ := q
  induction requests generalizing account with
  | nil =>
      rw [failures, List.map_nil, List.append_nil]
      exact h
  | cons r rest ih =>
      rw [failures, List.map_cons, List.append_cons]
      exact ih (h.settle rfl (.error fault))

/-- Requests of another key are failed. -/
theorem elsewhere (h : Numbered key account q) {key' : ReplyKey} (fault : Fault)
    (other : key ≠ key') {requests : List Request} :
    Numbered key (account ++ failures key' fault requests) q := by
  induction requests generalizing account with
  | nil =>
      rw [failures, List.map_nil, List.append_nil]
      exact h
  | cons r rest ih =>
      rw [failures, List.map_cons, List.append_cons]
      exact ih (h.other rfl fun same => absurd same.symm other)

/-- What is first in the queue now under the ticket of a request that was started is that request. -/
theorem owner_of_started (h : Numbered key (account ++ .starts key r.ticket asked :: more) q)
    {r' : Request} (mem : r' ∈ q.requests) (ticket : r'.ticket = r.ticket) :
    r'.owner = asked.owner := by
  obtain ⟨asked', number, carries⟩ := h.waiting r' mem
  have before : (submissions key account)[r.ticket]? = some asked :=
    h.past account _ more rfl rfl
  obtain ⟨inside, -⟩ := List.getElem?_eq_some_iff.mp before
  rw [submissions_append, ticket, List.getElem?_append_left inside, before] at number
  rw [carries.owner, Option.some.inj number]

end Numbered

end

/-! ## Links -/

variable {σ : Type}

/-- The account of everything that has happened on a link. -/
structure Booked (account : List Happening) (l : Link σ) : Prop where
  journal : journalOf account = l.journal
  inOrder : ∀ key, InOrder key (l.queue key) l.journal
  numbered : ∀ key, Numbered key account (l.queue key)

section

variable {account : List Happening} {l l' : Link σ} {key : ReplyKey} {r : Request} {q : Queue}

namespace Booked

theorem new (wire : σ) (now : Nat) (runtime : Runtime) : Booked [] (Link.new wire now runtime) where
  journal := rfl
  inOrder key := .new key key.text
  numbered key := .new key key.text

theorem nothing (h : Booked account l) : Booked (account ++ []) l := by
  rwa [List.append_nil]

theorem note (h : Booked account l) {event : LinkEvent} (quiet : event.isQuiet = true) :
    Booked (account ++ [.notes event]) (l.note event) where
  journal := by
    rw [journalOf_append, h.journal]
    rfl
  inOrder := by
    intro key
    refine (h.inOrder key).other ?_ ?_ <;> cases event <;> first | rfl | contradiction
  numbered := by
    intro key
    refine (h.numbered key).other rfl ?_
    cases event <;> trivial

/-- The account concerns the queues and the journal only. -/
theorem same (h : Booked account l) (queues : l'.queues = l.queues)
    (journal : l'.journal = l.journal) : Booked account l' := by
  have each (key : ReplyKey) : l'.queue key = l.queue key := by
    unfold Link.queue
    rw [queues]
  refine ⟨h.journal.trans journal.symm, ?_, ?_⟩
  · intro key
    rw [each, journal]
    exact h.inOrder key
  · intro key
    rw [each]
    exact h.numbered key

theorem start {moves : List Move} (h : Booked account l)
    (start : l.startHead? key = some (r, moves, l')) : ∃ asked, r.owner = asked.owner ∧
      moves = asked.moves ∧ Booked (account ++ [.starts key r.ticket asked]) l' := by
  obtain ⟨q, taken, rfl⟩ := Link.startHead?_eq_some start
  obtain ⟨asked, owner, moves, numbered⟩ := (h.numbered key).start taken
  refine ⟨asked, owner, moves, ?journal, ?inOrder, ?numbered⟩
  case journal =>
    rw [journalOf_append, h.journal]
    simp [journalOf, Happening.event?, Link.note, Link.setQueue, owner]
  case inOrder =>
    refine forall_setQueue (P := fun key' q => InOrder key' q _) ((h.inOrder key).start taken) ?_
    exact fun key' other => (h.inOrder key').startElsewhere other r.ticket r.owner
  case numbered =>
    refine forall_setQueue (P := fun key' q => Numbered key' _ q) numbered ?_
    intro key' other
    exact (h.numbered key').other rfl fun same => absurd same.symm other

theorem settle (h : Booked account l) (pop : (l.queue key).pop? = some (r, q))
    (result : Except Fault Frame) (answered : ∀ reply, result = .ok reply → r.isStarted = true) :
    Booked (account ++ [.notes (.settled key r.ticket r.owner result)])
      ((l.setQueue key q).settle key r result) where
  journal := by
    rw [journalOf_append, h.journal]
    rfl
  inOrder := by
    refine forall_setQueue (P := fun key' q => InOrder key' q _)
      ((h.inOrder key).settle pop answered) ?_
    exact fun key' other => (h.inOrder key').settleElsewhere other r.ticket r.owner result
  numbered := by
    refine forall_setQueue (P := fun key' q => Numbered key' _ q)
      ((h.numbered key).settle pop result) ?_
    intro key' other
    exact (h.numbered key').other rfl fun same => absurd same.symm other

theorem fails (h : Booked account l) (pop : (l.queue key).pop? = some (r, q)) (fault : Fault) :
    Booked (account ++ [.notes (.settled key r.ticket r.owner (.error fault))])
      ((l.setQueue key q).settle key r (.error fault)) := by
  refine h.settle pop (.error fault) ?_
  intro _ answered
  contradiction

theorem push (h : Booked account l) (key : ReplyKey) (timeout owner : Nat) (moves : List Move) :
    Booked (account ++ [.submits key ⟨owner, timeout, moves⟩])
      (l.setQueue key ((l.queue key).push timeout owner moves)) where
  journal := by
    rw [journalOf_append, h.journal]
    exact List.append_nil _
  inOrder :=
    forall_setQueue (P := fun key' q => InOrder key' q _)
      ((h.inOrder key).push timeout owner moves) fun key' _ => h.inOrder key'
  numbered := by
    refine forall_setQueue (P := fun key' q => Numbered key' _ q)
      ((h.numbered key).push timeout owner moves) ?_
    intro key' other
    refine (h.numbered key').other ?_ trivial
    rw [Happening.submission?, if_neg (Ne.symm other)]

theorem failAll (h : Booked account l) (key : ReplyKey) (fault : Fault) :
    Booked (account ++ failures key fault (l.queue key).requests) (l.failAll key fault) where
  journal := by
    rw [journalOf_append, h.journal, Link.journal_failAll, journalOf_failures]
  inOrder := InOrder.failAll h.inOrder key fault
  numbered := by
    intro key'
    rw [Link.queue_failAll]
    by_cases same : key' = key
    · subst same
      rw [if_pos rfl]
      exact (h.numbered key').drain fault
    · rw [if_neg same]
      exact (h.numbered key').elsewhere fault same

/-- A request that is no longer waiting was settled after it was started. -/
theorem settled_of_started {key : ReplyKey} {ticket : Nat} {asked : Submission}
    {more : List Happening} (h : Booked (account ++ .starts key ticket asked :: more) l)
    (gone : (l.queue key).popTicket? ticket = none) :
    ticket ∈ settlements key (journalOf more) := by
  have journal : l.journal =
      journalOf account ++ .started key ticket asked.owner :: journalOf more := by
    rw [← h.journal, journalOf_append]
    rfl
  have inOrder := h.inOrder key
  have before : settlements key (journalOf account) = List.range ticket :=
    inOrder.inTurn _ _ _ journal rfl
  have isStarted : (ticket, asked.owner) ∈ starts key l.journal := by
    rw [journal]
    simp [starts, LinkEvent.start?]
  have settled : ticket ∈ settlements key l.journal := by
    rw [eq_range_of_append inOrder.tickets, List.mem_range]
    rcases inOrder.begun _ isStarted with settled | ⟨r, isHead, -, same⟩
    · exact settled
    · obtain ⟨rest, requests⟩ := List.head?_eq_some_iff.mp isHead
      have popped := Queue.popTicket?_eq_some_iff.mpr
        ⟨Queue.pop?_eq_some_iff.mpr ⟨rest, requests, rfl⟩, same⟩
      rw [gone] at popped
      contradiction
  have split : settlements key l.journal =
      settlements key (journalOf account) ++ settlements key (journalOf more) := by
    rw [journal, settlements, List.filterMap_append]
    rfl
  rw [split, before, List.mem_append] at settled
  rcases settled with early | late
  · exact absurd (List.mem_range.mp early) (Nat.lt_irrefl ticket)
  · exact late

end Booked

end

end SensorHost
