import SensorHost.Exchange.Queue
import SensorHost.Exchange.Runtime
import SensorHost.Exchange.Transport

/-!
# Links

A link carries all traffic of one host: it owns the transport and one request queue per reply
key, and its timers run on a runtime. A request is started when it becomes the head of its queue,
and the timer of its answer starts at the same moment; an answer, a failure or the timer settles
it, and then the next request starts.

A board may answer while a frame is being handed to it, and the answer may settle the request
whose frame it was and start the next one, all before the transport returns. `activate` is
therefore recursive; every turn of it starts one of finitely many requests (`weight`), which
bounds the recursion. What happens is written into a journal, in order: which requests were
started, which were settled and how, and which inbound frames nobody was waiting for.

A link that its user lets go of is given up, and with it every waiting request, as soon as no
request is left that will still act on it. Until then its timers run on.
-/

namespace SensorHost

/-- The moment at which a started request times out. -/
structure Timer where
  /-- The place of the timer in the order in which timers were started. -/
  number : Nat
  key : ReplyKey
  ticket : Nat
  due : Nat
deriving DecidableEq, Repr

/-- Something that happened on a link. -/
inductive LinkEvent where
  /-- A request became the head of its queue and its moves were taken up. -/
  | started (key : ReplyKey) (ticket owner : Nat)
  /-- A request got its result. -/
  | settled (key : ReplyKey) (ticket owner : Nat) (result : Except Fault Frame)
  /-- A move queued a request, and everything that followed at once is done. -/
  | submitted (key : ReplyKey) (owner : Nat)
  /-- A move offered an answer; whether a request was waiting for it. -/
  | completed (key : ReplyKey) (claimed : Bool)
  /-- A move failed the head; whether there was one. -/
  | failed (key : ReplyKey) (pending : Bool)
  /-- A frame arrived that no request was waiting for. -/
  | unclaimed (frame : Frame)

/-- The traffic of one host over a transport. -/
structure Link (σ : Type) where
  wire : σ
  /-- The clock, in milliseconds. -/
  now : Nat
  /-- What the timers run on. -/
  runtime : Runtime
  /-- The queue of every key that was ever used, in the order of first use. -/
  queues : List (ReplyKey × Queue)
  /-- The timers of started requests, in the order in which they were started. -/
  timers : List Timer
  nextTimer : Nat
  /-- What happened, oldest first. -/
  journal : List LinkEvent
  /-- Whether the user of the link has let go of it. -/
  isReleased : Bool

namespace Link

variable {σ τ : Type}

/-- A link on which nothing was requested yet. -/
def new (wire : σ) (now : Nat) (runtime : Runtime := .virtual) : Link σ :=
  { wire, now, runtime, queues := [], timers := [], nextTimer := 0, journal := []
    isReleased := false }

/-- The same link over another transport. -/
def withWire (l : Link σ) (wire : τ) : Link τ :=
  { wire, now := l.now, runtime := l.runtime, queues := l.queues, timers := l.timers
    nextTimer := l.nextTimer, journal := l.journal, isReleased := l.isReleased }

/-! ## Queues -/

def queue (l : Link σ) (key : ReplyKey) : Queue :=
  (l.queues.lookup key).getD (.new key.text)

/-- The queues with the one of `key` replaced. -/
def replaced (key : ReplyKey) (q : Queue) : List (ReplyKey × Queue) → List (ReplyKey × Queue)
  | [] => [(key, q)]
  | (key', q') :: rest =>
    if key == key' then (key, q) :: rest else (key', q') :: replaced key q rest

def setQueue (l : Link σ) (key : ReplyKey) (q : Queue) : Link σ :=
  { l with queues := replaced key q l.queues }

/-- The number of unsettled requests on a key. -/
def pending (l : Link σ) (key : ReplyKey) : Nat := (l.queue key).pending

/-- The number of requests that may still be started. -/
def weight (l : Link σ) : Nat := total (fun entry => entry.2.weight) l.queues

def note (l : Link σ) (event : LinkEvent) : Link σ :=
  { l with journal := l.journal ++ [event] }

theorem lookup_replaced (key key' : ReplyKey) (q : Queue) (queues : List (ReplyKey × Queue)) :
    (replaced key q queues).lookup key' = if key' = key then some q else queues.lookup key' := by
  induction queues with
  | nil =>
    by_cases h : key' = key
    · simp [replaced, h]
    · simp [replaced, List.lookup_cons, h, beq_eq_false_iff_ne.mpr h]
  | cons head tail ih =>
    obtain ⟨k, q₀⟩ := head
    by_cases hk : key = k
    · subst hk
      by_cases h : key' = key
      · simp [replaced, h]
      · simp [replaced, List.lookup_cons, h, beq_eq_false_iff_ne.mpr h]
    · by_cases h : key' = k
      · subst h
        simp [replaced, hk, Ne.symm hk]
      · simp [replaced, List.lookup_cons, hk, beq_eq_false_iff_ne.mpr h, ih]

theorem queue_setQueue (l : Link σ) (key key' : ReplyKey) (q : Queue) :
    (l.setQueue key q).queue key' = if key' = key then q else l.queue key' := by
  by_cases h : key' = key <;> simp [queue, setQueue, lookup_replaced, h]

/-! ## Starting and settling -/

/-- Takes up the moves of the head of a queue, if it has not been started, and starts its
timer. -/
def startHead? (l : Link σ) (key : ReplyKey) : Option (Request × List Move × Link σ) :=
  match (l.queue key).start? with
  | none => none
  | some (r, moves, q) =>
    let l := (l.setQueue key q).note (.started key r.ticket r.owner)
    let timer : Timer := ⟨l.nextTimer, key, r.ticket, l.runtime.wakes l.now r.timeout⟩
    some (r, moves, { l with timers := l.timers ++ [timer], nextTimer := l.nextTimer + 1 })

/-- Gives a request that has left its queue its result, and stops its timer. -/
def settle (l : Link σ) (key : ReplyKey) (r : Request) (result : Except Fault Frame) : Link σ :=
  { l.note (.settled key r.ticket r.owner result) with
    timers := l.timers.filter fun t => !(t.key == key && t.ticket == r.ticket) }

/-- Fails every request of a queue, in order. Nothing is left to start. -/
def failAll (l : Link σ) (key : ReplyKey) (fault : Fault) : Link σ :=
  let q := l.queue key
  q.requests.foldl (fun l r => l.settle key r (.error fault))
    (l.setQueue key { q with requests := [] })

/-! ## What may start the next request

The functions of this section take what starts the head of a queue as their argument, so that
they serve both the moves of a request, where the recursion of `activate` supplies it, and the
callers of the link. -/

section Resuming

variable (resume : ReplyKey → Link σ → Link σ)

/-- Answers the request on the wire. An answer that nobody waits for is dropped. -/
def completeThen (l : Link σ) (key : ReplyKey) (reply : Frame) : Bool × Link σ :=
  match (l.queue key).popStarted? with
  | none => (false, l)
  | some (r, q) => (true, resume key ((l.setQueue key q).settle key r (.ok reply)))

/-- Fails the request at the head, started or not. -/
def failThen (l : Link σ) (key : ReplyKey) (fault : Fault) : Bool × Link σ :=
  match (l.queue key).pop? with
  | none => (false, l)
  | some (r, q) => (true, resume key ((l.setQueue key q).settle key r (.error fault)))

/-- Queues a request, which starts at once if it is alone. -/
def submitThen (l : Link σ) (key : ReplyKey) (timeout owner : Nat) (moves : List Move) : Link σ :=
  let q := (l.queue key).push timeout owner moves
  let l := l.setQueue key q
  if q.pending = 1 then resume key l else l

/-- Hands an inbound frame to the request that waits on its key. -/
def dispatchThen (l : Link σ) (frame : Frame) : Bool × Link σ :=
  match ReplyKey.ofFrame? frame with
  | none => (false, l)
  | some key => l.completeThen resume key frame

/-- Takes an inbound frame; one that no request waits for is noted as unclaimed. -/
def receiveThen (l : Link σ) (frame : Frame) : Link σ :=
  match l.dispatchThen resume frame with
  | (true, l) => l
  | (false, l) => l.note (.unclaimed frame)

/-- Hands a frame to the transport and takes what comes back at once. -/
def transmitThen [Transport σ] (l : Link σ) (frame : Frame) : Except Fault Unit × Link σ :=
  match Transport.send l.wire frame with
  | (.error fault, wire) => (.error fault, { l with wire })
  | (.ok replies, wire) => (.ok (), replies.foldl (receiveThen resume) { l with wire })

/-- Makes one move of a request. -/
def perform [Transport σ] (l : Link σ) : Move → Except Fault Unit × Link σ
  | .transmit frame => l.transmitThen resume frame
  | .complete key reply =>
    let (claimed, l) := l.completeThen resume key reply
    (.ok (), l.note (.completed key claimed))
  | .fail key fault =>
    let (pending, l) := l.failThen resume key fault
    (.ok (), l.note (.failed key pending))
  | .failAll key fault => (.ok (), l.failAll key fault)
  | .submit key timeout owner moves =>
    (.ok (), (l.submitThen resume key timeout owner moves).note (.submitted key owner))
  | .hold => (.ok (), l)
  | .refuse fault => (.error fault, l)

/-- Makes the moves of a request in order, up to the first that is refused. -/
def performAll [Transport σ] (l : Link σ) : List Move → Except Fault Unit × Link σ
  | [] => (.ok (), l)
  | move :: rest =>
    match l.perform resume move with
    | (.error fault, l) => (.error fault, l)
    | (.ok (), l) => l.performAll rest

end Resuming

variable [Transport σ]

/-- Starts the head of a queue if it has not been started. If it cannot be sent it fails, unless
it was settled while it was being sent, and the next one is started. At most `fuel` requests are
started. -/
def activateWithin : Nat → ReplyKey → Link σ → Link σ
  | 0, _, l => l
  | fuel + 1, key, l =>
    match l.startHead? key with
    | none => l
    | some (r, moves, l) =>
      match l.performAll (activateWithin fuel) moves with
      | (.ok (), l) => l
      | (.error fault, l) =>
        match (l.queue key).popTicket? r.ticket with
        | none => l
        | some (r, q) =>
          activateWithin fuel key ((l.setQueue key q).settle key r (.error fault))

/-- Starts the head of a queue if it has not been started, and whatever may start after it. -/
def activate (key : ReplyKey) (l : Link σ) : Link σ := activateWithin l.weight key l

/-! ## Operations -/

/-- Answers the request on the wire; whether there was one. -/
def complete (l : Link σ) (key : ReplyKey) (reply : Frame) : Bool × Link σ :=
  l.completeThen activate key reply

/-- Fails the request at the head; whether there was one. -/
def fail (l : Link σ) (key : ReplyKey) (fault : Fault) : Bool × Link σ :=
  l.failThen activate key fault

/-- Queues moves that are made once every earlier request on the key has been settled. -/
def submit (l : Link σ) (key : ReplyKey) (timeout owner : Nat) (moves : List Move) : Link σ :=
  l.submitThen activate key timeout owner moves

/-- Queues frames that are sent once every earlier request on the key has been settled; the first
frame on the key after that is the result. -/
def request (l : Link σ) (key : ReplyKey) (timeout owner : Nat) (frames : List Frame) : Link σ :=
  l.submit key timeout owner (frames.map .transmit)

/-- Hands an inbound frame to the request that waits on its key; whether there was one. -/
def dispatch (l : Link σ) (frame : Frame) : Bool × Link σ :=
  l.dispatchThen activate frame

/-- Takes an inbound frame; one that no request waits for is noted as unclaimed. -/
def receive (l : Link σ) (frame : Frame) : Link σ :=
  l.receiveThen activate frame

/-- Sends a frame now, and takes what comes back at once. -/
def transmit (l : Link σ) (frame : Frame) : Except Fault Unit × Link σ :=
  l.transmitThen activate frame

/-- Fails every waiting request on every key. -/
def close (l : Link σ) : Link σ :=
  l.queues.foldl (fun l (key, _) => l.failAll key .closed) l

/-- Times the request with this ticket out, if it is still at the head of its queue. -/
def expire (l : Link σ) (key : ReplyKey) (ticket : Nat) : Link σ :=
  match (l.queue key).popTicket? ticket with
  | none => l
  | some (r, q) =>
    activate key ((l.setQueue key q).settle key r (.error (.timeout q.label r.timeout)))

/-! ## Letting go -/

/-- Whether some request is still to act on the link. -/
def isHeld (l : Link σ) : Bool := l.queues.any fun entry => entry.2.isHolding

/-- Gives up every waiting request, if the user has let go of the link and no request holds it. -/
def giveUp (l : Link σ) : Link σ :=
  if l.isReleased && !l.isHeld then
    l.queues.foldl (fun l (key, _) => l.failAll key .dropped) l
  else l

/-- Lets go of the link. -/
def release (l : Link σ) : Link σ := { l with isReleased := true }.giveUp

/-! ## Time -/

/-- The moment of the earliest timer. -/
def nextDue? (l : Link σ) : Option Nat := (l.timers.map (·.due)).min?

/-- Times out every request whose timer is due, in the order in which the timers were started. The
request that starts next may have been the last one to hold a link that was let go of. -/
def expireDue (l : Link σ) : Link σ :=
  (l.timers.filter (·.due ≤ l.now)).foldl (fun l t => (l.expire t.key t.ticket).giveUp) l

/-- Moves the clock to `target`, stopping at every timer on the way; at most `rounds` stops. -/
def elapseWithin : Nat → Nat → Link σ → Link σ
  | 0, target, l => { l with now := target }
  | rounds + 1, target, l =>
    match l.nextDue? with
    | none => { l with now := target }
    | some due =>
      if due ≤ target then elapseWithin rounds target { l with now := max l.now due }.expireDue
      else { l with now := target }

/-- The number of requests that are unsettled or may still be queued by one that is. -/
def outstanding (l : Link σ) : Nat :=
  total (fun entry => entry.2.pending) l.queues + l.weight

/-- Lets time pass. Every stop on the way settles a request, so the outstanding ones bound the
number of stops. -/
def elapse (l : Link σ) (milliseconds : Nat) : Link σ :=
  elapseWithin (l.outstanding + 1) (l.now + milliseconds) l

/-- What happened since the journal was last taken. -/
def takeJournal (l : Link σ) : List LinkEvent × Link σ := (l.journal, { l with journal := [] })

end Link

end SensorHost
