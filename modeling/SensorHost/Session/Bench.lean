import SensorHost.Board.Simulated
import SensorHost.Session.Basic

/-!
# A bench in virtual time

A bench runs the calls of many callers on a simulated board. Each call that may wait is a task;
tasks take turns in the order in which they were woken, and a task runs until it has to wait. The
clock moves only when no task has a turn, and then from one timer to the next; timers that are
due at the same moment fire in the order in which they were started.

The board can be given to a new session. The session before it is kept as long as a task runs on
it: what such a task sends goes to the board through the new session, which also takes what comes
back.
-/

namespace SensorHost

/-- What a task is about to do. -/
inductive Activity (ρ : Type) where
  | running (dialogue : Dialogue true (Except Fault ρ))
  | awaiting (resume : Except Fault Frame → Dialogue true (Except Fault ρ))
  /-- The number of its timer among all timers and the moment at which it is due. -/
  | pausing (timer due : Nat) (next : Dialogue true (Except Fault ρ))

/-- A call that has not finished. -/
structure Task (ρ : Type) where
  id : Nat
  /-- The number of the session on which the call was made. -/
  session : Nat
  activity : Activity ρ

/-- What is done next. -/
inductive Turn where
  | expire (session : Nat) (key : ReplyKey) (ticket : Nat)
  | run (task : Nat)

/-- A simulated board, the sessions on it and the calls made on them. -/
structure Bench (ρ : Type) where
  now : Nat
  nextTimer : Nat
  current : Session Board
  /-- The number of the current session. -/
  number : Nat
  /-- Sessions that were given up, but on which tasks still run. -/
  retired : List (Nat × Session Unit)
  tasks : List (Task ρ)
  nextTask : Nat
  turns : List Turn
  /-- The results of finished calls, in the order in which they finished. -/
  finished : List (Nat × Except Fault ρ)
  nextSubscription : Nat
  /-- The subscriptions that were not yet reported as ended. -/
  listening : List Nat

namespace Bench

variable {ρ α : Type}

/-- A bench with a session that was just opened. -/
def new (current : Session Board) : Bench ρ where
  now := 0
  nextTimer := 0
  current
  number := 0
  retired := []
  tasks := []
  nextTask := 0
  turns := []
  finished := []
  nextSubscription := 0
  listening := []

def board (b : Bench ρ) : Board := b.current.link.wire

def withBoard (b : Bench ρ) (board : Board) : Bench ρ :=
  { b with current := b.current.withWire board }

/-! ## Waking tasks -/

/-- Gives the result of a request to the task that waits for it, which then has a turn. -/
def wake (b : Bench ρ) (outcome : Nat × Except Fault Frame) : Bench ρ :=
  { b with
    tasks := b.tasks.map fun t =>
      match t.activity with
      | .awaiting resume =>
        if t.id = outcome.1 then { t with activity := .running (resume outcome.2) } else t
      | _ => t
    turns := b.turns ++ [.run outcome.1] }

/-- Wakes the tasks whose requests were settled on the current session. -/
def wakeCurrent (b : Bench ρ) : Bench ρ :=
  b.current.outcomes.foldl wake { b with current := { b.current with outcomes := [] } }

/-- A session with the time and the count of timers of the bench. -/
def tuned {σ : Type} (b : Bench ρ) (s : Session σ) : Session σ :=
  { s with link := { s.link with now := b.now, nextTimer := b.nextTimer } }

/-- Does something on the current session. -/
def onCurrent (b : Bench ρ) (act : Session Board → α × Session Board) : α × Bench ρ :=
  let (result, current) := act (b.tuned b.current)
  (result, wakeCurrent { b with current, nextTimer := current.link.nextTimer })

/-- Does something on a session that was given up, through the current one. -/
def onRetired (b : Bench ρ) (number : Nat) (s : Session Unit)
    (act : Session (Relay Board) → α × Session (Relay Board)) : α × Bench ρ :=
  let (result, s) := act ((b.tuned s).withWire ⟨b.tuned b.current⟩)
  let current := s.link.wire.session
  let b := wakeCurrent
    { b with current, nextTimer := max s.link.nextTimer current.link.nextTimer }
  let outcomes := s.outcomes
  let s : Session Unit := { s with outcomes := [] : Session (Relay Board) }.withWire ()
  (result, outcomes.foldl wake
    { b with retired := b.retired.map fun entry => if entry.1 = number then (number, s) else entry })

/-- Does something on the session with this number, if there is one. -/
def onSession (b : Bench ρ) (number : Nat)
    (act : {σ : Type} → [Transport σ] → Session σ → α × Session σ) : Option α × Bench ρ :=
  if number = b.number then
    let (result, b) := b.onCurrent act
    (some result, b)
  else
    match b.retired.lookup number with
    | none => (none, b)
    | some s =>
      let (result, b) := b.onRetired number s act
      (some result, b)

/-! ## Turns -/

/-- Lets go of the sessions that were given up and on which no task runs. -/
def release (b : Bench ρ) : Bench ρ :=
  { b with retired := b.retired.filter fun entry => b.tasks.any (·.session = entry.1) }

def setActivity (b : Bench ρ) (id : Nat) (activity : Activity ρ) : Bench ρ :=
  { b with tasks := b.tasks.map fun t => if t.id = id then { t with activity } else t }

/-- Runs a task that has a turn. -/
def runTask (b : Bench ρ) (id : Nat) : Bench ρ :=
  match b.tasks.find? (·.id = id) with
  | some ⟨_, session, .running dialogue⟩ =>
    match b.onSession session (Session.advance id dialogue) with
    | (none, b) => b
    | (some (.finished result), b) =>
      release { b with
        tasks := b.tasks.filter (·.id ≠ id)
        finished := b.finished ++ [(id, result)] }
    | (some (.awaiting resume), b) => b.setActivity id (.awaiting resume)
    | (some (.pausing milliseconds next), b) =>
      { b with nextTimer := b.nextTimer + 1 }.setActivity id
        (.pausing b.nextTimer (b.current.link.runtime.wakes b.now milliseconds) next)
  | _ => b

def takeTurn (b : Bench ρ) : Turn → Bench ρ
  | .expire session key ticket => (b.onSession session fun s => ((), s.expire key ticket)).2
  | .run task => b.runTask task

/-! ## Timers -/

/-- Every timer: its number, when it is due, and what happens then. -/
def timers (b : Bench ρ) : List (Nat × Nat × Turn) :=
  let ofSession {σ : Type} (number : Nat) (s : Session σ) : List (Nat × Nat × Turn) :=
    s.link.timers.map fun t => (t.number, t.due, .expire number t.key t.ticket)
  let pauses := b.tasks.filterMap fun t =>
    match t.activity with
    | .pausing timer due _ => some (timer, due, Turn.run t.id)
    | _ => none
  ofSession b.number b.current ++ b.retired.flatMap (fun (n, s) => ofSession n s) ++ pauses

def nextDue? (b : Bench ρ) : Option Nat := (b.timers.map (·.2.1)).min?

/-- Ends the pauses that are over. -/
def endPauses (b : Bench ρ) : Bench ρ :=
  { b with
    tasks := b.tasks.map fun t =>
      match t.activity with
      | .pausing _ due next => if due ≤ b.now then { t with activity := .running next } else t
      | _ => t }

/-- Gives a turn to every timer that is due. -/
def fireDue (b : Bench ρ) : Bench ρ :=
  let due := (b.timers.filter (·.2.1 ≤ b.now)).mergeSort fun s t => s.1 ≤ t.1
  { b.endPauses with turns := b.turns ++ due.map (·.2.2) }

/-! ## Running -/

/-- More turns than any run of a bench takes. -/
def turnLimit : Nat := 0x4000000000000000

/-- Takes turns until nothing can happen without time passing. -/
def settleWithin : Nat → Bench ρ → Bench ρ
  | 0, b => b
  | fuel + 1, b =>
    match b.turns with
    | turn :: rest => settleWithin fuel ({ b with turns := rest }.takeTurn turn)
    | [] => if b.nextDue?.any (· ≤ b.now) then settleWithin fuel b.fireDue else b

def settle (b : Bench ρ) : Bench ρ := settleWithin turnLimit b

/-- Lets time pass up to `target`, stopping at every timer on the way. -/
def elapseWithin : Nat → Nat → Bench ρ → Bench ρ
  | 0, _, b => b
  | fuel + 1, target, b =>
    let b := b.settle
    match b.nextDue? with
    | none => { b with now := max b.now target }
    | some due =>
      if due ≤ target then elapseWithin fuel target { b with now := due }
      else { b with now := max b.now target }

def elapse (b : Bench ρ) (milliseconds : Nat) : Bench ρ :=
  elapseWithin turnLimit (b.now + milliseconds) b

/-- The result of a finished call, and the bench without it. -/
def takeResult? (b : Bench ρ) (task : Nat) : Option (Except Fault ρ × Bench ρ) :=
  (b.finished.lookup task).map fun result =>
    (result, { b with finished := b.finished.eraseP (·.1 = task) })

/-- Lets time pass until a call has finished; nothing if no timer is left that could end it. -/
def awaitWithin (task : Nat) : Nat → Bench ρ → Option (Except Fault ρ) × Bench ρ
  | 0, b => (none, b)
  | fuel + 1, b =>
    let b := b.settle
    match b.takeResult? task with
    | some (result, b) => (some result, b)
    | none =>
      match b.nextDue? with
      | none => (none, b)
      | some due => awaitWithin task fuel { b with now := due }

def await (b : Bench ρ) (task : Nat) : Option (Except Fault ρ) × Bench ρ :=
  awaitWithin task turnLimit b

/-! ## Operations -/

/-- Makes a call that does not wait. -/
def run (b : Bench ρ) (call : Call false α) : Except Fault α × Bench ρ :=
  b.onCurrent fun s => s.run call

/-- Makes a call that may wait; it has a turn after everything that has one already. -/
def start (b : Bench ρ) (call : Call true ρ) : Nat × Bench ρ :=
  (b.nextTask, { b with
    tasks := b.tasks ++ [⟨b.nextTask, b.number, .running call.run⟩]
    nextTask := b.nextTask + 1
    turns := b.turns ++ [.run b.nextTask] })

/-- Subscribes to a signal; the number of the subscription. -/
def stream (b : Bench ρ) (signal : Signal) : Except Fault Nat × Bench ρ :=
  let number := b.nextSubscription
  match b.run (.stream number signal) with
  | (.error fault, b) => (.error fault, b)
  | (.ok (), b) =>
    (.ok number, { b with nextSubscription := number + 1, listening := b.listening ++ [number] })

/-- Takes no more samples of a subscription. -/
def dropListener (b : Bench ρ) (number : Nat) : Bench ρ :=
  let drop {σ : Type} (s : Session σ) : Session σ := { s with host := s.host.dropListener number }
  { b with
    current := drop b.current
    retired := b.retired.map fun (n, s) => (n, drop s)
    listening := b.listening.filter (· ≠ number) }

/-- Takes a frame from the board. -/
def receive (b : Bench ρ) (frame : Frame) : Bench ρ :=
  (b.onCurrent fun s => ((), s.receive frame)).2

def close (b : Bench ρ) : Bench ρ := (b.onCurrent fun s => ((), s.close)).2

/-- Gives the board to a new session. -/
def reconnect (b : Bench ρ) (settings : Settings) : Except Fault Unit × Bench ρ :=
  match Session.create settings b.board b.now b.current.link.runtime with
  | .error fault => (.error fault, b)
  | .ok current =>
    (.ok (), release { b with
      current
      number := b.number + 1
      retired := b.retired ++ [(b.number, b.current.withWire ())] })

/-! ## Reports -/

/-- What happened since the last report: the finished calls, the samples that were delivered and
the subscriptions that ended. -/
structure Report (ρ : Type) where
  finished : List (Nat × Except Fault ρ)
  samples : List (Nat × Sample)
  ended : List Nat

/-- What happened since the last report. -/
def report (b : Bench ρ) : Report ρ × Bench ρ :=
  let hosts := b.current.host :: b.retired.map (·.2.host)
  let held (number : Nat) : Bool := hosts.any fun h => h.subscriptions.any (·.number = number)
  ({ finished := b.finished
     samples := b.retired.flatMap (·.2.delivered) ++ b.current.delivered
     ended := b.listening.filter fun number => !held number },
    { b with
      finished := []
      current := { b.current with delivered := [] }
      retired := b.retired.map fun (n, s) => (n, { s with delivered := [] })
      listening := b.listening.filter held })

end Bench

end SensorHost
