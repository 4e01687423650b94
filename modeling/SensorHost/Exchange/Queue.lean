import SensorHost.Fault

/-!
# Request queues

A board answers a command on the module and register that it was sent to, with no number that
would tell which command an answer belongs to. Only order can tell, so the requests that share a
reply key wait in a queue, and only the one at the head is on the wire.

A request is a list of moves, run when the request becomes the head, and a time within which the
answer has to come. Most moves transmit a frame; the others act on the queues themselves, as code
does that is called back while a request is being sent. A request that is still to make a move of
the second kind holds on to the queues: they are not given up before it was made.
-/

namespace SensorHost

/-- One thing that a request does when its turn comes. -/
inductive Move where
  /-- Hands a frame to the transport; a refusal ends the request. -/
  | transmit (frame : Frame)
  /-- Answers the request on the wire. -/
  | complete (key : ReplyKey) (reply : Frame)
  /-- Fails the request at the head. -/
  | fail (key : ReplyKey) (fault : Fault)
  /-- Fails every waiting request. -/
  | failAll (key : ReplyKey) (fault : Fault)
  /-- Queues another request. -/
  | submit (key : ReplyKey) (timeout owner : Nat) (moves : List Move)
  /-- Holds on to the queues and does nothing to them. -/
  | hold
  /-- Ends the request with a fault. -/
  | refuse (fault : Fault)

namespace Move

mutual

/-- The number of requests that a move may queue, those of its requests counted too. -/
def weight : Move → Nat
  | submit _ _ _ moves => 1 + weights moves
  | _ => 0

/-- The number of requests that some moves may queue. -/
def weights : List Move → Nat
  | [] => 0
  | move :: rest => weight move + weights rest

end

/-- Whether the move acts on the queues, so that they have to last until it is made. -/
def isHolding : Move → Bool
  | transmit _ | refuse _ => false
  | _ => true

end Move

/-- A request that has not been settled. -/
structure Request where
  /-- The place of the request in the order of submission. -/
  ticket : Nat
  /-- Who waits for the result. -/
  owner : Nat
  timeout : Nat
  /-- What is still to be done; nothing once the request has been started. -/
  moves : Option (List Move)

namespace Request

/-- Whether the moves of the request have been taken up. -/
def isStarted (r : Request) : Bool := r.moves.isNone

/-- The number of requests that may still be started because of this one. -/
def weight (r : Request) : Nat :=
  match r.moves with
  | some moves => 1 + Move.weights moves
  | none => 0

/-- Whether the request is still to make a move that acts on the queues. -/
def isHolding (r : Request) : Bool :=
  match r.moves with
  | some moves => moves.any Move.isHolding
  | none => false

end Request

/-- The unsettled requests on one reply key, in the order of submission. -/
structure Queue where
  /-- The key as messages quote it. -/
  label : String
  requests : List Request
  nextTicket : Nat

namespace Queue

def new (label : String) : Queue := ⟨label, [], 0⟩

/-- Adds a request at the end. -/
def push (q : Queue) (timeout owner : Nat) (moves : List Move) : Queue :=
  { q with
    requests := q.requests ++ [⟨q.nextTicket, owner, timeout, some moves⟩]
    nextTicket := q.nextTicket + 1 }

/-- Takes up the moves of the head, if it has not been started. -/
def start? (q : Queue) : Option (Request × List Move × Queue) :=
  match q.requests with
  | [] => none
  | head :: rest =>
    match head.moves with
    | none => none
    | some moves => some (head, moves, { q with requests := { head with moves := none } :: rest })

/-- Removes the head. -/
def pop? (q : Queue) : Option (Request × Queue) :=
  match q.requests with
  | [] => none
  | head :: rest => some (head, { q with requests := rest })

/-- Removes the head if it has been started; a request that was not sent cannot be answered. -/
def popStarted? (q : Queue) : Option (Request × Queue) :=
  q.pop?.filter (·.1.isStarted)

/-- Removes the head if it is the request with this ticket. -/
def popTicket? (q : Queue) (ticket : Nat) : Option (Request × Queue) :=
  q.pop?.filter (·.1.ticket = ticket)

/-- The number of unsettled requests. -/
def pending (q : Queue) : Nat := q.requests.length

/-- The number of requests that may still be started. -/
def weight (q : Queue) : Nat := total Request.weight q.requests

/-- Whether a request of the queue is still to act on the queues. -/
def isHolding (q : Queue) : Bool := q.requests.any Request.isHolding

end Queue

end SensorHost
