import SensorHost.Exchange.Link
import SensorHost.Session.Processors
import SensorHost.Session.Recordings

/-!
# Sessions

A session is a host together with its link to one board. It runs calls: a call that waits is run
up to the point where it has to wait, and its caller goes on with it later. A frame from the
board first goes to the request that waits on its key; a frame that no request waits for goes to
the subscribers of its address.

A session may itself be the wire of another one (`Relay`): frames are sent through it, and what
comes back stays with it. This is how a session that was given up still reaches the board.
-/

namespace SensorHost

/-- A host and its link to a board. -/
structure Session (σ : Type) where
  host : Host
  link : Link σ
  /-- The results of settled requests, each with its owner, oldest first. -/
  outcomes : List (Nat × Except Fault Frame)
  /-- The samples that were delivered, each with the number of its subscription, oldest first. -/
  delivered : List (Nat × Sample)

/-- How far a call has come. -/
inductive Progress (α : Type) where
  | finished (result : α)
  | awaiting (resume : Except Fault Frame → Dialogue true α)
  | pausing (milliseconds : Nat) (next : Dialogue true α)

namespace Session

variable {σ τ α : Type}

/-- A session on which nothing was called yet. -/
def new (settings : Settings) (wire : σ) (now : Nat) (runtime : Runtime := .virtual) : Session σ :=
  ⟨.new settings, .new wire now runtime, [], []⟩

/-- Opens a session, if its settings are valid. -/
def create (settings : Settings) (wire : σ) (now : Nat) (runtime : Runtime := .virtual) :
    Except Fault (Session σ) := do
  settings.validate
  return new settings wire now runtime

/-- The same session over another wire. -/
def withWire (s : Session σ) (wire : τ) : Session τ := { s with link := s.link.withWire wire }

/-! ## What happens on the link -/

/-- Takes note of something that happened on the link. -/
def absorbEvent (s : Session σ) : LinkEvent → Session σ
  | .settled _ _ owner result => { s with outcomes := s.outcomes ++ [(owner, result)] }
  | .unclaimed frame =>
    let (samples, host) := s.host.deliver frame
    { s with host, delivered := s.delivered ++ samples }
  | _ => s

/-- Takes note of everything that happened on the link since the last time. -/
def absorb (s : Session σ) : Session σ :=
  let (journal, link) := s.link.takeJournal
  journal.foldl absorbEvent { s with link }

variable [Transport σ]

/-- Takes a frame from the board. -/
def receive (s : Session σ) (frame : Frame) : Session σ :=
  absorb { s with link := s.link.receive frame }

/-- Sends a frame now. -/
def transmit (s : Session σ) (frame : Frame) : Except Fault Unit × Session σ :=
  let (result, link) := s.link.transmit frame
  (result, absorb { s with link })

/-- Queues frames to be sent when it is their turn. -/
def request (s : Session σ) (key : ReplyKey) (timeout owner : Nat) (frames : List Frame) :
    Session σ :=
  absorb { s with link := s.link.request key timeout owner frames }

/-- Times out a request. -/
def expire (s : Session σ) (key : ReplyKey) (ticket : Nat) : Session σ :=
  absorb { s with link := s.link.expire key ticket }

/-- Fails every waiting request and drops every subscription. -/
def close (s : Session σ) : Session σ :=
  let s := absorb { s with link := s.link.close }
  { s with host := { s.host with subscriptions := [] } }

/-! ## Running calls -/

/-- The first result for an owner, and the session without it. -/
def takeOutcome? (s : Session σ) (owner : Nat) : Option (Except Fault Frame × Session σ) :=
  match s.outcomes.lookup owner with
  | none => none
  | some result =>
    some (result, { s with outcomes := s.outcomes.eraseP (·.1 = owner) })

/-- Runs a call up to the point where it has to wait. -/
def advance (owner : Nat) : Dialogue true α → Session σ → Progress α × Session σ
  | .done result, s => (.finished result, s)
  | .look resume, s => advance owner (resume s.host) s
  | .update change next, s => advance owner next { s with host := change s.host }
  | .measure resume, s => advance owner (resume (Transport.frameLimit s.link.wire)) s
  | .transmit frame resume, s =>
    let (result, s) := s.transmit frame
    advance owner (resume result) s
  | .ask _ key timeout frames resume, s =>
    let s := s.request key timeout owner frames
    match s.takeOutcome? owner with
    | some (result, s) => advance owner (resume result) s
    | none => (.awaiting resume, s)
  | .pause _ milliseconds next, s => (.pausing milliseconds next, s)

/-- Runs a dialogue that does not wait. -/
def perform : Dialogue false α → Session σ → α × Session σ
  | .done result, s => (result, s)
  | .look resume, s => perform (resume s.host) s
  | .update change next, s => perform next { s with host := change s.host }
  | .measure resume, s => perform (resume (Transport.frameLimit s.link.wire)) s
  | .transmit frame resume, s =>
    let (result, s) := s.transmit frame
    perform (resume result) s
  | .ask may .., _ => nomatch may
  | .pause may .., _ => nomatch may

/-- Makes a call that does not wait. -/
def run (s : Session σ) (call : Call false α) : Except Fault α × Session σ :=
  perform call.run s

end Session

/-- A session as the wire of another one. -/
structure Relay (σ : Type) where
  session : Session σ

instance {σ : Type} [Transport σ] : Transport (Relay σ) where
  send relay frame :=
    let (result, session) := relay.session.transmit frame
    (result.map fun _ => [], ⟨session⟩)
  frameLimit relay := Transport.frameLimit relay.session.link.wire

end SensorHost
