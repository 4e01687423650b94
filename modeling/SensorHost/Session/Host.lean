import SensorHost.Settings.Basic
import SensorHost.Signal.Decoding
import SensorHost.Snapshot.Basic
import SensorHost.SortedMap

/-!
# What a host knows

The state that a host keeps of one board: the producers that were registered, the modules that
reported, the processors, events and scripts that were created, the open recording, and who
listens to which signal. A host learns only from the calls made on it; the frames that travel are
the link's matter.
-/

namespace SensorHost

/-- Someone who wants the samples of a signal. -/
structure Subscription where
  number : Nat
  signal : Signal
  /-- Whether anyone still takes the samples. -/
  isOpen : Bool

/-- What a host knows of its board. -/
structure Host where
  settings : Settings
  recorder : Recorder
  producers : SortedMap String Signal
  modules : SortedMap UInt8 ModuleInfo
  roster : Roster
  events : SortedMap UInt8 Event
  scripts : SortedMap UInt8 Script
  /-- Who listens, in the order of subscription. -/
  subscriptions : List Subscription

namespace Host

/-- A host that knows nothing yet. -/
def new (settings : Settings) : Host where
  settings
  recorder := .idle
  producers := .empty
  modules := .empty
  roster := .empty
  events := .empty
  scripts := .empty
  subscriptions := []

instance : Inhabited Host := ⟨new default⟩

/-- The producer registered at an address; of several the first by name. -/
def producerAt? (h : Host) (a : Address) : Option Signal :=
  h.producers.values.find? fun signal => signal.address = a

/-! ## Streaming -/

def subscribe (h : Host) (number : Nat) (signal : Signal) : Host :=
  { h with subscriptions := h.subscriptions ++ [⟨number, signal, true⟩] }

/-- Drops every subscription to an address. -/
def unsubscribe (h : Host) (a : Address) : Host :=
  { h with subscriptions := h.subscriptions.filter fun s => s.signal.address ≠ a }

/-- Notes that nobody takes the samples of a subscription any more. -/
def dropListener (h : Host) (number : Nat) : Host :=
  { h with
    subscriptions := h.subscriptions.map fun s =>
      if s.number = number then { s with isOpen := false } else s }

end Host

namespace Subscription

/-- The payload of a frame for this subscription: what follows module and register, and the id
if the address has one. -/
def payload? (s : Subscription) : Frame → Option Frame
  | moduleId :: register :: rest =>
    let a := s.signal.address
    if a.key ≠ ⟨moduleId, register⟩ then none
    else if a.isIndexed then
      match rest with
      | id :: data => if id = a.id then some data else none
      | [] => none
    else some rest
  | _ => none

/-- The samples that a frame brings to this subscription. -/
def samples (s : Subscription) (frame : Frame) : List Sample :=
  match s.payload? frame with
  | some data => s.signal.samples data false
  | none => []

end Subscription

namespace Host

/-- Hands a frame to everyone who listens to it: the samples by the number of the subscription,
and the host afterwards. A subscription that nobody takes the samples of ends. -/
def deliver (h : Host) (frame : Frame) : List (Nat × Sample) × Host :=
  ((h.subscriptions.filter (·.isOpen)).flatMap fun s => (s.samples frame).map (s.number, ·),
    { h with
      subscriptions := h.subscriptions.filter fun s => s.isOpen || (s.samples frame).isEmpty })

/-! ## Snapshots -/

/-- What the host knows, taken out of it. -/
def snapshot (h : Host) : Snapshot where
  producers := h.producers
  modules := h.modules.values
  roster := h.roster
  events := h.events.values
  scripts := h.scripts.values

/-- The host with what it knows replaced. Modules, events and scripts are kept by their own
ids. -/
def restore (h : Host) (s : Snapshot) : Host :=
  { h with
    producers := s.producers
    modules := .ofList (s.modules.map fun m => (m.id, m))
    roster := s.roster
    events := .ofList (s.events.map fun e => (e.id, e))
    scripts := .ofList (s.scripts.map fun m => (m.id, m)) }

end Host

end SensorHost
