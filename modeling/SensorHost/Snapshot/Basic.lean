import SensorHost.ModuleInfo
import SensorHost.Processor.Roster
import SensorHost.Recording.Event
import SensorHost.Recording.Script

/-!
# Snapshots

A snapshot is what a host knows of its board, taken out of the session that knows it. Modules,
events and scripts are listed in the order of their ids.
-/

namespace SensorHost

/-- What a host knows of its board. -/
structure Snapshot where
  producers : SortedMap String Signal
  modules : List ModuleInfo
  roster : Roster
  events : List Event
  scripts : List Script
deriving DecidableEq

/-- Whether two processors are the same, their numbers compared as numbers. -/
def Processor.sameValue (p q : Processor) : Bool :=
  p.id == q.id && p.name == q.name && p.operator.sameValue q.operator
    && p.input.sameValue q.input && p.output.sameValue q.output
    && Signal.sameValueOption p.state q.state

/-- Whether two maps have the same keys and `same` values under them. -/
def SortedMap.sameValues {κ ν : Type} [Ord κ] [BEq κ] (same : ν → ν → Bool)
    (m n : SortedMap κ ν) : Bool :=
  m.keys == n.keys && (m.values.zip n.values).all fun (a, b) => same a b

/-- Whether two snapshots are the same, their numbers compared as numbers. -/
def Snapshot.sameValue (s t : Snapshot) : Bool :=
  s.producers.sameValues Signal.sameValue t.producers && s.modules == t.modules
    && s.roster.active.sameValues Processor.sameValue t.roster.active
    && s.roster.names.sameValues (· == ·) t.roster.names
    && s.events == t.events && s.scripts == t.scripts

end SensorHost
