import SensorHost.SortedMap
import SensorHost.Operator.Product

/-!
# The roster of processors

The host's view of the processors on the board: each by the id that the board assigned, and the
names under which callers registered some of them. Putting a processor under an id that is taken
replaces the one that had it; a name moves to the processor that was registered under it last;
removing a processor removes every name that leads to it.
-/

namespace SensorHost

/-- A processor that exists on the board. -/
structure Processor where
  id : UInt8
  name : Option String
  operator : Operator
  input : Signal
  output : Signal
  state : Option Signal
deriving DecidableEq

/-- The processors on the board, and the names of some of them. -/
structure Roster where
  active : SortedMap UInt8 Processor
  names : SortedMap String UInt8
deriving DecidableEq

namespace Roster

def empty : Roster := ⟨.empty, .empty⟩

instance : Inhabited Roster := ⟨empty⟩

/-- Adds a processor, and its name if it has one. -/
def insert (r : Roster) (p : Processor) : Roster where
  active := r.active.insert p.id p
  names := match p.name with
    | some name => r.names.insert name p.id
    | none => r.names

/-- Removes a processor and its names; an id that no processor has changes nothing. -/
def erase (r : Roster) (id : UInt8) : Roster :=
  if r.active.contains id then
    ⟨r.active.erase id, r.names.filter fun _ named => named != id⟩
  else r

def get? (r : Roster) (id : UInt8) : Option Processor := r.active.get? id

/-- The id that a name leads to. -/
def idOf? (r : Roster) (name : String) : Option UInt8 := r.names.get? name

/-- The processor that a name leads to. -/
def named? (r : Roster) (name : String) : Option Processor :=
  (r.idOf? name).bind r.get?

/-- What the processor `id` keeps, if it keeps anything. -/
def stateOf? (r : Roster) (id : UInt8) : Option Signal :=
  (r.get? id).bind (·.state)

def ids (r : Roster) : List UInt8 := r.active.keys

def processors (r : Roster) : List Processor := r.active.values

def size (r : Roster) : Nat := r.active.size

def isEmpty (r : Roster) : Bool := r.active.isEmpty

end Roster

end SensorHost
