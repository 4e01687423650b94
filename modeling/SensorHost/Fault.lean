import SensorHost.Address
import SensorHost.Geometry

/-!
# Faults

Everything that can go wrong between a host and its board. A fault may carry contexts, each
saying what was being attempted; `Fault.root` is the cause below them. The wording of every
fault is in `Fault.message`, and the causes that more than one place reports, or that a reader
may want to name, have a definition of their own.
-/

namespace SensorHost

/-- Why an operation failed. -/
inductive Fault where
  /-- A frame geometry that cannot be. -/
  | geometry (cause : GeometryFault)
  /-- A byte range outside a signal's frame. -/
  | index (offset length : Int) (available : Nat)
  /-- An operator that the given kind of signal cannot feed. -/
  | unsupported (kind operator : String)
  /-- A request that no reply matched in time. -/
  | timeout (key : String) (milliseconds : Nat)
  /-- A frame that the transport refused. -/
  | transport (detail : String)
  /-- A request given up before it was answered. -/
  | channel (detail : String)
  /-- Settings that cannot be used, read or written. -/
  | config (detail : String)
  /-- A reply that does not have the expected form. -/
  | protocol (detail : String)
  /-- A name or an id without a processor. -/
  | unknownProcessor (detail : String)
  /-- A recording, event or script in the wrong state. -/
  | recorder (detail : String)
  /-- A snapshot that cannot be written or read. -/
  | serialization (detail : String)
  /-- A failure of the operating system. -/
  | io (detail : String)
  /-- A fault met while attempting something larger. -/
  | inContext (context : String) (cause : Fault)
deriving DecidableEq, Repr

namespace Fault

def message : Fault → String
  | geometry cause => "Layout error: " ++ cause.message
  | index offset length available =>
    s!"Index error: offset {offset} + length {length} exceeds frame of {available} bytes"
  | unsupported kind operator =>
    s!"Unsupported derivation: {kind} cannot feed a {operator} processor"
  | timeout key milliseconds => s!"Timeout: no response for {key} within {milliseconds}ms"
  | transport detail => "Transport error: " ++ detail
  | channel detail => "Channel error: " ++ detail
  | config detail => "Configuration error: " ++ detail
  | protocol detail => "Protocol error: " ++ detail
  | unknownProcessor detail => "Unknown processor: " ++ detail
  | recorder detail => "Recorder error: " ++ detail
  | serialization detail => "Serialization error: " ++ detail
  | io detail => "IO error: " ++ detail
  | inContext context cause => context ++ ": " ++ cause.message

/-- The cause below every context. -/
def root : Fault → Fault
  | inContext _ cause => cause.root
  | fault => fault

/-- Whether the cause is a reply that did not come. -/
def isTimeout (fault : Fault) : Bool :=
  match fault.root with
  | timeout .. => true
  | _ => false

/-! ## Named causes -/

/-- A request whose queue was given up. -/
def dropped : Fault := channel "request dropped before it settled"

/-- A request that was waiting when its link was closed. -/
def closed : Fault := channel "link closed"

/-- Operator bytes that end too early. -/
def operatorTooShort (bytes : Frame) : Fault :=
  protocol ("operator bytes too short: " ++ Hex.listing bytes)

/-- An operator that this host does not know. -/
def operatorUnknown (code : UInt8) : Fault :=
  protocol ("unknown operator id 0x" ++ Hex.byte code)

end Fault

/-- Lifts the check of a geometry to operations that can fail in other ways. -/
def Geometry.lift {α : Type} : Except GeometryFault α → Except Fault α :=
  Except.mapError Fault.geometry

end SensorHost
