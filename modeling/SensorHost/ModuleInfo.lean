import SensorHost.Bytes

/-!
# Module reports

What a firmware module says about itself when its info register is read. A board answers for an
absent module too, with a reply that carries nothing after its header.
-/

namespace SensorHost

/-- What is known of a module. -/
structure ModuleInfo where
  id : UInt8
  /-- The implementation, unless the module is absent from this board. -/
  implementation : Option UInt8
  revision : Option UInt8
  extra : Frame
deriving DecidableEq, Repr

namespace ModuleInfo

/-- The report in a reply of module, register, implementation, revision and further bytes. A
shorter reply reports an absent module, and an empty one nothing at all. -/
def ofReply? : Frame → Option ModuleInfo
  | [] => none
  | id :: _ :: implementation :: revision :: extra =>
    some ⟨id, some implementation, some revision, extra⟩
  | id :: _ => some ⟨id, none, none, []⟩

def isPresent (info : ModuleInfo) : Bool := info.implementation.isSome

end ModuleInfo

end SensorHost
