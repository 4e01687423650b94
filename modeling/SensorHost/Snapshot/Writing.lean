import SensorHost.Json.Typed
import SensorHost.Snapshot.Basic
import SensorHost.Snapshot.Words

/-!
# Writing snapshots

A snapshot is written as a JSON document. Every field is written, in a fixed order; one without a
value is null. Maps are objects, their keys in order.
-/

namespace SensorHost

def byteJson (b : UInt8) : Json := .nat b.toNat

def frameJson (frame : Frame) : Json := .list byteJson frame

def Address.toJson (a : Address) : Json :=
  .record [("module", byteJson a.moduleId), ("register", byteJson a.register), ("id", byteJson a.id)]

def Geometry.toJson (g : Geometry) : Json :=
  .record [("field_sizes", frameJson g.widths), ("repeat_count", byteJson g.units),
    ("sub_offset", byteJson g.offset), ("signed", .bool g.signed)]

namespace Signal

mutual

def toJson : Signal → Json
  | ⟨kind, address, geometry, ownScale, feed, axes, members⟩ =>
    .record [("kind", .name Kind.words kind), ("address", address.toJson),
      ("layout", geometry.toJson), ("scale", .optional .single ownScale),
      ("input", feedJson feed), ("split", .array (listJson axes)),
      ("parts", .array (listJson members))]

def feedJson : Option Signal → Json
  | none => .null
  | some s => toJson s

def listJson : List Signal → List Json
  | [] => []
  | s :: rest => toJson s :: listJson rest

end

end Signal

def FusedSource.toJson (source : FusedSource) : Json :=
  .record [("id", byteJson source.id), ("state", source.state.toJson)]

/-- An alternative with its fields. -/
def choiceJson (name : String) (fields : List (String × Json)) : Json :=
  .record [(name, .record fields)]

def Operator.toJson : Operator → Json
  | passthrough mode count =>
    choiceJson "Passthrough" [("mode", .name PassthroughMode.words mode), ("count", .nat count.toNat)]
  | accumulate counting width =>
    choiceJson "Accumulate" [("counter", .bool counting), ("output_size", byteJson width)]
  | average samples highPass =>
    choiceJson "Average" [("samples", byteJson samples), ("high_pass", .bool highPass)]
  | delay samples => choiceJson "Delay" [("samples", byteJson samples)]
  | time mode period =>
    choiceJson "Time" [("mode", .name TimeMode.words mode), ("period_ms", .nat period.toNat)]
  | buffer => .text "Buffer"
  | math op operand everyField =>
    choiceJson "Math" [("op", .name MathOp.words op), ("rhs", .single operand),
      ("multi_channel", .bool everyField)]
  | pulse mode level width =>
    choiceJson "Pulse" [("mode", .name PulseMode.words mode), ("threshold", .single level),
      ("width", .nat width.toNat)]
  | compareOne op reference =>
    .record [("Comparison", choiceJson "Single" [("op", .name ComparisonOp.words op),
      ("reference", .single reference)])]
  | compareMany op output references =>
    .record [("Comparison", choiceJson "Multi" [("op", .name ComparisonOp.words op),
      ("mode", .name ComparisonOutput.words output), ("references", .list .single references)])]
  | threshold mode boundary hysteresis =>
    choiceJson "Threshold" [("mode", .name ThresholdMode.words mode), ("boundary", .single boundary),
      ("hysteresis", .single hysteresis)]
  | differential mode distance =>
    choiceJson "Differential" [("mode", .name DifferentialMode.words mode),
      ("distance", .single distance)]
  | packer count => choiceJson "Packer" [("count", byteJson count)]
  | accounter mode length =>
    choiceJson "Accounter" [("mode", .name AccounterMode.words mode), ("length", byteJson length)]
  | fuser sources => choiceJson "Fuser" [("sources", .list FusedSource.toJson sources)]
  | combine mode => choiceJson "Combine" [("mode", .name CombineMode.words mode)]

def Processor.toJson (p : Processor) : Json :=
  .record [("id", byteJson p.id), ("name", .optional .text p.name), ("config", p.operator.toJson),
    ("input", p.input.toJson), ("output", p.output.toJson), ("state", .optional Signal.toJson p.state)]

def Roster.toJson (r : Roster) : Json :=
  .record [
    ("active", .record (r.active.entries.map fun (id, p) => (toString id.toNat, p.toJson))),
    ("names", .record (r.names.entries.map fun (name, id) => (name, byteJson id)))]

def ModuleInfo.toJson (info : ModuleInfo) : Json :=
  .record [("id", byteJson info.id), ("implementation", .optional byteJson info.implementation),
    ("revision", .optional byteJson info.revision), ("extra", frameJson info.extra)]

def ByteRange.toJson (range : ByteRange) : Json :=
  .record [("address", range.address.toJson), ("offset", byteJson range.offset),
    ("length", byteJson range.length)]

def PayloadCopy.toJson (copy : PayloadCopy) : Json :=
  .record [("source", copy.source.toJson), ("dest_offset", byteJson copy.destination)]

def Event.toJson (event : Event) : Json :=
  .record [("id", byteJson event.id), ("trigger", event.trigger.toJson),
    ("command", frameJson event.command), ("feedback", .optional PayloadCopy.toJson event.copy)]

def Script.toJson (script : Script) : Json :=
  .record [("id", byteJson script.id), ("auto_run", .bool script.autoRun),
    ("commands", .list frameJson script.commands)]

namespace Snapshot

def toJson (s : Snapshot) : Json :=
  .record [
    ("producers", .record (s.producers.entries.map fun (name, signal) => (name, signal.toJson))),
    ("modules", .list ModuleInfo.toJson s.modules),
    ("processors", s.roster.toJson),
    ("events", .list Event.toJson s.events),
    ("macros", .list Script.toJson s.scripts)]

/-- The snapshot as a document. -/
def toText (s : Snapshot) : String := s.toJson.render

end Snapshot

end SensorHost
