import SensorHost.Snapshot.Writing

/-!
# Reading snapshots

A snapshot is read from a JSON document field by field. A field that may have no value may be
left out; every other has to be there, and none may be given twice. What is read is not checked
further: a snapshot may hold a geometry that could not be made.
-/

namespace SensorHost

open Json

def readFrame? : Reader Frame := readList? readByte?

def Address.read? : Reader Address :=
  readRecord? ["module", "register", "id"] fun depth fields =>
    match fields with
    | [moduleId, register, id] => do
      return {
        moduleId := ← required? readByte? depth moduleId
        register := ← required? readByte? depth register
        id := ← required? readByte? depth id }
    | _ => none

def Geometry.read? : Reader Geometry :=
  readRecord? ["field_sizes", "repeat_count", "sub_offset", "signed"] fun depth fields =>
    match fields with
    | [widths, units, offset, signed] => do
      return {
        widths := ← required? readFrame? depth widths
        units := ← required? readByte? depth units
        offset := ← required? readByte? depth offset
        signed := ← required? readBool? depth signed }
    | _ => none

/-- Reads a field that may be left out or null. -/
def optionalOf? {α : Type} (read : Json → Option α) : Option Json → Option (Option α)
  | none | some .null => some none
  | some j => (read j).map some

/-- Reads a field that is a list. -/
def itemsOf? {α : Type} (read : Json → Option α) : Option Json → Option (List α)
  | some (.array items) => items.mapM read
  | _ => none

/-- Reads a signal. The signals that it holds nest one level deeper, those in lists two. -/
def Signal.read? : Reader Signal
  | depth + 2, j => do
    match ← fields? ["kind", "address", "layout", "scale", "input", "split", "parts"] j with
    | [kind, address, geometry, scale, feed, axes, members] =>
      return {
        kind := ← required? (readName? Kind.words) (depth + 1) kind
        address := ← required? Address.read? (depth + 1) address
        geometry := ← required? Geometry.read? (depth + 1) geometry
        ownScale := ← optional? readSingle? (depth + 1) scale
        feed := ← optionalOf? (Signal.read? (depth + 1)) feed
        axes := ← itemsOf? (Signal.read? depth) axes
        members := ← itemsOf? (Signal.read? depth) members }
    | _ => none
  | _, _ => none

def FusedSource.read? : Reader FusedSource :=
  readRecord? ["id", "state"] fun depth fields =>
    match fields with
    | [id, state] => do
      return ⟨← required? readByte? depth id, ← required? Signal.read? depth state⟩
    | _ => none

namespace Operator

def readCompareOne? : Reader Operator :=
  readRecord? ["op", "reference"] fun depth fields =>
    match fields with
    | [op, reference] => do
      return .compareOne (← required? (readName? ComparisonOp.words) depth op)
        (← required? readSingle? depth reference)
    | _ => none

def readCompareMany? : Reader Operator :=
  readRecord? ["op", "mode", "references"] fun depth fields =>
    match fields with
    | [op, output, references] => do
      return .compareMany (← required? (readName? ComparisonOp.words) depth op)
        (← required? (readName? ComparisonOutput.words) depth output)
        (← required? (readList? readSingle?) depth references)
    | _ => none

/-- Reads the content of a comparison. -/
def readComparison? : Reader Operator := fun depth j => do
  match ← choice? depth j with
  | ("Single", some (depth, content)) => readCompareOne? depth content
  | ("Multi", some (depth, content)) => readCompareMany? depth content
  | _ => none

/-- Reads the fields of an operator other than a comparison and a buffer. -/
def readFields? (name : String) (depth : Nat) (j : Json) : Option Operator :=
  let record (names : List String) (read : Nat → List (Option Json) → Option Operator) :=
    readRecord? names read depth j
  match name with
  | "Passthrough" => record ["mode", "count"] fun depth fields =>
    match fields with
    | [mode, count] => do
      return .passthrough (← required? (readName? PassthroughMode.words) depth mode)
        (UInt16.ofNat (← required? (readNat? UInt16.size) depth count))
    | _ => none
  | "Accumulate" => record ["counter", "output_size"] fun depth fields =>
    match fields with
    | [counting, width] => do
      return .accumulate (← required? readBool? depth counting) (← required? readByte? depth width)
    | _ => none
  | "Average" => record ["samples", "high_pass"] fun depth fields =>
    match fields with
    | [samples, highPass] => do
      return .average (← required? readByte? depth samples) (← required? readBool? depth highPass)
    | _ => none
  | "Delay" => record ["samples"] fun depth fields =>
    match fields with
    | [samples] => do return .delay (← required? readByte? depth samples)
    | _ => none
  | "Time" => record ["mode", "period_ms"] fun depth fields =>
    match fields with
    | [mode, period] => do
      return .time (← required? (readName? TimeMode.words) depth mode)
        (UInt32.ofNat (← required? (readNat? UInt32.size) depth period))
    | _ => none
  | "Math" => record ["op", "rhs", "multi_channel"] fun depth fields =>
    match fields with
    | [op, operand, everyField] => do
      return .math (← required? (readName? MathOp.words) depth op)
        (← required? readSingle? depth operand) (← required? readBool? depth everyField)
    | _ => none
  | "Pulse" => record ["mode", "threshold", "width"] fun depth fields =>
    match fields with
    | [mode, level, width] => do
      return .pulse (← required? (readName? PulseMode.words) depth mode)
        (← required? readSingle? depth level)
        (UInt16.ofNat (← required? (readNat? UInt16.size) depth width))
    | _ => none
  | "Threshold" => record ["mode", "boundary", "hysteresis"] fun depth fields =>
    match fields with
    | [mode, boundary, hysteresis] => do
      return .threshold (← required? (readName? ThresholdMode.words) depth mode)
        (← required? readSingle? depth boundary) (← required? readSingle? depth hysteresis)
    | _ => none
  | "Differential" => record ["mode", "distance"] fun depth fields =>
    match fields with
    | [mode, distance] => do
      return .differential (← required? (readName? DifferentialMode.words) depth mode)
        (← required? readSingle? depth distance)
    | _ => none
  | "Packer" => record ["count"] fun depth fields =>
    match fields with
    | [count] => do return .packer (← required? readByte? depth count)
    | _ => none
  | "Accounter" => record ["mode", "length"] fun depth fields =>
    match fields with
    | [mode, length] => do
      return .accounter (← required? (readName? AccounterMode.words) depth mode)
        (← required? readByte? depth length)
    | _ => none
  | "Fuser" => record ["sources"] fun depth fields =>
    match fields with
    | [sources] => do return .fuser (← required? (readList? FusedSource.read?) depth sources)
    | _ => none
  | "Combine" => record ["mode"] fun depth fields =>
    match fields with
    | [mode] => do return .combine (← required? (readName? CombineMode.words) depth mode)
    | _ => none
  | _ => none

def read? : Reader Operator := fun depth j => do
  match ← choice? depth j with
  | ("Buffer", content) => do
    plain? content
    return .buffer
  | ("Comparison", some (depth, content)) => readComparison? depth content
  | (name, some (depth, content)) => readFields? name depth content
  | (_, none) => none

end Operator

def Processor.read? : Reader Processor :=
  readRecord? ["id", "name", "config", "input", "output", "state"] fun depth fields =>
    match fields with
    | [id, name, operator, input, output, state] => do
      return {
        id := ← required? readByte? depth id
        name := ← optional? readText? depth name
        operator := ← required? Operator.read? depth operator
        input := ← required? Signal.read? depth input
        output := ← required? Signal.read? depth output
        state := ← optional? Signal.read? depth state }
    | _ => none

def Roster.read? : Reader Roster :=
  readRecord? ["active", "names"] fun depth fields =>
    match fields with
    | [active, names] => do
      return {
        active := ← required? (readMap? byteKey? Processor.read?) depth active
        names := ← required? (readMap? decoded? readByte?) depth names }
    | _ => none

def ModuleInfo.read? : Reader ModuleInfo :=
  readRecord? ["id", "implementation", "revision", "extra"] fun depth fields =>
    match fields with
    | [id, implementation, revision, extra] => do
      return {
        id := ← required? readByte? depth id
        implementation := ← optional? readByte? depth implementation
        revision := ← optional? readByte? depth revision
        extra := ← required? readFrame? depth extra }
    | _ => none

def ByteRange.read? : Reader ByteRange :=
  readRecord? ["address", "offset", "length"] fun depth fields =>
    match fields with
    | [address, offset, length] => do
      return {
        address := ← required? Address.read? depth address
        offset := ← required? readByte? depth offset
        length := ← required? readByte? depth length }
    | _ => none

def PayloadCopy.read? : Reader PayloadCopy :=
  readRecord? ["source", "dest_offset"] fun depth fields =>
    match fields with
    | [source, destination] => do
      return {
        source := ← required? ByteRange.read? depth source
        destination := ← required? readByte? depth destination }
    | _ => none

def Event.read? : Reader Event :=
  readRecord? ["id", "trigger", "command", "feedback"] fun depth fields =>
    match fields with
    | [id, trigger, command, copy] => do
      return {
        id := ← required? readByte? depth id
        trigger := ← required? Address.read? depth trigger
        command := ← required? readFrame? depth command
        copy := ← optional? PayloadCopy.read? depth copy }
    | _ => none

def Script.read? : Reader Script :=
  readRecord? ["id", "auto_run", "commands"] fun depth fields =>
    match fields with
    | [id, autoRun, commands] => do
      return {
        id := ← required? readByte? depth id
        autoRun := ← required? readBool? depth autoRun
        commands := ← required? (readList? readFrame?) depth commands }
    | _ => none

namespace Snapshot

def read? : Reader Snapshot :=
  readRecord? ["producers", "modules", "processors", "events", "macros"] fun depth fields =>
    match fields with
    | [producers, modules, roster, events, scripts] => do
      return {
        producers := ← required? (readMap? decoded? Signal.read?) depth producers
        modules := ← required? (readList? ModuleInfo.read?) depth modules
        roster := ← required? Roster.read? depth roster
        events := ← required? (readList? Event.read?) depth events
        scripts := ← required? (readList? Script.read?) depth scripts }
    | _ => none

/-- The snapshot that a document writes. -/
def ofText (text : String) : Except Fault Snapshot :=
  match (Json.ofText? text).bind (read? nestingLimit) with
  | some s => .ok s
  | none => .error (.serialization "Failed to parse snapshot")

end Snapshot

end SensorHost
