import SensorHost.Operator.Encoding
import SensorHost.Operator.Decoding
import SensorHost.Processor.Roster

/-!
# Chains of processors

A chain is planned as a list of stages, each fed by a signal or by the output of an earlier
stage. On the board it is a list of hops, each with the address that feeds it, the byte that
selects its input frame and its operator bytes. `Roster.rebuild` turns hops back into the
processors that they were created as.
-/

namespace SensorHost

/-! ## Planning -/

/-- Where a stage takes its input from. -/
inductive Feed where
  | signal (signal : Signal)
  /-- The output of an earlier stage of the same chain. -/
  | stage (index : Nat)
deriving DecidableEq

/-- A processor to create. -/
structure Stage where
  name : Option String
  feed : Feed
  operator : Operator
deriving DecidableEq

namespace Feed

/-- The input of the stage at `index`, when the stages before it have these outputs. -/
def resolve (outputs : List Signal) (index : Nat) : Feed → Except Fault Signal
  | signal s => .ok s
  | stage i =>
    match outputs[i]?.filter fun _ => i < index with
    | some output => .ok output
    | none =>
      .error (.unknownProcessor s!"stage {index} feeds from stage {i}, which does not precede it")

end Feed

namespace Stage

/-- The outputs of a chain whose first stages have the given outputs. -/
def plan (outputs : List Signal) : List Stage → Except Fault (List Signal)
  | [] => .ok outputs
  | stage :: rest => do
    let input ← stage.feed.resolve outputs outputs.length
    let product ← stage.operator.product input
    plan (outputs ++ [product.output]) rest

end Stage

namespace Processor

/-- The frame that creates a processor fed by `input`. -/
def createFrame (operator : Operator) (input output : Signal) : Frame :=
  [ModuleId.processor, Register.Processor.create] ++ input.address.toBytes
    ++ [input.geometry.selector] ++ operator.encode input output

/-- The processor that the board created under `id`. -/
def created (id : UInt8) (name : Option String) (operator : Operator) (input : Signal)
    (product : Product) : Processor :=
  let product := product.withId id
  ⟨id, name, operator, input, product.output, product.state⟩

def removeFrame (id : UInt8) : Frame := [ModuleId.processor, Register.Processor.remove, id]

def removeAllFrame : Frame := [ModuleId.processor, Register.Processor.removeAll]

/-- The frame that turns the reports of a processor on or off. -/
def notifyFrame (id : UInt8) (enable : Bool) : Frame :=
  [ModuleId.processor, Register.Processor.notify, id, enable.toUInt8]

/-- The frame that replaces the operator of a processor. -/
def parameterFrame (id : UInt8) (operator : Operator) (input output : Signal) : Frame :=
  [ModuleId.processor, Register.Processor.parameter, id] ++ operator.encode input output

end Processor

/-! ## Rebuilding -/

/-- A processor as the board describes it. -/
structure Hop where
  id : UInt8
  /-- The address that feeds the processor. -/
  source : Address
  /-- The byte that selects the input frame. -/
  selector : UInt8
  operator : Frame
deriving DecidableEq, Repr

namespace Hop

/-- The hop in the answer to a read of a processor: module, register, source address, selector
and at least one operator byte. -/
def ofReply (id : UInt8) : Frame → Except Fault Hop
  | _ :: _ :: moduleId :: register :: sourceId :: selector :: code :: operator =>
    .ok ⟨id, ⟨moduleId, register, sourceId⟩, selector, code :: operator⟩
  | reply =>
    .error (.protocol s!"processor {id} config reply too short ({reply.length} bytes)")

/-- The offset in the input frame at which the processor reads. -/
def offset (hop : Hop) : UInt8 := hop.selector &&& 0x1f

end Hop

namespace Signal

/-- The view of a signal that a selector names: the signal itself, else its axis with that
selector, else again the signal itself. -/
def viewFor (root : Signal) (selector : UInt8) : Signal :=
  if selector = root.geometry.selector then root
  else (root.axes.find? fun axis => axis.geometry.selector = selector).getD root

end Signal

namespace Roster

/-- Rebuilds the processors of hops that feed one another, the first fed by `input`, and adds
each to the roster; those added before a fault stay. -/
def rebuildFrom : Signal → List Hop → Roster → Except Fault (List Processor) × Roster
  | _, [], r => (.ok [], r)
  | input, hop :: rest, r =>
    let rebuilt : Except Fault Processor := do
      let operator ←
        match Operator.decode hop.operator input r.stateOf? with
        | .ok operator => .ok operator
        | .error fault => .error (.inContext s!"parsing processor {hop.id}" fault)
      return .created hop.id none operator input (← operator.product input)
    match rebuilt with
    | .error fault => (.error fault, r)
    | .ok p =>
      match rebuildFrom p.output rest (r.insert p) with
      | (.error fault, r) => (.error fault, r)
      | (.ok ps, r) => (.ok (p :: ps), r)

/-- Rebuilds the processors of a chain that `root` feeds. -/
def rebuild (hops : List Hop) (root : Signal) (r : Roster) :
    Except Fault (List Processor) × Roster :=
  match hops with
  | [] => (.ok [], r)
  | first :: _ =>
    if first.source.key = root.address.key then rebuildFrom (root.viewFor first.selector) hops r
    else
      (.error (.protocol s!"chain is fed by {first.source.text}, not {root.address.text}"), r)

end Roster

end SensorHost
