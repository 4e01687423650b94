import SensorHost.Session.Signals

/-!
# Creating and recovering processors

The board handles one creation at a time, and the id in its answer is all that tells which
processor was created. The stages of a chain are therefore created one after the other; all of
them are planned before the first is sent, and if one fails, those created before it are removed
again.
-/

namespace SensorHost.Call

variable {waits : Bool}

/-! ## Creating chains -/

/-- Creates one stage, fed by a signal or by one of the processors created so far. -/
def createStage (stage : Stage) (created : List Processor) : Call true Processor := do
  let input ← check (stage.feed.resolve (created.map (·.output)) created.length)
  let product ← check (stage.operator.product input)
  let reply ← ask ⟨ModuleId.processor, Register.Processor.create⟩
    (← host).settings.responseTimeout
    [Processor.createFrame stage.operator input product.output]
  let id ← orFail (.protocol "processor create echo carries no id") reply[2]?
  return .created id stage.name stage.operator input product

/-- Removes processors, on the board if it can be reached, and from the roster in any case. -/
def rollback : List Processor → Call waits Unit
  | [] => return ()
  | p :: rest => do
    let _ ← attempt (transmit (Processor.removeFrame p.id))
    updateRoster (·.erase p.id)
    rollback rest

/-- Creates the rest of a chain of `total` stages. -/
def createStages (total : Nat) : List Stage → List Processor → Call true (List Processor)
  | [], created => return created
  | stage :: rest, created => do
    match ← attempt (createStage stage created) with
    | .ok p =>
      updateRoster (·.insert p)
      createStages total rest (created ++ [p])
    | .error fault =>
      rollback created.reverse
      throw (.inContext s!"creating processor {created.length + 1} of {total}" fault)

/-- Creates a chain of processors. -/
def commitChain (stages : List Stage) : Call true (List Processor) := do
  let _ ← check (Stage.plan [] stages)
  createStages stages.length stages []

/-! ## Removing -/

/-- Removes a processor; those that it feeds stay. -/
def removeProcessor (id : UInt8) : Call waits Processor := do
  let p ← orFail (.unknownProcessor s!"id {id}") ((← host).roster.get? id)
  updateRoster (·.erase id)
  transmit (Processor.removeFrame id)
  return p

def idNamed (name : String) : Call waits UInt8 := do
  orFail (.unknownProcessor name) ((← host).roster.idOf? name)

def removeNamed (name : String) : Call waits Processor := do removeProcessor (← idNamed name)

/-- Removes every processor of the board, known or not. -/
def removeProcessors : Call waits Unit := do
  updateRoster fun _ => .empty
  transmit Processor.removeAllFrame

/-! ## Recovering chains -/

/-- The number of processors that a board can have. -/
def processorLimit : Nat := 256

/-- Reads the hops from a processor back to a producer, in front of the hops read already; at
most `count` of them. -/
def pullFrom (last : UInt8) : Nat → UInt8 → List Hop → Call true (List Hop)
  | 0, _, _ =>
    throw (.protocol s!"processor chain ending at {last} does not reach a producer")
  | count + 1, id, hops => do
    let register := Register.read Register.Processor.create
    let timeout := (← host).settings.readTimeout
    let reply ← within s!"reading config of processor {id}"
      (ask ⟨ModuleId.processor, register⟩ timeout [[ModuleId.processor, register, id]])
    let hop ← check (Hop.ofReply id reply)
    if hop.source.isProcessorOutput then pullFrom last count hop.source.id (hop :: hops)
    else return hop :: hops

/-- The hops of the chain that ends at a processor, the one fed by a producer first. -/
def pullChain (id : UInt8) : Call true (List Hop) := pullFrom id processorLimit id []

/-- Rebuilds the processors of a chain fed by `root` and adds them to the roster. -/
def reconstruct (hops : List Hop) (root : Signal) : Call waits (List Processor) := do
  let (result, roster) := (← host).roster.rebuild hops root
  updateRoster fun _ => roster
  check result

/-- Pulls the chain that ends at a processor, and rebuilds it against the registered producer
that feeds it. -/
def recoverChain (id : UInt8) : Call true (List Processor) := do
  match ← pullChain id with
  | [] => return []
  | first :: rest =>
    let root ← orFail (.unknownProcessor s!"no producer registered at {first.source.text}")
      ((← host).producerAt? first.source)
    reconstruct (first :: rest) root

/-! ## Processors by name -/

def processorNamed (name : String) : Call waits Processor := do
  orFail (.unknownProcessor name) ((← host).roster.named? name)

/-- The id of a named processor and the state that it keeps. -/
def stateNamed (name : String) : Call waits (UInt8 × Signal) := do
  let p ← processorNamed name
  return (p.id, ← orFail (.unknownProcessor s!"{name} has no state") p.state)

/-- Reads the state that a processor keeps. -/
def readState (name : String) : Call true Reading := do
  let (id, state) ← stateNamed name
  let register := Register.silentRead Register.Processor.state
  let reply ← ask ⟨ModuleId.processor, register⟩ (← host).settings.responseTimeout
    [[ModuleId.processor, register, id]]
  return state.reading (reply.drop 3) false

/-- Overwrites the state that a processor keeps. -/
def setState (name : String) (value : Float32) : Call waits Unit := do
  let (id, state) ← stateNamed name
  command ([ModuleId.processor, Register.Processor.state, id] ++ valueBytes state value)

/-- Replaces the operator of a processor. -/
def modify (name : String) (operator : Operator) : Call waits Processor := do
  let current ← processorNamed name
  let product ← check (operator.product current.input)
  command (Processor.parameterFrame current.id operator current.input product.output)
  let changed : Processor := .created current.id current.name operator current.input product
  updateRoster (·.insert changed)
  return changed

end SensorHost.Call
