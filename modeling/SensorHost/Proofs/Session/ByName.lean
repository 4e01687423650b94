import SensorHost.Proofs.Processor.Names
import SensorHost.Proofs.Session.Runs
import SensorHost.Session.Processors

/-!
# Calls on a processor by its name

A processor can be removed, modified, and asked for its state by its name (`Call.ByName`). Such a call
does nothing if the name leads nowhere, and is made on the processor that the name leads to otherwise:
what is sent to the board has the id of this one (`Call.runs_byName`).

So the call reaches a processor that was registered under the name, unless the processor that was has
lost its id to another one (`Call.byName_on_bearer_iff`).
-/

namespace SensorHost

/-- It does not matter which of three dialogues are put together first. -/
instance {waits : Bool} : LawfulMonad (Dialogue waits) := by
  refine LawfulMonad.mk' _ (fun d => ?_) (fun _ _ => rfl) fun d f g => ?_
  · show d.bind (fun a => .done a) = d
    induction d <;> simp_all [Dialogue.bind]
  · show (d.bind f).bind g = d.bind fun a => (f a).bind g
    induction d <;> simp_all [Dialogue.bind]

/-- Frames of the exchange are about the processor with the id. -/
def Exchange.Concerns (id : UInt8) : Exchange → Prop
  | .sent frame _ => ∃ register rest, frame = ModuleId.processor :: register :: id :: rest
  | .asked _ _ frames _ => ∃ register rest, frames = [ModuleId.processor :: register :: id :: rest]
  | .paused _ => False

namespace Call

variable {waits : Bool} {α : Type} {Between : Host → Host → Prop} {h h' : Host} {t : List Exchange}

/-! ## What is done to a processor -/

/-- Replaces the operator of a processor. -/
def modifyProcessor (operator : Operator) (current : Processor) : Call waits Processor := do
  let product ← check (operator.product current.input)
  command (Processor.parameterFrame current.id operator current.input product.output)
  let changed : Processor := .created current.id current.name operator current.input product
  updateRoster (·.insert changed)
  return changed

/-- The state that a processor keeps, for a caller who knows it by a name. -/
def stateOf (name : String) (p : Processor) : Call waits Signal :=
  orFail (.unknownProcessor s!"{name} has no state") p.state

/-- Reads the state that a processor keeps. -/
def readStateOf (name : String) (p : Processor) : Call true Reading := do
  let state ← stateOf name p
  let register := Register.silentRead Register.Processor.state
  let reply ← ask ⟨ModuleId.processor, register⟩ (← host).settings.responseTimeout
    [[ModuleId.processor, register, p.id]]
  return state.reading (reply.drop 3) false

/-- Overwrites the state that a processor keeps. -/
def setStateOf (name : String) (value : Float32) (p : Processor) : Call waits Unit := do
  let state ← stateOf name p
  command ([ModuleId.processor, Register.Processor.state, p.id] ++ valueBytes state value)

/-- A call that takes a processor by its name, and what it does to that processor. -/
inductive ByName : {waits : Bool} → {α : Type} → (String → Call waits α) →
    (String → Processor → Call waits α) → Prop
  | remove {waits : Bool} : ByName (@removeNamed waits) fun _ p => removeProcessor p.id
  | modify {waits : Bool} (operator : Operator) :
    ByName (@Call.modify waits · operator) fun _ => modifyProcessor operator
  | setState {waits : Bool} (value : Float32) :
    ByName (@Call.setState waits · value) (setStateOf · value)
  | readState : ByName Call.readState readStateOf

/-! ## To whom it is done -/

/-- The call fails if the name leads nowhere, and is made on the processor that it leads to
otherwise. -/
theorem runs_byName {call : String → Call waits α} {act : String → Processor → Call waits α}
    (byName : ByName call act) (built : h.roster.Reachable) (name : String)
    {result : Except Fault α} : Runs Between (call name) h t result h' ↔
      (h.roster.named? name = none ∧ t = [] ∧ result = .error (.unknownProcessor name) ∧ h' = h) ∨
        ∃ p, h.roster.named? name = some p ∧ Runs Between (act name p) h t result h' := by
  cases byName with
  | remove =>
      -- The call looks for an id only, but some processor has it.
      have found : h.roster.idOf? name = (h.roster.named? name).map (·.id) := by
        unfold Roster.named?
        cases leads : h.roster.idOf? name with
        | none => rfl
        | some id =>
            obtain ⟨p, tracked, own⟩ := built.tracked leads
            rw [Option.bind_some, tracked, Option.map_some, own]
      refine runs_bind_lookUp.trans ?_
      rw [found]
      simp
  | modify operator => exact runs_bind_lookUp
  | setState value =>
      unfold setState stateNamed
      simp only [bind_assoc, pure_bind]
      exact runs_bind_lookUp
  | readState =>
      unfold readState stateNamed
      simp only [bind_assoc, pure_bind]
      exact runs_bind_lookUp

/-! ## What the board hears of it -/

/-- Every exchange with the board in every run of the call. -/
def Exchanges (P : Exchange → Prop) (call : Call waits α) : Prop :=
  ∀ ⦃Between h t result h'⦄, call.Runs Between h t result h' → ∀ e ∈ t, P e

section

variable {P : Exchange → Prop}

theorem exchanges_bind {β : Type} {call : Call waits α} {f : α → Call waits β}
    (first : call.Exchanges P) (second : ∀ a, (f a).Exchanges P) : (call >>= f).Exchanges P := by
  intro Between h t result h' run e mem
  rcases runs_bind.mp run with ⟨fault, run, -⟩ | ⟨a, t₁, h₁, t₂, rfl, run₁, run₂⟩
  · exact first run e mem
  · rcases List.mem_append.mp mem with mem | mem
    · exact first run₁ e mem
    · exact second a run₂ e mem

theorem exchanges_host : (host : Call waits Host).Exchanges P := by
  intro Between h t result h' run
  simp [(runs_host.mp run).1]

theorem exchanges_check (checked : Except Fault α) : (check checked : Call waits α).Exchanges P := by
  intro Between h t result h' run
  simp [(runs_check.mp run).1]

theorem exchanges_orFail (fault : Fault) (value : Option α) :
    (orFail fault value : Call waits α).Exchanges P :=
  orFail_eq_check fault value ▸ exchanges_check _

theorem exchanges_pure (a : α) : (pure a : Call waits α).Exchanges P := exchanges_check (.ok a)

theorem exchanges_update (change : Host → Host) : (update change : Call waits Unit).Exchanges P := by
  intro Between h t result h' run
  simp [(runs_update.mp run).1]

theorem exchanges_transmit {frame : Frame} (holds : ∀ result, P (.sent frame result)) :
    (transmit frame : Call waits Unit).Exchanges P := by
  intro Between h t result h' run
  simpa [(runs_transmit.mp run).1] using holds result

theorem exchanges_ask {key : ReplyKey} {timeout : Nat} {frames : List Frame}
    (holds : ∀ reply, P (.asked key timeout frames reply)) :
    (ask key timeout frames).Exchanges P := by
  intro Between h t result h' run
  simpa [(runs_ask.mp run).1] using holds result

/-- A command is sent, or kept in a recording. -/
theorem exchanges_command {frame : Frame} (holds : ∀ result, P (.sent frame result)) :
    (command frame : Call waits Unit).Exchanges P := by
  refine exchanges_bind exchanges_host fun h => ?_
  split
  · exact exchanges_update _
  · exact exchanges_transmit holds

end

/-- What is sent in such a call is about that processor. -/
theorem exchanges_byName {call : String → Call waits α} {act : String → Processor → Call waits α}
    (byName : ByName call act) (name : String) (p : Processor) :
    (act name p).Exchanges (Exchange.Concerns p.id) := by
  cases byName with
  | remove =>
      refine exchanges_bind exchanges_host fun h => exchanges_bind (exchanges_orFail _ _) fun p' => ?_
      refine exchanges_bind (exchanges_update _) fun _ => ?_
      exact exchanges_bind (exchanges_transmit fun _ => ⟨_, _, rfl⟩) fun _ => exchanges_pure p'
  | modify operator =>
      refine exchanges_bind (exchanges_check _) fun product => ?_
      refine exchanges_bind (exchanges_command fun _ => ⟨_, _, rfl⟩) fun _ => ?_
      exact exchanges_bind (exchanges_update _) fun _ => exchanges_pure _
  | setState value =>
      refine exchanges_bind (exchanges_orFail _ _) fun state => ?_
      exact exchanges_command fun _ => ⟨_, _, rfl⟩
  | readState =>
      refine exchanges_bind (exchanges_orFail _ _) fun state => exchanges_bind exchanges_host fun h => ?_
      exact exchanges_bind (exchanges_ask fun _ => ⟨_, _, rfl⟩) fun _ => exchanges_pure _

/-- A name leads to a processor that was registered under it, unless the one that was has lost its id to
another one. A call on a processor by its name does nothing if the name leads nowhere; otherwise it is
made on the processor that the name leads to, and the board hears of this one only. -/
theorem byName_on_bearer_iff (changes : List Roster.Change) (name : String) :
    ((∀ p, (Roster.after changes).named? name = some p → p.name = some name) ↔
      ¬ Roster.Usurped changes name) ∧
    ∀ {waits : Bool} {α : Type} {call : String → Call waits α}
      {act : String → Processor → Call waits α}, ByName call act →
    ∀ {Between : Host → Host → Prop} {h h' : Host} {t : List Exchange} {result : Except Fault α},
      h.roster = .after changes → Runs Between (call name) h t result h' →
      (t = [] ∧ result = .error (.unknownProcessor name) ∧ h' = h) ∨
        ∃ p, (Roster.after changes).named? name = some p ∧
          Runs Between (act name p) h t result h' ∧ ∀ e ∈ t, e.Concerns p.id := by
  refine ⟨Roster.named_bears_iff changes name, fun byName Between h h' t result known run => ?_⟩
  have built : h.roster.Reachable := known ▸ Roster.reachable_after changes
  rcases (runs_byName byName built name).mp run with ⟨-, nowhere⟩ | ⟨p, leads, made⟩
  · exact .inl nowhere
  · exact .inr ⟨p, known ▸ leads, made, exchanges_byName byName name p made⟩

/-- A processor that passes on the byte of a register. -/
def bytewise (id : UInt8) (name : String) : Processor :=
  let byte : Signal := .root .uint ⟨1, 1, noId⟩ ⟨[1], 1, 0, false⟩
  ⟨id, some name, .passthrough .all 0, byte, byte, none⟩

/-- The name moves to another processor before the id of the first one is given away again. -/
theorem byName_on_bearer_iff_moved :
    let changes : List Roster.Change :=
      [.insert (bytewise 0 "a"), .insert (bytewise 1 "a"), .erase 0, .insert (bytewise 0 "b")]
    let h := { Host.new default with roster := .after changes }
    ¬ Roster.Usurped changes "a" ∧
      ∀ Between t result h', Runs Between (removeNamed "a" : Call false Processor) h t result h' →
        ∀ e ∈ t, e.Concerns 1 := by
  intro changes h
  obtain ⟨bears, calls⟩ := byName_on_bearer_iff changes "a"
  have leads : (Roster.after changes).named? "a" = some (bytewise 1 "a") := rfl
  refine ⟨bears.mp fun p found => ?_, fun Between t result h' run => ?_⟩
  · obtain rfl := Option.some.inj (leads.symm.trans found)
    rfl
  · rcases calls .remove rfl run with ⟨rfl, -⟩ | ⟨p, found, -, concerns⟩
    · exact nofun
    · obtain rfl := Option.some.inj (leads.symm.trans found)
      exact concerns

/-- A name leads to the processor that has taken over the id of the one registered under it. -/
theorem usurper_named :
    ¬ ∀ (changes : List Roster.Change) (name : String) (p : Processor),
      (Roster.after changes).named? name = some p → p.name = some name := by
  intro bears
  exact absurd (bears [.insert (bytewise 0 "a"), .insert (bytewise 0 "b")] "a" (bytewise 0 "b") rfl)
    (by decide)

end Call

end SensorHost
