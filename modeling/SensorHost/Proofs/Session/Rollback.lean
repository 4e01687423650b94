import SensorHost.Proofs.Processor.Roster
import SensorHost.Proofs.Session.Runs
import SensorHost.Session.Processors

/-!
# What a failed chain leaves behind

A chain that fails while it is created is taken back: every processor that the board acknowledged
is removed again, on the board and from the roster. `failed_chain_undone` says what that comes to
when the board gives out ids that the roster does not have yet. The processors of the roster are
those of before; but a name of the chain that an older processor had leads nowhere, since creating
the stage moved the name and removing the stage drops it.
-/

namespace SensorHost

/-! ## What the board acknowledged -/

/-- The id in the answer to a creation. -/
def Exchange.echoedId? : Exchange → Option UInt8
  | .asked key _ _ (.ok reply) =>
    if key = ⟨ModuleId.processor, Register.Processor.create⟩ then reply[2]? else none
  | _ => none

/-- The ids of the processors that the board created, in order. -/
def echoedIds (t : List Exchange) : List UInt8 := t.filterMap Exchange.echoedId?

theorem echoedIds_append (t t' : List Exchange) :
    echoedIds (t ++ t') = echoedIds t ++ echoedIds t' :=
  List.filterMap_append

/-- What an answer makes of a stage. -/
def Stage.acknowledged (stage : Stage) (input : Signal) (product : Product)
    (reply : Except Fault Frame) : Except Fault Processor :=
  match reply with
  | .error fault => .error fault
  | .ok frame =>
    match frame[2]? with
    | none => .error (.protocol "processor create echo carries no id")
    | some id => .ok (.created id stage.name stage.operator input product)

theorem Stage.acknowledged_eq_ok {stage : Stage} {input : Signal} {product : Product}
    {reply : Except Fault Frame} {p : Processor}
    (h : stage.acknowledged input product reply = .ok p) : ∃ frame id, reply = .ok frame ∧
      frame[2]? = some id ∧ p = .created id stage.name stage.operator input product := by
  unfold acknowledged at h
  cases reply with
  | error fault => contradiction
  | ok frame =>
      cases echoed : frame[2]? with
      | none =>
          simp only [echoed] at h
          contradiction
      | some id =>
          simp only [echoed] at h
          exact ⟨frame, id, rfl, echoed, (Except.ok.inj h).symm⟩

/-- Hosts that know the same processors. -/
def SameRoster (h h' : Host) : Prop := h'.roster = h.roster

namespace Call

variable {waits : Bool} {Between : Host → Host → Prop} {h h' : Host} {t : List Exchange}

/-! ## One stage -/

/-- A stage that does not compile fails before anything is sent; the creation of any other one is
asked for once. -/
theorem runs_createStage {stage : Stage} {created : List Processor}
    {result : Except Fault Processor} (run : Runs Between (createStage stage created) h t result h') :
    (∃ fault, (stage.feed.resolve (created.map (·.output)) created.length >>=
          stage.operator.product) = .error fault ∧
        result = .error fault ∧ t = [] ∧ h' = h) ∨
      ∃ input product reply,
        stage.feed.resolve (created.map (·.output)) created.length = .ok input ∧
        stage.operator.product input = .ok product ∧
        t = [.asked ⟨ModuleId.processor, Register.Processor.create⟩ h.settings.responseTimeout
          [Processor.createFrame stage.operator input product.output] reply] ∧
        Between h h' ∧ result = stage.acknowledged input product reply := by
  unfold createStage at run
  rw [runs_bind_check] at run
  rcases run with ⟨fault, refused, rfl, rfl, rfl⟩ | ⟨input, resolved, run⟩
  · exact .inl ⟨fault, by rw [refused]; rfl, rfl, rfl, rfl⟩
  rw [runs_bind_check] at run
  rcases run with ⟨fault, refused, rfl, rfl, rfl⟩ | ⟨product, produced, run⟩
  · exact .inl ⟨fault, by rw [resolved]; exact refused, rfl, rfl, rfl⟩
  rw [runs_bind_host, runs_bind_ask] at run
  obtain ⟨reply, h₁, t₂, rfl, between, run⟩ := run
  refine .inr ⟨input, product, reply, resolved, produced, ?_⟩
  rw [runs_bind_check] at run
  unfold Stage.acknowledged
  rcases run with ⟨fault, rfl, rfl, rfl, rfl⟩ | ⟨frame, rfl, run⟩
  · exact ⟨rfl, between, rfl⟩
  cases echoed : frame[2]? with
  | none =>
      rw [echoed] at run
      obtain ⟨rfl, rfl, rfl⟩ := runs_throw.mp run
      simpa only [echoed, and_true, true_and] using between
  | some id =>
      rw [echoed] at run
      obtain ⟨rfl, rfl, rfl⟩ := runs_pure.mp run
      simpa only [echoed, and_true, true_and] using between

theorem created_stage {stage : Stage} {created : List Processor} {p : Processor}
    (run : Runs SameRoster (createStage stage created) h t (.ok p) h') :
    echoedIds t = [p.id] ∧ p.name = stage.name ∧ h'.roster = h.roster := by
  rcases runs_createStage run with ⟨_, -, eq, -⟩ | ⟨input, product, reply, -, -, rfl, same, eq⟩
  · contradiction
  · obtain ⟨frame, id, rfl, echoed, rfl⟩ := Stage.acknowledged_eq_ok eq.symm
    refine ⟨?_, rfl, same⟩
    simp [echoedIds, Exchange.echoedId?, echoed, Processor.created]

theorem failed_stage {stage : Stage} {created : List Processor} {fault : Fault}
    (run : Runs SameRoster (createStage stage created) h t (.error fault) h') :
    echoedIds t = [] ∧ h'.roster = h.roster := by
  rcases runs_createStage run with
    ⟨_, -, -, rfl, rfl⟩ | ⟨input, product, reply, -, -, rfl, same, eq⟩
  · exact ⟨rfl, rfl⟩
  · refine ⟨?_, same⟩
    cases reply with
    | error fault => rfl
    | ok frame =>
        unfold Stage.acknowledged at eq
        cases echoed : frame[2]? with
        | none => simp [echoedIds, Exchange.echoedId?, echoed]
        | some id => simp [echoed] at eq

/-! ## All stages -/

/-- The rollback always gets to its end, whether the board takes the removals or not. -/
theorem runs_rollback {ps : List Processor} {result : Except Fault Unit}
    (run : Runs SameRoster (rollback ps : Call waits Unit) h t result h') :
    result = .ok () ∧ echoedIds t = [] ∧ h'.roster = h.roster.eraseAll (ps.map (·.id)) := by
  induction ps generalizing h t with
  | nil =>
      obtain ⟨rfl, rfl, rfl⟩ := runs_pure.mp run
      exact ⟨rfl, rfl, rfl⟩
  | cons p rest ih =>
      unfold rollback at run
      rw [runs_bind_attempt] at run
      obtain ⟨_, t₁, h₁, t₂, rfl, sent, run⟩ := run
      obtain ⟨rfl, same⟩ := runs_transmit.mp sent
      rw [runs_bind_updateRoster] at run
      obtain ⟨ended, silent, erased⟩ := ih run
      refine ⟨ended, silent, ?_⟩
      rw [erased, show h₁.roster = h.roster from same]
      rfl

/-- A chain that fails on the way has added some processors, for the first of its stages and under
the ids that the board answered with, and removed them, with those created before. -/
theorem failed_stages {total : Nat} {stages : List Stage} {created : List Processor} {fault : Fault}
    (run : Runs SameRoster (createStages total stages created) h t (.error fault) h') :
    ∃ ps : List Processor, echoedIds t = ps.map (·.id) ∧
      ps.map (·.name) = (stages.take ps.length).map (·.name) ∧
      h'.roster = (h.roster.insertAll ps).eraseAll ((created ++ ps).reverse.map (·.id)) := by
  -- The processors created so far matter only where they are removed.
  induction stages generalizing created h t with
  | nil => exact absurd (runs_pure.mp run).2.1 nofun
  | cons stage rest ih =>
      unfold createStages at run
      rw [runs_bind_attempt] at run
      obtain ⟨outcome, t₁, h₁, t₂, rfl, first, run⟩ := run
      rw [echoedIds_append]
      cases outcome with
      | ok p =>
          obtain ⟨echoed, named, same⟩ := created_stage first
          rw [runs_bind_updateRoster] at run
          obtain ⟨ps, echoes, names, left⟩ := ih run
          refine ⟨p :: ps, ?_, ?_, ?_⟩
          · rw [echoed, echoes]
            rfl
          · rw [List.map_cons, named, names]
            rfl
          · rw [left, List.append_assoc, same]
            rfl
      | error reason =>
          obtain ⟨silent, same⟩ := failed_stage first
          rcases runs_bind.mp run with ⟨_, second, -⟩ | ⟨_, t₃, h₃, t₄, rfl, second, last⟩
          · exact absurd (runs_rollback second).1 nofun
          obtain ⟨-, silent', erased⟩ := runs_rollback second
          obtain ⟨rfl, -, rfl⟩ := runs_throw.mp last
          refine ⟨[], ?_, rfl, ?_⟩
          · rw [silent, List.append_nil, silent']
            rfl
          · rw [erased, same, List.append_nil]
            rfl

theorem failed_chain {stages : List Stage} {fault : Fault}
    (run : Runs SameRoster (commitChain stages) h t (.error fault) h') :
    ∃ ps : List Processor, echoedIds t = ps.map (·.id) ∧
      ps.map (·.name) = (stages.take ps.length).map (·.name) ∧
      h'.roster = (h.roster.insertAll ps).eraseAll (ps.reverse.map (·.id)) := by
  unfold commitChain at run
  rw [runs_bind_check] at run
  rcases run with ⟨_, -, rfl, -, rfl⟩ | ⟨outputs, -, run⟩
  · exact ⟨[], rfl, rfl, rfl⟩
  · exact failed_stages run

/-- A failed chain leaves the processors of the roster as they were, if the board gave out none of
their ids; and it leaves the names as they were exactly if no stage that was created has a name
that was taken. -/
theorem failed_chain_undone {stages : List Stage} {fault : Fault} (reachable : h.roster.Reachable)
    (run : Runs SameRoster (commitChain stages) h t (.error fault) h')
    (fresh : ∀ id ∈ echoedIds t, h.roster.get? id = none) :
    h'.roster.active = h.roster.active ∧
      (h'.roster = h.roster ↔
        ∀ stage ∈ stages.take (echoedIds t).length, h.roster.Free stage.name) := by
  obtain ⟨ps, echoed, names, left⟩ := failed_chain run
  rw [echoed] at fresh
  have same : ∀ id, id ∈ ps.reverse.map (·.id) ↔ id ∈ ps.map (·.id) := by
    intro id
    rw [List.map_reverse, List.mem_reverse]
  have untracked : ∀ id ∈ ps.reverse.map (·.id), h.roster.get? id = none := fun id mem =>
    fresh id ((same id).mp mem)
  rw [left, echoed, List.length_map]
  refine ⟨Roster.active_eraseAll_insertAll same untracked, ?_⟩
  rw [Roster.eraseAll_insertAll_eq_iff reachable same untracked]
  calc (∀ p ∈ ps, h.roster.Free p.name)
      ↔ ∀ name? ∈ ps.map (·.name), h.roster.Free name? := List.forall_mem_map.symm
    _ ↔ ∀ stage ∈ stages.take ps.length, h.roster.Free stage.name := by
        rw [names, List.forall_mem_map]

/-! ## A name that is taken -/

/-- A byte from a register of the board. -/
def namesakeInput : Signal :=
  .root .uint ⟨1, 1, 255⟩ { widths := [1], units := 1, offset := 0, signed := false }

/-- A host that knows one processor, named `a`. -/
def namesakeHost : Host :=
  { Host.new default with
    roster := .insert .empty ⟨0, some "a", .passthrough .all 0, namesakeInput, namesakeInput, none⟩ }

/-- Two processors, the first of which takes the name `a`. -/
def namesakeChain : List Stage :=
  [⟨some "a", .signal namesakeInput, .passthrough .all 0⟩, ⟨none, .stage 0, .passthrough .all 0⟩]

/-- The board creates the first processor and is silent about the second. -/
theorem namesake_run : ∃ t fault h',
    Runs SameRoster (commitChain namesakeChain) namesakeHost t (.error fault) h' ∧
      echoedIds t = [1] ∧ h'.roster.idOf? "a" = none := by
  have run : Runs SameRoster (commitChain namesakeChain) namesakeHost _ _ _ :=
    .look (.ask (.ok [9, 2, 1]) rfl (.update (.look (.ask (.error (.timeout "09:02" 1000)) rfl
      (.transmit (.ok ()) rfl (.update .done))))))
  exact ⟨_, _, _, run, rfl, rfl⟩

theorem namesakeHost_reachable : namesakeHost.roster.Reachable := .insert _ .empty

theorem failed_chain_undone_namesake : ∃ (t : List Exchange) (h' : Host), echoedIds t = [1] ∧
    h'.roster.active = namesakeHost.roster.active ∧
      (h'.roster = namesakeHost.roster ↔
        ∀ stage ∈ namesakeChain.take (echoedIds t).length,
          namesakeHost.roster.Free stage.name) := by
  obtain ⟨t, fault, h', run, echoed, -⟩ := namesake_run
  refine ⟨t, h', echoed, failed_chain_undone namesakeHost_reachable run ?_⟩
  intro id mem
  rw [echoed, List.mem_singleton] at mem
  rw [mem]
  rfl

/-- The name led to the processor that is still there, and leads nowhere after the failure. -/
theorem namesake_lost : ∃ t fault h',
    Runs SameRoster (commitChain namesakeChain) namesakeHost t (.error fault) h' ∧
      echoedIds t = [1] ∧ namesakeHost.roster.get? 1 = none ∧
      namesakeHost.roster.idOf? "a" = some 0 ∧ h'.roster.idOf? "a" = none := by
  obtain ⟨t, fault, h', run, echoed, lost⟩ := namesake_run
  exact ⟨t, fault, h', run, echoed, rfl, rfl, lost⟩

end Call

end SensorHost
