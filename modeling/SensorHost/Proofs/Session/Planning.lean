import SensorHost.Proofs.Operator.Placeholders
import SensorHost.Proofs.Operator.Refusals
import SensorHost.Proofs.Session.Batch

/-!
# Planning predicts creation

A chain is planned with placeholders for the ids of its processors, and created with the ids that the
board gives out. `Call.planned_chain` compares the two passes. A chain that cannot be planned fails
before anything is sent. If it can be planned, then no stage of it can fail to compile later, whatever
ids the board gives out: creating it fails only where the link fails or an answer is malformed, and
what is created is what was planned, with the ids of the board in place.
-/

namespace SensorHost

/-- The faults of a chain that cannot be planned. -/
inductive Fault.OfPlan : Fault → Prop
  | product {fault : Fault} : fault.OfProduct → OfPlan fault
  | feed (index stage : Nat) : OfPlan
    (.unknownProcessor s!"stage {index} feeds from stage {stage}, which does not precede it")

/-- What was created is the stage as it was planned. -/
structure Processor.Realizes (p : Processor) (stage : Stage) (planned : Product) : Prop where
  name : p.name = stage.name
  operator : p.operator = stage.operator
  output : planned.output.Stamped p.id p.output
  state : Option.Rel (·.Stamped p.id ·) planned.state p.state

theorem Processor.realizes_created {stage : Stage} {input : Signal} {product planned : Product}
    (same : product.surface = planned.surface) (id : UInt8) :
    (created id stage.name stage.operator input product).Realizes stage planned := by
  obtain ⟨output, state⟩ := Product.mk.inj same
  refine ⟨rfl, rfl, Signal.stamped_of_surface output id, ?_⟩
  show Option.Rel _ planned.state (product.state.map (·.withId id))
  rw [state]
  cases planned.state with
  | none => exact .none
  | some s => exact .some (Signal.stamped_of_surface rfl id)

namespace Stage

/-! ## The products of a plan -/

/-- The products of a chain whose first stages have the given outputs. -/
def products (outputs : List Signal) : List Stage → Except Fault (List Product)
  | [] => .ok []
  | stage :: rest => do
    let input ← stage.feed.resolve outputs outputs.length
    let product ← stage.operator.product input
    return product :: (← products (outputs ++ [product.output]) rest)

/-- A plan is made of the outputs of its products. -/
theorem plan_eq (outputs : List Signal) (stages : List Stage) :
    plan outputs stages =
      (products outputs stages).map fun planned => outputs ++ planned.map (·.output) := by
  induction stages generalizing outputs with
  | nil => exact congrArg Except.ok (List.append_nil outputs).symm
  | cons stage rest ih =>
      simp only [plan, products, map_bind, ih]
      congr 1
      funext input
      congr 1
      funext product
      cases products (outputs ++ [product.output]) rest with
      | error fault => rfl
      | ok planned =>
          exact congrArg Except.ok (List.append_assoc outputs [product.output] _)

theorem blames_products (outputs : List Signal) (stages : List Stage) :
    Blames (products outputs stages) Fault.OfPlan := by
  induction stages generalizing outputs with
  | nil => exact blames_pure _ _
  | cons stage rest ih =>
      refine blames_bind ?_ fun input => blames_bind ?_ fun product => ?_
      · unfold Feed.resolve
        split
        · exact blames_pure _ _
        · split
          · exact blames_pure _ _
          · exact blames_error (.feed _ _)
      · intro fault failed
        exact .product (stage.operator.blames_product input fault failed)
      · exact blames_bind (ih _) fun _ => blames_pure _ _

/-- The processors are the stages as they were planned, one for each. -/
inductive Realized : List Stage → List Product → List Processor → Prop
  | nil : Realized [] [] []
  | cons {stage : Stage} {product : Product} {p : Processor} {stages : List Stage}
      {planned : List Product} {ps : List Processor} :
    p.Realizes stage product → Realized stages planned ps →
    Realized (stage :: stages) (product :: planned) (p :: ps)

end Stage

namespace Call

variable {Between : Host → Host → Prop} {h h' : Host} {t : List Exchange}

/-- The rest of a chain that was planned. The induction is on the stages; what carries it is that the
processors created so far have the planned outputs but for their ids. -/
theorem planned_stages {total : Nat} {stages : List Stage} {created : List Processor}
    {outputs : List Signal} {planned : List Product} {result : Except Fault (List Processor)}
    (run : Runs Between (createStages total stages created) h t result h')
    (compiles : Stage.products outputs stages = .ok planned)
    (alike : (created.map (·.output)).map Signal.anonymous = outputs.map Signal.anonymous) :
    (∃ ps, result = .ok (created ++ ps) ∧ creationFaults t = [] ∧ echoedIds t = ps.map (·.id) ∧
        Stage.Realized stages planned ps) ∨
      ∃ reason, creationFaults t = [reason] ∧ (echoedIds t).length < stages.length ∧
        result = .error (.inContext
          s!"creating processor {created.length + (echoedIds t).length + 1} of {total}" reason) := by
  induction stages generalizing created outputs planned h t with
  | nil =>
      obtain ⟨rfl, rfl, -⟩ := runs_pure.mp run
      obtain rfl := Except.ok.inj compiles
      exact .inl ⟨[], by rw [List.append_nil], rfl, rfl, .nil⟩
  | cons stage rest ih =>
      obtain ⟨input, resolved, compiles⟩ := bind_eq_ok compiles
      obtain ⟨product, produced, compiles⟩ := bind_eq_ok compiles
      obtain ⟨later, compile, all⟩ := bind_eq_ok compiles
      obtain rfl := Except.ok.inj all
      have length : created.length = outputs.length := by
        simpa using congrArg List.length alike
      -- The stage compiles again on what was created.
      obtain ⟨input', resolved', same⟩ :=
        eq_ok_of_map (Feed.map_resolve Signal.anonymous alike created.length stage.feed)
          (length ▸ resolved)
      obtain ⟨product', produced', surface⟩ :=
        eq_ok_of_map (Operator.surface_product same stage.operator) produced
      unfold createStages at run
      rw [runs_bind_attempt] at run
      obtain ⟨outcome, t₁, h₁, t₂, rfl, asked, run⟩ := run
      rw [creationFaults_append, echoedIds_append]
      obtain ⟨-, -, ⟨id, echoed, faultless, rfl⟩ | ⟨reason, silent, failed, rfl⟩⟩ :=
        trace_createStage asked resolved' produced'
      · -- The board gives out an id, and the next stage is created.
        let p := Processor.created id stage.name stage.operator input' product'
        have output : p.output.anonymous = product.output.anonymous :=
          (Signal.anonymous_withId product'.output id).trans
            (Signal.alike_of_surface (congrArg Product.output surface))
        have grown : ((created ++ [p]).map (·.output)).map Signal.anonymous =
            (outputs ++ [product.output]).map Signal.anonymous := by
          rw [List.map_append, List.map_append, List.map_append, alike]
          exact congrArg (_ ++ [·]) output
        rw [runs_bind_updateRoster] at run
        rw [echoed, faultless]
        rcases ih run compile grown with
          ⟨ps, rfl, faultless', echoes, realized⟩ | ⟨reason, failed, fewer, rfl⟩
        · refine .inl ⟨p :: ps, by rw [List.append_assoc]; rfl, faultless', ?_, ?_⟩
          · rw [echoes]
            rfl
          · exact .cons (Processor.realizes_created surface id) realized
        · refine .inr ⟨reason, failed, Nat.succ_lt_succ fewer, ?_⟩
          rw [List.length_append, List.length_singleton, List.length_append, List.length_singleton,
            Nat.add_assoc created.length 1]
      · -- The stage fails on the board, and the others are removed.
        rcases runs_bind.mp run with ⟨_, second, -⟩ | ⟨_, t₃, h₃, t₄, rfl, second, thrown⟩
        · cases (trace_rollback second).1
        obtain ⟨rfl, rfl, -⟩ := runs_throw.mp thrown
        obtain ⟨-, -, silent', faultless, -⟩ := trace_rollback second
        rw [silent, failed, List.append_nil, silent', faultless]
        exact .inr ⟨reason, rfl, Nat.succ_pos _, rfl⟩

/-- Either a chain cannot be planned, for a layout, a derivation or a reference that is not possible,
and the call ends with that fault and leaves the session, its transport included, as it was. Or every
stage has a product, and whatever the board answers and whatever else happens on the host, the call
ends in one of two ways: every processor was created as it was planned, at the id in the answer of the
board; or one creation failed, since the link settled it with a fault or its answer carried no id, and
the call ends with that reason. -/
theorem planned_chain (stages : List Stage) :
    (∃ fault, Stage.products [] stages = .error fault ∧ fault.OfPlan ∧
        ∀ {σ : Type} [Transport σ] (owner : Nat) (s : Session σ),
          Session.advance owner (commitChain stages).run s = (.finished (.error fault), s)) ∨
      ∃ planned, Stage.products [] stages = .ok planned ∧
        ∀ (Between : Host → Host → Prop) (h h' : Host) (t : List Exchange)
          (result : Except Fault (List Processor)),
          Runs Between (commitChain stages) h t result h' →
          (∃ ps, result = .ok ps ∧ creationFaults t = [] ∧ echoedIds t = ps.map (·.id) ∧
              Stage.Realized stages planned ps) ∨
            ∃ reason, creationFaults t = [reason] ∧ (echoedIds t).length < stages.length ∧
              result = .error (.inContext
                s!"creating processor {(echoedIds t).length + 1} of {stages.length}" reason) := by
  have planning := Stage.plan_eq [] stages
  cases compiles : Stage.products [] stages with
  | error fault =>
      rw [compiles] at planning
      refine .inl ⟨fault, rfl, Stage.blames_products [] stages fault compiles, fun owner s => ?_⟩
      unfold commitChain
      rw [planning]
      rfl
  | ok planned =>
      rw [compiles] at planning
      refine .inr ⟨planned, rfl, fun Between h h' t result run => ?_⟩
      unfold commitChain at run
      rw [runs_bind_check, planning] at run
      rcases run with ⟨_, refused, -⟩ | ⟨_, -, run⟩
      · contradiction
      · rcases planned_stages run compiles rfl with realized | ⟨reason, failed, fewer, eq⟩
        · exact .inl realized
        · refine .inr ⟨reason, failed, fewer, ?_⟩
          rw [eq, List.length_nil, Nat.zero_add]

/-- A processor that adds up bytes cannot feed one that joins the components of a vector. -/
example : Stage.products [] [⟨none, .signal (.root .uint ⟨1, 1, 255⟩
      { widths := [1], units := 1, offset := 0, signed := false }), .accumulate false 2⟩,
    ⟨none, .stage 0, .combine .rms⟩] = .error (.unsupported "uint" "combine.rms") :=
  rfl

end Call

end SensorHost
