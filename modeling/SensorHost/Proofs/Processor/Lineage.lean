import SensorHost.Proofs.Board.Processors
import SensorHost.Proofs.Operator.Codec
import SensorHost.Proofs.Operator.Frames
import SensorHost.Proofs.Processor.Creation
import SensorHost.Proofs.Processor.Roster

/-!
# Lines of processors

A line is a chain of which every processor is fed by the whole output of the one before it. Two
halves meet here: a planned line of stages has processors (`Processor.line_of_plan`), whatever id
the board gives to the first of them; and the hops of a line are rebuilt into its processors, without
their names (`Roster.rebuildFrom_line`), if their operators are written without loss
(`Operator.IsExact`).
-/

namespace SensorHost

/-! ## Where outputs are placed -/

/-- The signal is found where processors put out, under no id yet. -/
def Signal.IsPutOut (s : Signal) : Prop := s.address = .processorOutput noId

theorem Signal.IsPutOut.address_withId {s : Signal} (h : s.IsPutOut) (id : UInt8) :
    (s.withId id).address = .processorOutput id := by
  show s.address.withId id = _
  rw [h]
  rfl

theorem Operator.isPutOut_product (op : Operator) (input : Signal) :
    Yields (op.product input) fun p => p.output.IsPutOut :=
  fun p produced => (op.follows_product input p produced).output.address

/-! ## Lines -/

/-- Every stage is fed by the whole output of the one before it, and the first, which has this
index, by `feed`. -/
def Stage.InLine : Feed → Nat → List Stage → Prop
  | _, _, [] => True
  | feed, index, stage :: rest => stage.feed = feed ∧ InLine (.stage index) (index + 1) rest

theorem Feed.resolve_last (outputs : List Signal) (output : Signal) :
    (stage outputs.length).resolve (outputs ++ [output]) (outputs ++ [output]).length =
      .ok output := by
  simp only [resolve, List.length_append, List.length_singleton, Nat.lt_succ_self, decide_true,
    List.getElem?_concat_length, Option.filter_some, if_true]

theorem Feed.resolve_newest (created : List Processor) (p : Processor) :
    (stage created.length).resolve ((created ++ [p]).map (·.output)) (created ++ [p]).length =
      .ok p.output := by
  have last := resolve_last (created.map (·.output)) p.output
  rw [List.length_append, List.length_map] at last
  rw [List.map_append, List.length_append]
  exact last

namespace Processor

/-- The processors that the board created for a line of stages: the first is fed by `input` and has
this id, and each feeds the next one, which has the next id. -/
inductive Line : Signal → UInt8 → List Stage → List Processor → Prop
  | nil {input : Signal} {id : UInt8} : Line input id [] []
  | cons {input : Signal} {id : UInt8} {stage : Stage} {rest : List Stage} {product : Product}
      {ps : List Processor} : stage.operator.product input = .ok product →
    Line (product.output.withId id) (id + 1) rest ps →
    Line input id (stage :: rest) (.created id stage.name stage.operator input product :: ps)

variable {input : Signal} {id : UInt8} {stages : List Stage} {ps : List Processor}

theorem Line.length (line : Line input id stages ps) : ps.length = stages.length := by
  induction line with
  | nil => rfl
  | cons _ _ ih => exact congrArg (· + 1) ih

theorem Line.idsFrom (line : Line input id stages ps) :
    ps.map (·.id) = idsFrom id stages.length := by
  induction line with
  | nil => rfl
  | cons _ _ ih => exact congrArg (_ :: ·) ih

theorem Line.ids (line : Line input id stages ps) (room : id.toNat + stages.length ≤ 256) :
    ps.map (·.id.toNat) = List.range' id.toNat stages.length := by
  rw [← toNat_idsFrom room, ← line.idsFrom, List.map_map]
  rfl

theorem Line.distinct (line : Line input id stages ps) (room : id.toNat + stages.length ≤ 256) :
    (ps.map (·.id)).Nodup := by
  rw [line.idsFrom]
  exact nodup_idsFrom room

/-- The output of the last of some processors that feed one another, the first fed by `input`. -/
def lastOutput (input : Signal) : List Processor → Signal
  | [] => input
  | p :: rest => lastOutput p.output rest

/-- A line with processors ends where its last one puts out. -/
theorem Line.ends (line : Line input id stages ps) (nonempty : stages ≠ []) :
    ∃ last, ps.getLast? = some last ∧
      (lastOutput input ps).address = .processorOutput last.id := by
  induction line with
  | nil => contradiction
  | @cons input id stage rest product ps produced line ih =>
      cases line with
      | nil =>
          exact ⟨_, rfl, (stage.operator.isPutOut_product input product produced).address_withId id⟩
      | cons produced' line =>
          obtain ⟨last, eq, ends⟩ := ih nofun
          exact ⟨last, by rw [List.getLast?_cons_cons, eq], ends⟩

/-- A planned line has processors, wherever its first input is found. -/
theorem line_of_plan {outputs planned : List Signal} {feed : Feed} {planned₀ : Signal}
    (compiles : Stage.plan outputs stages = .ok planned)
    (inLine : Stage.InLine feed outputs.length stages)
    (resolved : feed.resolve outputs outputs.length = .ok planned₀)
    (alike : input.form = planned₀.form) : ∃ ps, Line input id stages ps := by
  induction stages generalizing outputs feed planned₀ input id with
  | nil => exact ⟨[], .nil⟩
  | cons stage rest ih =>
      obtain ⟨rfl, inLine⟩ := inLine
      obtain ⟨input₀, resolved₀, produces⟩ := bind_eq_ok compiles
      obtain ⟨product₀, produced₀, later⟩ := bind_eq_ok produces
      obtain rfl := Except.ok.inj (resolved.symm.trans resolved₀)
      obtain ⟨product, produced, form⟩ :=
        eq_ok_of_map (Operator.form_product alike stage.operator) produced₀
      have length : (outputs ++ [product₀.output]).length = outputs.length + 1 :=
        List.length_append
      rw [← length] at inLine
      obtain ⟨ps, line⟩ := ih later inLine (Feed.resolve_last outputs product₀.output)
        ((product.output.form_withId id).trans form)
      exact ⟨_, .cons produced line⟩

/-! ## Hops -/

/-- The processor as the board describes it. -/
def hop (p : Processor) : Hop :=
  ⟨p.id, p.input.address, p.input.geometry.selector, p.operator.encode p.input p.output⟩

/-- The processor as it comes back from the board, which knows no names. -/
def unnamed (p : Processor) : Processor := { p with name := none }

/-- What the board stores of a processor is read back as its hop. -/
theorem ofReply_configuration (id : UInt8) (operator : Operator) (input output : Signal) :
    Hop.ofReply id (ModuleId.processor :: Register.read Register.Processor.create ::
      configuration operator input output) =
        .ok ⟨id, input.address, input.geometry.selector, operator.encode input output⟩ := by
  cases operator <;> rfl

theorem ofReply_record (p : Processor) :
    Hop.ofReply p.id (ModuleId.processor :: Register.read Register.Processor.create :: p.record) =
      .ok p.hop :=
  ofReply_configuration ..

end Processor

/-- An operator whose bytes say everything about it: it has no operand that is brought to firmware
units, and refers to no other processor. -/
def Operator.IsExact : Operator → Prop
  | passthrough .. | accumulate .. | average .. | delay _ | time .. | buffer | packer _
  | accounter .. | combine _ => True
  | math .. | pulse .. | compareOne .. | compareMany .. | threshold .. | differential ..
  | fuser _ => False

instance : DecidablePred Operator.IsExact
  | .passthrough .. | .accumulate .. | .average .. | .delay _ | .time .. | .buffer | .packer _
  | .accounter .. | .combine _ => isTrue trivial
  | .math .. | .pulse .. | .compareOne .. | .compareMany .. | .threshold .. | .differential ..
  | .fuser _ => isFalse id

/-- An exact operator is read back from its bytes. -/
theorem Operator.IsExact.decode_encode {op : Operator} (exact : op.IsExact) {input output : Signal}
    {product : Product} (produced : op.product input = .ok product)
    (fusedState : UInt8 → Option Signal) :
    decode (op.encode input output) input fusedState = .ok op := by
  have resolves : op.Resolves fusedState := by
    cases op with
    | fuser => contradiction
    | _ => trivial
  have single : op.isCompareMany = false := by
    cases op with
    | compareMany => contradiction
    | _ => rfl
  have same : op.reread input = op := by
    cases op <;> first | rfl | contradiction
  rw [Operator.decode_encode _ _ _ (fits_of_product produced) resolves single, same]

namespace Roster

open Processor

theorem rebuildFrom_nil_eq_ok {input : Signal} {r r' : Roster} {ps : List Processor} :
    rebuildFrom input [] r = (.ok ps, r') ↔ ps = [] ∧ r' = r := by
  simp [rebuildFrom, eq_comm]

/-- Hops are rebuilt one after the other: the operator is read back, its product is derived, and the
output feeds the next hop. -/
theorem rebuildFrom_cons_eq_ok {input : Signal} {first : Hop} {rest : List Hop} {r r' : Roster}
    {ps : List Processor} :
    rebuildFrom input (first :: rest) r = (.ok ps, r') ↔ ∃ operator product later,
      Operator.decode first.operator input r.stateOf? = .ok operator ∧
      operator.product input = .ok product ∧
      rebuildFrom (product.output.withId first.id) rest
        (r.insert (.created first.id none operator input product)) = (.ok later, r') ∧
      ps = .created first.id none operator input product :: later := by
  rw [rebuildFrom]
  cases decoded : Operator.decode first.operator input r.stateOf? with
  | error fault => simp [bind, Except.bind]
  | ok operator =>
      cases produced : operator.product input with
      | error fault => simp [produced, bind, Except.bind]
      | ok product =>
          simp only [produced, bind, Except.bind, pure, Except.pure]
          constructor
          · intro eq
            split at eq
            · exact absurd (Prod.mk.inj eq).1 nofun
            · rename_i later r₁ rebuilt
              obtain ⟨same, rfl⟩ := Prod.mk.inj eq
              exact ⟨operator, product, later, rfl, produced, rebuilt, (Except.ok.inj same).symm⟩
          · rintro ⟨operator', product', later, same, produced', rebuilt, rfl⟩
            obtain rfl := Except.ok.inj same
            obtain rfl := Except.ok.inj (produced.symm.trans produced')
            have rebuilt : rebuildFrom (created first.id none operator input product).output rest
                (r.insert (created first.id none operator input product)) = (.ok later, r') :=
              rebuilt
            rw [rebuilt]

/-- The first processor is fed by the signal that the chain starts at. -/
theorem head_of_rebuildFrom {input : Signal} {first : Hop} {rest : List Hop} {r r' : Roster}
    {ps : List Processor} (rebuilt : rebuildFrom input (first :: rest) r = (.ok ps, r'))
    {p : Processor} (head : ps[0]? = some p) : p.input = input := by
  obtain ⟨_, _, _, -, -, -, rfl⟩ := rebuildFrom_cons_eq_ok.mp rebuilt
  obtain rfl := Option.some.inj head
  rfl

/-- The hops of a line are rebuilt into its processors. -/
theorem rebuildFrom_line {input : Signal} {id : UInt8} {stages : List Stage} {ps : List Processor}
    (line : Line input id stages ps) (exact : ∀ stage ∈ stages, stage.operator.IsExact)
    (r : Roster) :
    rebuildFrom input (ps.map hop) r = (.ok (ps.map unnamed), r.insertAll (ps.map unnamed)) := by
  induction line generalizing r with
  | nil => rfl
  | @cons input id stage rest product ps produced line ih =>
      obtain ⟨first, others⟩ := List.forall_mem_cons.mp exact
      rw [List.map_cons, rebuildFrom_cons_eq_ok]
      exact ⟨stage.operator, product, ps.map unnamed, first.decode_encode produced r.stateOf?,
        produced, ih others _, rfl⟩

theorem rebuild_cons_eq_ok {root : Signal} {first : Hop} {rest : List Hop} {r r' : Roster}
    {ps : List Processor} : r.rebuild (first :: rest) root = (.ok ps, r') ↔
      first.source.key = root.address.key ∧
        rebuildFrom (root.viewFor first.selector) (first :: rest) r = (.ok ps, r') := by
  unfold rebuild
  simp only
  split
  · rename_i same
    exact (and_iff_right same).symm
  · rename_i other
    exact ⟨fun eq => absurd (Prod.mk.inj eq).1 nofun, fun both => absurd both.1 other⟩

/-- A line that is fed by `root` is rebuilt from its hops. -/
theorem rebuild_line {root : Signal} {id : UInt8} {stages : List Stage} {ps : List Processor}
    (line : Line root id stages ps) (exact : ∀ stage ∈ stages, stage.operator.IsExact)
    (r : Roster) :
    r.rebuild (ps.map hop) root = (.ok (ps.map unnamed), r.insertAll (ps.map unnamed)) := by
  have rebuilt := rebuildFrom_line line exact r
  cases line with
  | nil => rfl
  | cons produced line =>
      rw [List.map_cons, rebuild_cons_eq_ok]
      have whole : root.viewFor root.geometry.selector = root := if_pos rfl
      exact ⟨rfl, (congrArg (rebuildFrom · _ r) whole).trans rebuilt⟩

end Roster

end SensorHost
