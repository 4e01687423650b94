import SensorHost.Proofs.Operator.FrameLimit

/-!
# Signals downstream of a root

A chain of processors starts at a root, and each of its processors is fed by the output of the one
before it or by one axis of that output. `Signal.Downstream` says which signals can feed a processor
along such a chain, whatever ids the board assigns; a property that one product hands on holds of all
of them (`Signal.Downstream.keeps`).

Every frame downstream of a valid one is valid and as long as its operator asks for, and what would
exceed one byte is refused (`downstream_frames_valid`). Only a shift that widens a field past a byte
is cut and accepted (`wide_shift_wraps`).
-/

namespace SensorHost

/-! ## What a product consists of -/

/-- The signals of a product: its output and its state, and the axes of both. -/
def Product.signals (p : Product) : List Signal :=
  (p.output :: p.state.toList).flatMap fun s => s :: s.axes

namespace Product

/-- Every signal of a product follows a plan of its operator, or is an axis of one that does. -/
theorem Follows.cases {p : Product} {op : Operator} {input t : Signal} (h : p.Follows op input)
    (mem : t ∈ p.signals) :
    ∃ s place plan, s.Follows input place plan ∧
      (plan = op.outputPlan input ∨ op.statePlan? input = some plan) ∧ (t = s ∨ t.IsAxis s) := by
  obtain ⟨s, whole, part⟩ := List.mem_flatMap.mp mem
  have parts {place : Address} {plan : FramePlan} (follows : s.Follows input place plan) :
      t = s ∨ t.IsAxis s :=
    (List.mem_cons.mp part).imp_right follows.isAxis_of_mem
  rcases List.mem_cons.mp whole with rfl | kept
  · exact ⟨_, _, _, h.output, .inl rfl, parts h.output⟩
  · obtain ⟨plan, follows, planned⟩ := h.state_of_mem (Option.mem_toList.mp kept)
    exact ⟨s, _, plan, follows, .inr planned, parts follows⟩

end Product

/-! ## Chains -/

/-- The signals that can feed a processor of a chain that starts at `root`: the root, the output of
a processor that is fed by one of them, every axis of such an output, and each of them under the id
that the board assigns. -/
inductive Signal.Downstream (root : Signal) : Signal → Prop
  | root : Downstream root root
  | output {s : Signal} {op : Operator} {p : Product} (below : Downstream root s)
      (accepted : op.product s = .ok p) : Downstream root p.output
  | axis {s axis : Signal} {op : Operator} {p : Product} (below : Downstream root s)
      (accepted : op.product s = .ok p) (mem : axis ∈ p.output.axes) : Downstream root axis
  | placed {s : Signal} (id : UInt8) (below : Downstream root s) : Downstream root (s.withId id)

/-- What every product hands on from its input to its signals, and no id changes, holds all the way
down from a root of which it holds. -/
theorem Signal.Downstream.keeps {P : Signal → Prop} {root s : Signal}
    (step : ∀ s op p, P s → Operator.product op s = .ok p → ∀ t ∈ p.signals, P t)
    (placed : ∀ s id, P s → P (s.withId id)) (start : P root) (below : root.Downstream s) : P s := by
  induction below with
  | root => exact start
  | output _ accepted ih =>
      exact step _ _ _ ih accepted _ (List.mem_append_left _ (List.mem_cons_self ..))
  | axis _ accepted mem ih =>
      exact step _ _ _ ih accepted _ (List.mem_append_left _ (List.mem_cons_of_mem _ mem))
  | placed id _ ih => exact placed _ id ih

/-! ## Valid frames -/

/-- A product of a valid input consists of valid frames. -/
theorem Operator.valid_of_product {op : Operator} {input : Signal} {p : Product}
    (valid : input.geometry.Valid) (accepted : op.product input = .ok p) :
    ∀ t ∈ p.signals, t.geometry.Valid := by
  intro t mem
  obtain ⟨s, place, plan, follows, -, rfl | axis⟩ :=
    (follows_product op input p accepted).cases mem
  · exact follows.geometry.valid valid
  · exact axis.valid

theorem Signal.Downstream.valid {root s : Signal} (below : root.Downstream s)
    (valid : root.geometry.Valid) : s.geometry.Valid :=
  below.keeps (P := fun s => s.geometry.Valid) (fun _ _ _ => Operator.valid_of_product)
    (fun _ _ valid => valid) valid

/-- Downstream of a valid frame, every output and every state starts at zero of its place, it and
its axes are valid, and a state is as long as its operator asks for. So is an output, and one that
would exceed 255 bytes is refused, unless a shift widens a field past a byte: then the output is
cut. -/
theorem downstream_frames_valid {root s : Signal} (valid : root.geometry.Valid)
    (below : root.Downstream s) (op : Operator) :
    (∀ p, op.product s = .ok p →
      p.output.address = .processorOutput noId ∧ p.output.geometry.offset = 0 ∧
        (∀ state ∈ p.state,
          state.address = .processorState noId ∧ state.geometry.offset = 0 ∧
            ∃ plan, op.statePlan? s = some plan ∧ state.geometry.frameLength = plan.length) ∧
        ∀ t ∈ p.signals, t.geometry.Valid) ∧
      (¬ op.ShiftsPastByte s →
        (∀ p, op.product s = .ok p →
          p.output.geometry.frameLength = (op.outputPlan s).length) ∧
          (255 < (op.outputPlan s).length → op.product s = op.refuse s ∨
            op.product s = .error (.geometry (.frameTooLong (op.outputPlan s).length)))) ∧
      (op.ShiftsPastByte s → 0 < s.geometry.frameLength → ∀ p, op.product s = .ok p →
        p.output.geometry.frameLength < (op.outputPlan s).length) := by
  have input := below.valid valid
  refine ⟨?placed, ?bounded, ?cut⟩
  case placed =>
    intro p accepted
    have follows := op.follows_product s p accepted
    refine ⟨follows.output.address, follows.output.geometry.offset, ?_,
      Operator.valid_of_product input accepted⟩
    intro state kept
    obtain ⟨plan, state, -⟩ := follows.state_of_mem kept
    exact ⟨state.address, state.geometry.offset, Operator.frameLength_of_state input accepted kept⟩
  case bounded =>
    intro bounded
    exact ⟨fun p => Operator.frameLength_of_product input bounded,
      Operator.product_of_long input bounded⟩
  case cut =>
    intro shifts nonempty p
    exact Operator.frameLength_lt_of_shiftsPastByte shifts nonempty

/-- Three signed fields of two bytes from a register of the board, for runs on fixed inputs. -/
def tripleRoot : Signal :=
  .root .vector ⟨3, 4, 255⟩ { widths := [2, 2, 2], units := 1, offset := 0, signed := true }

/-- The second component of their average, which the board gave the id seven. -/
def averagedAxis : Signal :=
  { kind := .sfloat, address := .processorOutput 7
    geometry := { widths := [2], units := 1, offset := 2, signed := true }
    ownScale := some 1.0, feed := none, axes := [], members := [] }

theorem downstream_averagedAxis : tripleRoot.Downstream averagedAxis :=
  .placed 7 <| .axis .root (show (Operator.average 4 false).product tripleRoot = .ok _ from rfl)
    (.tail _ (.head _))

theorem downstream_frames_valid_packed : ∃ p,
    (Operator.packer 32).product averagedAxis = .ok p ∧
      (∀ t ∈ p.signals, t.geometry.Valid) ∧ p.output.geometry.frameLength = 64 := by
  obtain ⟨accepted, bounded, -⟩ :=
    downstream_frames_valid (by decide) downstream_averagedAxis (.packer 32)
  exact ⟨_, rfl, (accepted _ rfl).2.2.2, (bounded nofun).1 _ rfl⟩

/-- A byte shifted to the right by minus 2048 bits would have 257 bytes. It is given one. -/
theorem wide_shift_wraps : ∃ (input : Signal) (p : Product), input.geometry.Valid ∧
    (Operator.math .rightShift (-2048) false).product input = .ok p ∧
      ((Operator.math .rightShift (-2048) false).outputPlan input).length = 257 ∧
      p.output.geometry.frameLength = 1 :=
  ⟨.root .uint ⟨1, 1, 255⟩ { widths := [1], units := 1, offset := 0, signed := false }, _,
    by decide, rfl, by decide, by decide⟩

end SensorHost
