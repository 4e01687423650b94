import SensorHost.Proofs.Operator.Downstream
import SensorHost.Signal.Decoding

/-!
# Kinds and signs

The sign of a number is told twice, by the kind of its signal and by its geometry, and decoding looks
at either. A signal is coherent if they agree. Every operator asks for coherent frames when its input
is coherent (`Operator.coherent_outputPlan`, `Operator.coherent_of_statePlan?`), and the views of any
frame are coherent, so everything downstream of a coherent root is (`downstream_coherent`) and is
read with the sign that its geometry declares (`Signal.Coherent.readsAsDeclared`).
-/

namespace SensorHost

/-- Whether numbers of this kind are signed; of flags, bytes, vectors and arrays it tells nothing. -/
def Kind.sign? : Kind → Option Bool
  | uint | ufloat => some false
  | int | sfloat => some true
  | bool | bytes | vector | array => none

/-- The fields are signed if the kind says so, and not if it says the opposite. -/
def FramePlan.Coherent (plan : FramePlan) : Prop := ∀ signed ∈ plan.kind.sign?, plan.signed = signed

namespace Signal

/-- The fields are signed if the kind says so, and not if it says the opposite. -/
def Coherent (s : Signal) : Prop := ∀ signed ∈ s.kind.sign?, s.geometry.signed = signed

instance (s : Signal) : Decidable s.Coherent := by
  unfold Coherent; infer_instance

/-- A signal is as coherent as the plan that it follows. -/
theorem Follows.coherent {s input : Signal} {place : Address} {plan : FramePlan}
    (follows : s.Follows input place plan) (coherent : plan.Coherent) : s.Coherent := by
  unfold Coherent
  rw [follows.kind, follows.geometry.signed]
  exact coherent

/-- The kind of an axis is chosen by the sign of its frame. -/
theorem IsAxis.coherent {axis frame : Signal} (h : axis.IsAxis frame) : axis.Coherent := by
  unfold Coherent
  rw [h.kind, h.signed]
  cases frame.geometry.signed <;> decide

end Signal

/-! ## Plans are coherent -/

namespace FramePlan

variable {plan : FramePlan}

/-- Values that become signed are of a kind that is not unsigned. -/
theorem coherent_toSigned (kind : Kind) :
    { plan with kind := kind.toSigned, signed := true }.Coherent := by
  cases kind <;> simp [Coherent, Kind.toSigned, Kind.sign?]

theorem coherent_toUnsigned (kind : Kind) :
    { plan with kind := kind.toUnsigned, signed := false }.Coherent := by
  cases kind <;> simp [Coherent, Kind.toUnsigned, Kind.sign?]

theorem Coherent.resized (h : plan.Coherent) (width : Nat) : (plan.resized width).Coherent := h

theorem Coherent.signedBy (h : plan.Coherent) (operand : Float32) :
    (plan.signedBy operand).Coherent := by
  unfold FramePlan.signedBy
  split
  · exact coherent_toSigned plan.kind
  · exact h

theorem coherent_scalar {kind : Kind} {signed : Bool} (h : ∀ sign ∈ kind.sign?, signed = sign)
    (width : Nat) : (scalar kind width signed).Coherent := h

/-- Nothing is known of the sign of bytes. -/
theorem coherent_of_bytes (bytes : plan.kind = .bytes) : plan.Coherent := by
  unfold Coherent
  rw [bytes]
  exact nofun

end FramePlan

section

variable {input : Signal}

theorem MathOp.coherent_outputPlan (coherent : input.Coherent) (op : MathOp) (operand : Float32) :
    (op.outputPlan input operand).Coherent := by
  have same : input.plan.Coherent := coherent
  cases op with
  -- A sum, product or quotient changes kind and sign together.
  | add | multiply | divide => exact (same.resized _).signedBy operand
  | subtract => exact FramePlan.coherent_scalar (by decide) 1
  | absValue => exact FramePlan.coherent_toUnsigned input.kind
  | modulus => exact same
  | exponent | leftShift | rightShift | sqrt => exact FramePlan.coherent_of_bytes rfl
  | constant =>
      refine FramePlan.coherent_scalar ?_ 4
      cases decide (operand < 0) <;> decide

namespace Operator

theorem coherent_differencePlan (input : Signal) : (differencePlan input).Coherent := by
  unfold differencePlan
  cases input.kind <;> simp [FramePlan.Coherent, Kind.sign?]

/-- An operator with a coherent input asks for a coherent output. -/
theorem coherent_outputPlan (coherent : input.Coherent) (op : Operator) :
    (op.outputPlan input).Coherent := by
  have same : input.plan.Coherent := coherent
  cases op with
  | passthrough | average | delay | time | compareOne | packer => exact same
  | buffer => exact FramePlan.coherent_of_bytes rfl
  | accumulate counting width =>
      cases counting with
      | true => exact FramePlan.coherent_scalar (by decide) _
      | false => exact coherent
  | math op operand every => exact op.coherent_outputPlan coherent operand
  | pulse mode _ _ =>
      cases mode with
      | width | onDetect => exact FramePlan.coherent_scalar (by decide) _
      | area => exact same.resized 4
      | peak => exact same
  | compareMany _ reported _ =>
      cases reported with
      | passFail | zone => exact FramePlan.coherent_scalar (by decide) 1
      | absolute | reference => exact same
  | threshold mode _ _ =>
      cases mode with
      | absolute => exact same
      | binary => exact FramePlan.coherent_scalar (by decide) 1
  | differential mode _ =>
      cases mode with
      | absolute => exact same
      | binary => exact FramePlan.coherent_scalar (by decide) 1
      | difference => exact coherent_differencePlan input
  | accounter => exact coherent
  | fuser => exact nofun
  | combine => exact FramePlan.coherent_scalar (by decide) _

/-- An operator with a coherent input keeps a coherent state. -/
theorem coherent_of_statePlan? {op : Operator} {plan : FramePlan} (coherent : input.Coherent)
    (planned : op.statePlan? input = some plan) : plan.Coherent := by
  cases op with
  | buffer =>
      obtain rfl := Option.some.inj planned
      exact coherent
  | accumulate counting width =>
      cases counting with
      | true =>
          obtain rfl := Option.some.inj planned
          exact FramePlan.coherent_scalar (by decide) _
      | false =>
          obtain rfl := Option.some.inj planned
          exact coherent
  | passthrough =>
      obtain rfl := Option.some.inj planned
      exact FramePlan.coherent_scalar (by decide) 2
  | _ => contradiction

/-- A product of a coherent input consists of coherent signals. -/
theorem coherent_of_product {op : Operator} {p : Product} (coherent : input.Coherent)
    (accepted : op.product input = .ok p) : ∀ t ∈ p.signals, t.Coherent := by
  intro t mem
  obtain ⟨s, place, plan, follows, planned, rfl | axis⟩ :=
    (follows_product op input p accepted).cases mem
  · refine follows.coherent ?_
    rcases planned with rfl | planned
    · exact coherent_outputPlan coherent op
    · exact coherent_of_statePlan? coherent planned
  · exact axis.coherent

end Operator

end

theorem Signal.Downstream.coherent {root s : Signal} (below : root.Downstream s)
    (coherent : root.Coherent) : s.Coherent :=
  below.keeps (fun _ _ _ => Operator.coherent_of_product) (fun _ _ coherent => coherent) coherent

/-! ## Reading coherent signals -/

namespace Signal

/-- The number in the first field of `data`, read with the sign that the geometry declares. -/
def declaredNumber (s : Signal) (data : Frame) : Int :=
  let field := data.take (min s.geometry.firstWidth.toNat 8)
  if s.geometry.signed then LittleEndian.signed field else LittleEndian.unsigned field

/-- The reading of `data` has the shape that its kind promises, with the declared number. -/
def Declares (s : Signal) (data : Frame) (reading : Reading) : Prop :=
  match s.kind with
  | .uint => 0 ≤ s.declaredNumber data ∧ reading = .unsigned (s.declaredNumber data).toNat
  | .int => reading = .signed (s.declaredNumber data)
  | .ufloat | .sfloat => reading = .real (Single.ofInt (s.declaredNumber data) / s.scale)
  | _ => True

theorem Coherent.declares {s : Signal} (coherent : s.Coherent) (data : Frame) :
    s.Declares data (s.readingOf data) := by
  obtain ⟨kind, address, geometry, ownScale, feed, axes, members⟩ := s
  cases kind with
  | uint =>
      have unsigned : geometry.signed = false := coherent _ rfl
      simp [Declares, declaredNumber, readingOf, unsigned]
  | int =>
      have signed : geometry.signed = true := coherent _ rfl
      simp [Declares, declaredNumber, readingOf, signed, widen]
  | ufloat =>
      have unsigned : geometry.signed = false := coherent _ rfl
      simp [Declares, declaredNumber, readingOf, unsigned]
  | sfloat =>
      have signed : geometry.signed = true := coherent _ rfl
      simp [Declares, declaredNumber, readingOf, signed, widen]
  | _ => trivial

/-- Every sample of a payload reads one unit of the part that the signal looks at. -/
theorem reading_of_mem_samples {s : Signal} {payload : Frame} {replayed : Bool} {sample : Sample}
    (mem : sample ∈ s.samples payload replayed) :
    ∃ i, sample.reading =
      s.readingOf ((s.positioned payload replayed).drop (i * s.geometry.unitLength)) := by
  unfold samples at mem
  simp only at mem
  split at mem
  · obtain rfl := List.mem_singleton.mp mem
    refine ⟨0, ?_⟩
    rw [Nat.zero_mul, List.drop_zero]
    rfl
  · obtain ⟨i, -, rfl⟩ := List.mem_map.mp mem
    exact ⟨i, rfl⟩

/-- Every payload, live or from a log, is read with the sign that the geometry declares, and so is
every unit of it. -/
def ReadsAsDeclared (s : Signal) : Prop :=
  ∀ payload replayed,
    s.Declares (s.positioned payload replayed) (s.reading payload replayed) ∧
      ∀ sample ∈ s.samples payload replayed, ∃ i,
        s.Declares ((s.positioned payload replayed).drop (i * s.geometry.unitLength)) sample.reading

theorem Coherent.readsAsDeclared {s : Signal} (coherent : s.Coherent) : s.ReadsAsDeclared := by
  intro payload replayed
  refine ⟨coherent.declares _, ?_⟩
  intro sample mem
  obtain ⟨i, same⟩ := reading_of_mem_samples mem
  exact ⟨i, same ▸ coherent.declares _⟩

end Signal

/-- Downstream of a coherent root, every signal is coherent and is read with the sign that it
declares, and so is every output, every state and every axis that an operator makes of it. -/
theorem downstream_coherent {root s : Signal} (coherent : root.Coherent)
    (below : root.Downstream s) :
    (s.Coherent ∧ s.ReadsAsDeclared) ∧
      ∀ op p, Operator.product op s = .ok p →
        ∀ t ∈ p.signals, t.Coherent ∧ t.ReadsAsDeclared := by
  have here := below.coherent coherent
  refine ⟨⟨here, here.readsAsDeclared⟩, ?_⟩
  intro op p accepted t mem
  have there := Operator.coherent_of_product here accepted t mem
  exact ⟨there, there.readsAsDeclared⟩

/-- The magnitude of a signed axis is an unsigned number. -/
theorem downstream_coherent_magnitude : ∃ p,
    (Operator.math .absValue 0 false).product averagedAxis = .ok p ∧ p.output.kind = .ufloat ∧
      ∀ t ∈ p.signals, t.Coherent ∧ t.ReadsAsDeclared :=
  ⟨_, rfl, rfl,
    (downstream_coherent (by decide) downstream_averagedAxis).2 (.math .absValue 0 false) _ rfl⟩

end SensorHost
