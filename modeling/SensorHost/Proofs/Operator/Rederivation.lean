import SensorHost.Proofs.Geometry
import SensorHost.Proofs.Operator.Codec
import SensorHost.Proofs.Single.Integers

/-!
# Products worked out again

After a reconnect a host knows a processor by its operator bytes alone, and works out its product
again from the operator that it reads from them. Operands come back changed: they are cut to
integers, and a product with a fraction comes back as a division. The geometry of a product depends
on an operand only through its sign, through whether it reaches one, and through the integer that a
shift takes it for, so nearly every product is the same the second time.

The exceptions are a sum with unsigned values and a constant, whose outputs are signed if their
operand is negative. The sign of the output is written into the operator bytes but not read back
from them, and the sign of the operand is lost where it is cut to zero or exceeds four bytes.
-/

namespace SensorHost

namespace MathOp

/-! ## What a result depends on -/

theorem signedBy_congr {input : Signal} {x y : Float32} (sign : x < 0 ↔ y < 0) (g : Geometry) :
    signedBy input x g = signedBy input y g := by
  have same : decide (x < 0) = decide (y < 0) := decide_eq_decide.mpr sign
  rw [signedBy, signedBy, same]

theorem output_multiply_congr {input : Signal} {x y : Float32} (sign : x < 0 ↔ y < 0)
    (reach : x.abs < 1 ↔ y.abs < 1) :
    output .multiply input x = output .multiply input y := by
  simp only [output, signedBy_congr sign, reach]

theorem output_divide_congr {input : Signal} {x y : Float32} (sign : x < 0 ↔ y < 0)
    (reach : x.abs < 1 ↔ y.abs < 1) :
    output .divide input x = output .divide input y := by
  simp only [output, signedBy_congr sign, reach]

/-- A product with a number that reaches one and a division by a fraction have the same geometry,
and so have the other two. -/
theorem output_multiply_eq_divide {input : Signal} {x y : Float32} (sign : x < 0 ↔ y < 0)
    (opposite : x.abs < 1 ↔ ¬ y.abs < 1) :
    output .multiply input x = output .divide input y := by
  simp only [output, signedBy_congr sign, opposite, ite_not]

/-! ## Factors and shifts read back -/

theorem signed_encode_toInt32 (x : Float32) :
    LittleEndian.signed (LittleEndian.encode 4 (Single.toInt32 x)) = Single.toInt32 x := by
  obtain ⟨low, high⟩ := Single.toInt32_range x
  exact LittleEndian.signed_encode_of_range (by decide) (by omega) (by omega)

/-- A factor or divisor that is a fraction. -/
theorem onBoard_of_fraction {x : Float32} (small : x.abs < 1) (nonzero : (x != 0) = true)
    (input : Signal) :
    onBoard .multiply input x = (.divide, Single.toInt32 (1 / x)) ∧
      onBoard .divide input x = (.multiply, Single.toInt32 (1 / x)) := by
  simp [onBoard, small, nonzero]

/-- A factor or divisor that is zero or reaches one. -/
theorem onBoard_of_whole {x : Float32} (whole : x.abs < 1 → (x != 0) = false) (input : Signal) :
    onBoard .multiply input x = (.multiply, Single.toInt32 x) ∧
      onBoard .divide input x = (.divide, Single.toInt32 x) := by
  by_cases small : x.abs < 1
  · simp [onBoard, small, whole small]
  · simp [onBoard, small]

theorem rereadOperand_of_factor {op op' : MathOp} {input : Signal} {x y : Float32}
    (sent : onBoard op input x = (op', Single.toInt32 y))
    (factor : op' = .multiply ∨ op' = .divide) :
    op.rereadOperand input x = Single.ofInt (Single.toInt32 y) := by
  unfold rereadOperand
  rw [sent, signed_encode_toInt32]
  rcases factor with rfl | rfl <;> rfl

/-- A product and a quotient have the same geometry when their operand has been read back. -/
theorem output_reread_factor {op : MathOp} {x : Float32} (number : x.isNaN = false)
    (factor : op = .multiply ∨ op = .divide) (input : Signal) :
    output (op.onBoard input x).1 input (op.rereadOperand input x) = output op input x := by
  obtain ⟨s, form⟩ := Single.reachesOne_or_zero_or_isFraction number
  by_cases fraction : Single.IsFraction s (Single.parts x)
  · -- A product is sent as a division by the reciprocal, which reaches one, and the reverse.
    have small := Single.abs_lt_one_of_isFraction fraction
    obtain ⟨asDivision, asProduct⟩ :=
      onBoard_of_fraction small (Single.bne_zero_of_isFraction fraction) input
    obtain ⟨sign, reach⟩ := Single.ofInt_toInt32_one_div fraction
    rcases factor with rfl | rfl
    · rw [rereadOperand_of_factor asDivision (.inr rfl), asDivision]
      exact (output_multiply_eq_divide sign.symm (iff_of_true small reach)).symm
    · rw [rereadOperand_of_factor asProduct (.inl rfl), asProduct]
      exact output_multiply_eq_divide sign (iff_of_false reach (not_not_intro small))
  · -- Anything else is sent as what it is cut to.
    have whole : Single.ReachesOne s (Single.parts x) ∨ Single.parts x = .zero s := by
      rcases form with reaches | zero | h
      · exact .inl reaches
      · exact .inr zero
      · exact absurd h fraction
    obtain ⟨sign, reach⟩ := Single.ofInt_toInt32_of_whole whole
    have zeroOnly : x.abs < 1 → (x != 0) = false := by
      intro small
      rcases whole with reaches | zero
      · exact absurd small (Single.not_abs_lt_one_of_reachesOne reaches)
      · rw [← Bool.not_eq_true, Single.bne_zero_iff]
        exact fun h => h s zero
    obtain ⟨asProduct, asDivision⟩ := onBoard_of_whole zeroOnly input
    rcases factor with rfl | rfl
    · rw [rereadOperand_of_factor asProduct (.inl rfl), asProduct]
      exact output_multiply_congr sign reach
    · rw [rereadOperand_of_factor asDivision (.inr rfl), asDivision]
      exact output_divide_congr sign reach

theorem output_reread_shift {op : MathOp} (shift : op = .leftShift ∨ op = .rightShift)
    (input : Signal) (x : Float32) :
    output (op.onBoard input x).1 input (op.rereadOperand input x) = output op input x := by
  rcases shift with rfl | rfl <;>
    simp only [onBoard, rereadOperand, output, leftShiftWidth, rightShiftWidth,
      signed_encode_toInt32, Single.toInt32_ofInt_toInt32]

/-! ## Sums and constants read back -/

theorem geometry_outputAs (input : Signal) (kind : Kind) (g : Geometry) :
    (input.outputAs kind g).geometry = g := by
  unfold Signal.outputAs
  split <;> rfl

theorem signed_of_output_add {input out : Signal} {x : Float32}
    (h : output .add input x = .ok out) :
    out.geometry.signed = (input.geometry.signed || decide (x < 0)) := by
  obtain ⟨g, resized, made⟩ := bind_eq_ok h
  have sign := Geometry.signed_of_resized (Geometry.lift_eq_ok resized)
  have same : out = input.outputAs (signedBy input x g).1 (signedBy input x g).2 :=
    (Except.ok.inj made).symm
  rw [same, geometry_outputAs]
  unfold signedBy
  split
  · rename_i signed
    exact signed.symm
  · rename_i unsigned
    rw [sign]
    simp at unsigned
    simp [unsigned]

theorem signed_of_output_constant {input out : Signal} {x : Float32}
    (h : output .constant input x = .ok out) : out.geometry.signed = decide (x < 0) := by
  obtain ⟨g, scalar, made⟩ := bind_eq_ok h
  rw [← Except.ok.inj made]
  exact Geometry.signed_of_scalar (Geometry.lift_eq_ok scalar)

/-- The sum with another number has the same output just if neither number decides the sign, or if
both have the same sign. -/
theorem output_add_iff {input out : Signal} {x y : Float32} (h : output .add input x = .ok out) :
    output .add input y = .ok out ↔ input.geometry.signed = true ∨ (y < 0 ↔ x < 0) := by
  constructor
  · intro same
    have sign := (signed_of_output_add same).symm.trans (signed_of_output_add h)
    cases signed : input.geometry.signed with
    | true => exact .inl rfl
    | false =>
        rw [signed, Bool.false_or, Bool.false_or] at sign
        exact .inr (decide_eq_decide.mp sign)
  · rintro (signed | sign)
    · rw [← h]
      simp only [output, signedBy, signed, Bool.true_or]
    · rw [← h]
      simp only [output, signedBy_congr sign]

theorem output_constant_iff {input out : Signal} {x y : Float32}
    (h : output .constant input x = .ok out) :
    output .constant input y = .ok out ↔ (y < 0 ↔ x < 0) := by
  constructor
  · intro same
    have sign := (signed_of_output_constant same).symm.trans (signed_of_output_constant h)
    exact decide_eq_decide.mp sign
  · intro sign
    have same : decide (y < 0) = decide (x < 0) := decide_eq_decide.mpr sign
    rw [← h]
    simp only [output, same]

end MathOp

namespace Operator

/-- The operands that are sent in firmware units. -/
def operands : Operator → List Float32
  | math _ x _ | pulse _ x _ | compareOne _ x | differential _ x => [x]
  | compareMany _ _ references => references
  | threshold _ boundary hysteresis => [boundary, hysteresis]
  | _ => []

/-- The operand of a sum with unsigned values, and a constant, is negative just if it is read back
from its four bytes as a negative number. -/
def KeepsSign (input : Signal) : Operator → Prop
  | math .add x _ => input.geometry.signed = true ∨ (input.reread x < 0 ↔ x < 0)
  | math .constant x _ => input.reread x < 0 ↔ x < 0
  | _ => True

theorem requireNumeric_eq_ok {op : Operator} {input : Signal} :
    op.requireNumeric input = .ok () ↔ input.kind ≠ .bytes ∧ input.kind ≠ .array := by
  unfold requireNumeric
  split
  · simp [refuse, *]
  · simp [refuse, *]
  · rename_i notBytes notArray
    exact iff_of_true rfl ⟨notBytes, notArray⟩

/-- What a computation needs of its input does not depend on the computation. -/
theorem product_math_eq_ok {op : MathOp} {x : Float32} {every : Bool} {input : Signal}
    {p : Product} :
    (math op x every).product input = .ok p ↔
      (input.kind ≠ .bytes ∧ input.kind ≠ .array) ∧
        ∃ out, op.output input x = .ok out ∧ p = ⟨out, none⟩ := by
  constructor
  · intro h
    obtain ⟨_, numeric, computed⟩ := bind_eq_ok h
    obtain ⟨out, output, made⟩ := bind_eq_ok computed
    exact ⟨requireNumeric_eq_ok.mp numeric, out, output, (Except.ok.inj made).symm⟩
  · rintro ⟨numeric, out, output, rfl⟩
    have accepted : (math op x every).requireNumeric input = .ok () :=
      requireNumeric_eq_ok.mpr numeric
    simp only [product, accepted, output]
    rfl

/-- Every operator but a computation has the same product with its operands read back. -/
theorem product_reread {op : Operator} (input : Signal)
    (other : ∀ mathOp x every, op ≠ math mathOp x every) :
    (op.reread input).product input = op.product input := by
  cases op with
  | math mathOp x every => exact absurd rfl (other mathOp x every)
  | _ => rfl

/-- A computation has the same product with its operand read back just if that keeps the sign which
the output takes from it. -/
theorem product_math_reread_iff {op : MathOp} {x : Float32} {every : Bool} {input : Signal}
    {p : Product} (h : (math op x every).product input = .ok p) (number : x.isNaN = false) :
    ((math op x every).reread input).product input = .ok p ↔
      (math op x every).KeepsSign input := by
  obtain ⟨numeric, out, output, rfl⟩ := product_math_eq_ok.mp h
  have reduced (op' : MathOp) (y : Float32) (every' : Bool) :
      (math op' y every').product input = .ok ⟨out, none⟩ ↔ op'.output input y = .ok out := by
    rw [product_math_eq_ok]
    constructor
    · rintro ⟨-, out', output', same⟩
      obtain rfl : out = out' := congrArg Product.output same
      exact output'
    · intro output'
      exact ⟨numeric, out, output', rfl⟩
  rw [reread, reduced]
  cases op with
  | add => exact MathOp.output_add_iff output
  | constant => exact MathOp.output_constant_iff output
  | multiply =>
      rw [MathOp.output_reread_factor number (.inl rfl)]
      exact iff_of_true output trivial
  | divide =>
      rw [MathOp.output_reread_factor number (.inr rfl)]
      exact iff_of_true output trivial
  | leftShift =>
      rw [MathOp.output_reread_shift (.inl rfl)]
      exact iff_of_true output trivial
  | rightShift =>
      rw [MathOp.output_reread_shift (.inr rfl)]
      exact iff_of_true output trivial
  | modulus | exponent | sqrt | subtract | absValue => exact iff_of_true output trivial

/-- An operator that has a product is read back from its bytes, and the operator read back has the
same product just if the sign of its operand is kept. -/
theorem rederived_iff_keepsSign {op : Operator} {input : Signal} {p : Product}
    {fusedState : UInt8 → Option Signal} (derived : op.product input = .ok p)
    (numbers : ∀ x ∈ op.operands, x.isNaN = false) (resolves : op.Resolves fusedState) :
    ∃ op', decode (encode op input p.output) input fusedState = .ok op' ∧
      (op'.product input = .ok p ↔ op.KeepsSign input) := by
  have single := decode_encode input p.output fusedState (fits_of_product derived) resolves
  cases op with
  | math mathOp x every =>
      refine ⟨_, single rfl, product_math_reread_iff derived ?_⟩
      exact numbers x (List.mem_singleton_self x)
  | compareMany comparison reported references =>
      rcases decode_compareMany input p.output fusedState comparison reported references with
        ⟨references', several⟩ | ⟨rfl, comparison', x, one⟩
      · exact ⟨_, several, iff_of_true derived trivial⟩
      · -- A comparison with one reference reports its input too.
        refine ⟨_, one, iff_of_true ?_ trivial⟩
        obtain ⟨_, numeric, made⟩ := bind_eq_ok derived
        have accepted : (compareOne comparison' x).requireNumeric input = .ok () :=
          requireNumeric_eq_ok.mpr (requireNumeric_eq_ok.mp numeric)
        simp only [product, accepted]
        exact made
  | _ =>
      refine ⟨_, single rfl, iff_of_true ?_ trivial⟩
      rw [product_reread input (by nofun)]
      exact derived

/-- A byte from a register of the board, for runs on fixed inputs. -/
def byteInput : Signal :=
  .root .uint ⟨1, 1, 255⟩ { widths := [1], units := 1, offset := 0, signed := false }

theorem rederived_iff_keepsSign_half :
    ∃ p, (math .multiply 0.5 false).product byteInput = .ok p ∧
      ∃ op', decode (encode (math .multiply 0.5 false) byteInput p.output) byteInput
          (fun _ => none) = .ok op' ∧
        (op'.product byteInput = .ok p ↔ (math .multiply 0.5 false).KeepsSign byteInput) :=
  ⟨_, rfl, rederived_iff_keepsSign rfl (by decide) trivial⟩

/-- Three billion is written to the board as a positive constant and read back as a negative one, so
an unsigned output comes back signed. -/
theorem constant_not_rederived :
    ∃ p op' p', (math .constant 3000000000 false).product byteInput = .ok p ∧
      decode (encode (math .constant 3000000000 false) byteInput p.output) byteInput
        (fun _ => none) = .ok op' ∧
      op'.product byteInput = .ok p' ∧ p.output.kind = .uint ∧ p'.output.kind = .int :=
  ⟨_, _, _, rfl, rfl, rfl, by decide, by decide⟩

end Operator

end SensorHost
