import SensorHost.Operator.Decoding
import SensorHost.Operator.Product
import SensorHost.Proofs.LittleEndian
import SensorHost.Proofs.Operator.Slots
import SensorHost.Proofs.Success

/-!
# Operators read back from their bytes

`decode_encode` says which operator is read back from the bytes of another: the same one, with its
operands brought to firmware units and back (`Operator.reread`). Only a comparison with several
references is left out, since its bytes can be those of a comparison with one
(`decode_compareMany`).

An operator whose parameters do not fit in their slots is read back as another one. Those that have
a product do fit (`fits_of_product`).
-/

namespace SensorHost

namespace Signal

/-- A host value read back from four bytes of firmware units. -/
def reread (s : Signal) (x : Float32) : Float32 :=
  s.ofWire (LittleEndian.signed (LittleEndian.encode 4 (s.toWire x)))

/-- A host value read back from two bytes of firmware units, without a sign. -/
def rereadShort (s : Signal) (x : Float32) : Float32 :=
  s.ofWire (LittleEndian.unsigned (LittleEndian.encode 2 (s.toWire x)))

end Signal

namespace MathOp

/-- The operand read back from four bytes of what the firmware gets. -/
def rereadOperand (op : MathOp) (input : Signal) (x : Float32) : Float32 :=
  let wire := LittleEndian.signed (LittleEndian.encode 4 (op.onBoard input x).2)
  match (op.onBoard input x).1 with
  | .multiply | .divide | .leftShift | .rightShift => Single.ofInt wire
  | _ => input.ofWire wire

end MathOp

namespace Operator

/-- The operator with its operands read back from their bytes. -/
def reread (input : Signal) : Operator → Operator
  | math op x every =>
    .math (op.onBoard input x).1 (op.rereadOperand input x)
      ((if every then UInt8.ofNat (max input.geometry.widths.length 1 - 1) else 0) != 0)
  | pulse mode level width => .pulse mode (input.reread level) width
  | compareOne comparison x => .compareOne comparison (input.reread x)
  | threshold mode boundary hysteresis =>
    .threshold mode (input.reread boundary) (input.rereadShort hysteresis)
  | differential mode distance => .differential mode (input.reread distance)
  | op => op

/-- The parameters are not cut by their slots. -/
def Fits : Operator → Prop
  | accumulate _ width => 1 ≤ width ∧ width ≤ 4
  | packer count => 1 ≤ count ∧ count ≤ 32
  | accounter _ length => 1 ≤ length ∧ length ≤ 4
  | _ => True

/-- The processors that a fuser joins can be counted in one byte, and each is found with the state
that it keeps. -/
def Resolves (fusedState : UInt8 → Option Signal) : Operator → Prop
  | fuser sources =>
    sources.length ≤ 255 ∧ ∀ source ∈ sources, fusedState source.id = some source.state
  | _ => True

/-- Whether the operator is a comparison with several references. -/
def isCompareMany : Operator → Bool
  | compareMany .. => true
  | _ => false

/-! ## Fields in operator bytes -/

theorem take_encode_self (width : Nat) (value : Int) :
    (LittleEndian.encode width value).take width = LittleEndian.encode width value :=
  List.take_of_length_le (Nat.le_of_eq (LittleEndian.encode_length width value))

theorem unsigned_uint16 (n : UInt16) :
    UInt16.ofNat (LittleEndian.unsigned (LittleEndian.encode 2 n.toNat)) = n := by
  rw [LittleEndian.unsigned_encode_of_lt n.toNat_lt, UInt16.ofNat_toNat]

theorem unsigned_uint32 (n : UInt32) :
    UInt32.ofNat (LittleEndian.unsigned (LittleEndian.encode 4 n.toNat)) = n := by
  rw [LittleEndian.unsigned_encode_of_lt n.toNat_lt, UInt32.ofNat_toNat]

theorem resolveFused_map {fusedState : UInt8 → Option Signal} {sources : List FusedSource}
    (found : ∀ source ∈ sources, fusedState source.id = some source.state) :
    resolveFused fusedState (sources.map (·.id)) = .ok sources := by
  induction sources with
  | nil => rfl
  | cons source rest ih =>
      have first := found source (List.mem_cons_self ..)
      have others := ih fun s h => found s (List.mem_cons_of_mem _ h)
      simp only [List.map_cons, resolveFused, first, others]
      rfl

/-! ## One operator after the other -/

section

variable (input output : Signal) (fusedState : UInt8 → Option Signal)

attribute [local simp] LittleEndian.encode_length OperatorCode.ofByte?_toByte
  take_encode_self bind Except.bind pure Except.pure

theorem decode_passthrough (mode : PassthroughMode) (count : UInt16) :
    decode (encode (.passthrough mode count) input output) input fusedState =
      .ok (.passthrough mode count) := by
  have read : PassthroughMode.ofByte mode.toByte = mode := by cases mode <;> rfl
  simp [decode, encode, read, unsigned_uint16]

theorem decode_accumulate {counting : Bool} {width : UInt8} (low : 1 ≤ width) (high : width ≤ 4) :
    decode (encode (.accumulate counting width) input output) input fusedState =
      .ok (.accumulate counting width) := by
  have flag (a b c : UInt8) :
      (slot a 0x3 0 ||| slot b 0x3 2 ||| slot c 0x1 4) &&& (0x10 : UInt8) = slot c 0x1 4 := by
    simp (disch := decide) only [or_and, slot_and_of_apart, slot_and_of_covered, UInt8.zero_or]
  have field (a b c : UInt8) :
      (slot a 0x3 0 ||| slot b 0x3 2 ||| slot c 0x1 4) &&& (0x3 : UInt8) = slot a 0x3 0 := by
    simp (disch := decide) only [or_and, slot_and_of_apart, slot_and_of_covered, UInt8.or_zero]
  have exact : slot (width - 1) 0x3 0 + 1 = width := by
    rw [slot_zero]
    exact @lessOne_and width low 2 high (by decide)
  have bit : (slot counting.toUInt8 0x1 4 != 0) = counting := by cases counting <;> rfl
  simp [decode, encode, flag, field, exact, bit]

theorem decode_average (samples : UInt8) (highPass : Bool) :
    decode (encode (.average samples highPass) input output) input fusedState =
      .ok (.average samples highPass) := by
  have flag (a b c d e : UInt8) :
      (slot a 0x3 0 ||| slot b 0x3 2 ||| slot c 0x3 4 ||| slot d 0x1 6 ||| slot e 0x1 7)
        &&& (0x80 : UInt8) = slot e 0x1 7 := by
    simp (disch := decide) only [or_and, slot_and_of_apart, slot_and_of_covered, UInt8.zero_or]
  have bit : (slot highPass.toUInt8 0x1 7 != 0) = highPass := by cases highPass <;> rfl
  simp [decode, encode, flag, bit]

theorem decode_delay (samples : UInt8) :
    decode (encode (.delay samples) input output) input fusedState = .ok (.delay samples) := by
  simp [decode, encode]

theorem decode_time (mode : TimeMode) (period : UInt32) :
    decode (encode (.time mode period) input output) input fusedState =
      .ok (.time mode period) := by
  have flag (a b : UInt8) :
      (slot a 0x7 0 ||| slot b 0x1 3) >>> 3 &&& (0x1 : UInt8) = b &&& 0x1 := by
    simp (disch := decide) only [UInt8.shiftRight_or, or_and, slot_apart, slot_shiftRight,
      UInt8.zero_or, UInt8.and_assoc, UInt8.and_self]
  have read : (if mode.toByte &&& 0x1 = 0 then TimeMode.absolute else .differential) = mode := by
    cases mode <;> rfl
  simp [decode, encode, flag, read, unsigned_uint32]

theorem decode_buffer :
    decode (encode .buffer input output) input fusedState = .ok .buffer := by
  simp [decode, encode]

theorem decode_math (op : MathOp) (x : Float32) (every : Bool) :
    decode (encode (.math op x every) input output) input fusedState =
      .ok (reread input (.math op x every)) := by
  cases sent : (op.onBoard input x).1 <;>
    simp [decode, encode, reread, MathOp.rereadOperand, MathOp.ofByte?_toByte, sent]

theorem decode_pulse (mode : PulseMode) (level : Float32) (width : UInt16) :
    decode (encode (.pulse mode level width) input output) input fusedState =
      .ok (.pulse mode (input.reread level) width) := by
  have read : PulseMode.ofByte mode.toByte = mode := by cases mode <;> rfl
  simp [decode, encode, Signal.reread, read, unsigned_uint16]

/-- The references in the bytes of a comparison, whose widths and sign the flags tell. -/
def referencesIn (input : Signal) (flags : UInt8) (payload : Frame) : List Float32 :=
  (pieces (((flags >>> 1) &&& 0x3).toNat + 1) (payload.length + 2) payload).map fun piece =>
    input.ofWire (widen piece (((flags >>> 1) &&& 0x3).toNat + 1) (flags &&& 0x1 != 0))

/-- Six bytes after flags that set at most the lowest bit, the second of them zero, are a comparison
with one reference. Everything else is one with several. -/
theorem decode_comparison (flags : UInt8) (payload : Frame) :
    decode (OperatorCode.comparison.toByte :: flags :: payload) input fusedState =
      if payload.length = 6 ∧ payload[1]? = some 0 ∧ flags ≤ 1 then
        .ok (.compareOne (ComparisonOp.ofByte (payload[0]?.getD 0))
          (input.ofWire (LittleEndian.signed ((payload.drop 2).take 4))))
      else
        .ok (.compareMany (ComparisonOp.ofByte ((flags >>> 3) &&& 0x7))
          (ComparisonOutput.ofByte ((flags >>> 6) &&& 0x3)) (referencesIn input flags payload)) := by
  by_cases single : payload.length = 6 ∧ payload[1]? = some 0 ∧ flags ≤ 1
  · rw [if_pos single]
    obtain ⟨length, zero, low⟩ := single
    match payload, length with
    | [a, b, c, d, e, f], _ =>
      obtain rfl : b = 0 := Option.some.inj zero
      simp [decode, low]
  · rw [if_neg single]
    simp [decode, single, referencesIn]

theorem decode_compareOne (comparison : ComparisonOp) (x : Float32) :
    decode (encode (.compareOne comparison x) input output) input fusedState =
      .ok (.compareOne comparison (input.reread x)) := by
  have read : ComparisonOp.ofByte comparison.toByte = comparison := by cases comparison <;> rfl
  have sign : input.geometry.signed.toUInt8 ≤ 1 := by cases input.geometry.signed <;> decide
  simp [encode, decode_comparison, Signal.reread, read, sign]

/-- The flags of a comparison with several references. -/
def manyFlags (input : Signal) (comparison : ComparisonOp) (reported : ComparisonOutput) : UInt8 :=
  slot input.geometry.signed.toUInt8 0x1 0 ||| slot (widthByte input.geometry - 1) 0x3 1
    ||| slot comparison.toByte 0x7 3 ||| slot reported.toByte 0x3 6

/-- Several references, each in as many bytes as the first field of the input. -/
def manyReferences (input : Signal) (references : List Float32) : Frame :=
  references.flatMap fun x => input.toWireBytes x (widthByte input.geometry).toNat

theorem encode_compareMany (comparison : ComparisonOp) (reported : ComparisonOutput)
    (references : List Float32) :
    encode (.compareMany comparison reported references) input output =
      OperatorCode.comparison.toByte :: manyFlags input comparison reported ::
        manyReferences input references := rfl

section

variable (comparison : ComparisonOp) (reported : ComparisonOutput)

theorem manyFlags_sign :
    (manyFlags input comparison reported &&& 0x1 != 0) = input.geometry.signed := by
  have field (a b c d : UInt8) :
      (slot a 0x1 0 ||| slot b 0x3 1 ||| slot c 0x7 3 ||| slot d 0x3 6) &&& (0x1 : UInt8) =
        slot a 0x1 0 := by
    simp (disch := decide) only [or_and, slot_and_of_apart, slot_and_of_covered, UInt8.or_zero]
  rw [manyFlags, field]
  cases input.geometry.signed <;> rfl

theorem manyFlags_width :
    (manyFlags input comparison reported >>> 1) &&& 0x3 = (widthByte input.geometry - 1) &&& 0x3 := by
  simp (disch := decide) only [manyFlags, UInt8.shiftRight_or, or_and, slot_apart, slot_shiftRight,
    UInt8.zero_or, UInt8.or_zero, UInt8.and_assoc, UInt8.and_self]

theorem manyFlags_operation :
    ComparisonOp.ofByte ((manyFlags input comparison reported >>> 3) &&& 0x7) = comparison := by
  have field : (manyFlags input comparison reported >>> 3) &&& 0x7 = comparison.toByte &&& 0x7 := by
    simp (disch := decide) only [manyFlags, UInt8.shiftRight_or, or_and, slot_apart,
      slot_shiftRight, UInt8.zero_or, UInt8.or_zero, UInt8.and_assoc, UInt8.and_self]
  rw [field]
  cases comparison <;> rfl

theorem manyFlags_output :
    ComparisonOutput.ofByte ((manyFlags input comparison reported >>> 6) &&& 0x3) = reported := by
  have field : (manyFlags input comparison reported >>> 6) &&& 0x3 = reported.toByte &&& 0x3 := by
    simp (disch := decide) only [manyFlags, UInt8.shiftRight_or, or_and, slot_apart,
      slot_shiftRight, UInt8.zero_or, UInt8.and_assoc, UInt8.and_self]
  rw [field]
  cases reported <;> rfl

end

/-- Flags that set at most the lowest bit tell of one-byte references that are to be equal and of a
report of the input. -/
theorem fields_of_flags_le_one {flags : UInt8} (low : flags ≤ 1) :
    (flags >>> 1) &&& 0x3 = 0 ∧ ComparisonOp.ofByte ((flags >>> 3) &&& 0x7) = .eq ∧
      ComparisonOutput.ofByte ((flags >>> 6) &&& 0x3) = .absolute := by
  have number : flags.toNat ≤ 1 := low
  rcases Nat.le_one_iff_eq_zero_or_eq_one.mp number with zero | one
  · rw [show flags = 0 from UInt8.toNat_inj.mp zero]
    decide
  · rw [show flags = 1 from UInt8.toNat_inj.mp one]
    decide

/-- Whether the bytes of a comparison with several references are taken for one with a single
reference. -/
def TakenForOne (input : Signal) (comparison : ComparisonOp) (reported : ComparisonOutput)
    (references : List Float32) : Prop :=
  (manyReferences input references).length = 6 ∧ (manyReferences input references)[1]? = some 0 ∧
    manyFlags input comparison reported ≤ 1

/-- The bytes of a comparison with several references are read back as such a comparison, or, where
nothing tells them apart, as one with a single reference. -/
theorem decode_compareMany_eq (comparison : ComparisonOp) (reported : ComparisonOutput)
    (references : List Float32) :
    (¬ TakenForOne input comparison reported references →
      decode (encode (.compareMany comparison reported references) input output) input fusedState =
        .ok (.compareMany comparison reported (referencesIn input
          (manyFlags input comparison reported) (manyReferences input references)))) ∧
      (TakenForOne input comparison reported references → ∃ comparison' x,
        decode (encode (.compareMany comparison reported references) input output) input fusedState =
          .ok (.compareOne comparison' x)) := by
  rw [encode_compareMany, decode_comparison, manyFlags_operation, manyFlags_output]
  exact ⟨fun several => if_neg several, fun single => ⟨_, _, if_pos single⟩⟩

/-- Both comparisons report the input. -/
theorem decode_compareMany (comparison : ComparisonOp) (reported : ComparisonOutput)
    (references : List Float32) :
    (∃ references', decode (encode (.compareMany comparison reported references) input output)
        input fusedState = .ok (.compareMany comparison reported references')) ∨
      (reported = .absolute ∧ ∃ comparison' x,
        decode (encode (.compareMany comparison reported references) input output) input fusedState =
          .ok (.compareOne comparison' x)) := by
  obtain ⟨several, one⟩ :=
    decode_compareMany_eq input output fusedState comparison reported references
  by_cases single : TakenForOne input comparison reported references
  · refine .inr ⟨?_, one single⟩
    have absolute := (fields_of_flags_le_one single.2.2).2.2
    rwa [manyFlags_output] at absolute
  · exact .inl ⟨_, several single⟩

theorem decode_threshold (mode : ThresholdMode) (boundary hysteresis : Float32) :
    decode (encode (.threshold mode boundary hysteresis) input output) input fusedState =
      .ok (.threshold mode (input.reread boundary) (input.rereadShort hysteresis)) := by
  have flag (a b c : UInt8) :
      (slot a 0x3 0 ||| slot b 0x1 2 ||| slot c 0x3 3) >>> 3 &&& (0x1 : UInt8) = c &&& 0x1 := by
    simp (disch := decide) only [UInt8.shiftRight_or, or_and, slot_apart, slot_shiftRight,
      UInt8.zero_or, UInt8.and_assoc]
    rfl
  have read : (if mode.toByte &&& 0x1 = 0 then ThresholdMode.absolute else .binary) = mode := by
    cases mode <;> rfl
  simp [decode, encode, Signal.reread, Signal.rereadShort, flag, read]

theorem decode_differential (mode : DifferentialMode) (distance : Float32) :
    decode (encode (.differential mode distance) input output) input fusedState =
      .ok (.differential mode (input.reread distance)) := by
  have flag (a b c : UInt8) :
      (slot a 0x3 0 ||| slot b 0x1 2 ||| slot c 0x3 3) >>> 3 &&& (0x3 : UInt8) = c &&& 0x3 := by
    simp (disch := decide) only [UInt8.shiftRight_or, or_and, slot_apart, slot_shiftRight,
      UInt8.zero_or, UInt8.and_assoc, UInt8.and_self]
  have read : DifferentialMode.ofByte (mode.toByte &&& 0x3) = mode := by cases mode <;> rfl
  simp [decode, encode, Signal.reread, flag, read]

theorem decode_packer {count : UInt8} (low : 1 ≤ count) (high : count ≤ 32) :
    decode (encode (.packer count) input output) input fusedState = .ok (.packer count) := by
  have exact : (slot (count - 1) 0x1f 0 &&& 0x1f) + 1 = count := by
    rw [slot_zero, UInt8.and_assoc, UInt8.and_self]
    exact @lessOne_and count low 5 high (by decide)
  simp [decode, encode, exact]

theorem decode_accounter {mode : AccounterMode} {length : UInt8} (low : 1 ≤ length)
    (high : length ≤ 4) :
    decode (encode (.accounter mode length) input output) input fusedState =
      .ok (.accounter mode length) := by
  have flag (a b : UInt8) : (slot a 0x3 0 ||| slot b 0x3 4) &&& (0x3 : UInt8) = slot a 0x3 0 := by
    simp (disch := decide) only [or_and, slot_and_of_apart, slot_and_of_covered, UInt8.or_zero]
  have field (a b : UInt8) :
      (slot a 0x3 0 ||| slot b 0x3 4) >>> 4 &&& (0x3 : UInt8) = b &&& 0x3 := by
    simp (disch := decide) only [UInt8.shiftRight_or, or_and, slot_apart, slot_shiftRight,
      UInt8.zero_or, UInt8.and_assoc, UInt8.and_self]
  have read : (if slot mode.toByte 0x3 0 = 0 then AccounterMode.count else .time) = mode := by
    cases mode <;> rfl
  have exact : (length - 1 &&& 0x3) + 1 = length := @lessOne_and length low 2 high (by decide)
  simp [decode, encode, flag, field, read, exact]

theorem decode_fuser {sources : List FusedSource}
    (resolves : (Operator.fuser sources).Resolves fusedState) :
    decode (encode (.fuser sources) input output) input fusedState = .ok (.fuser sources) := by
  obtain ⟨few, found⟩ := resolves
  have count : (UInt8.ofNat sources.length).toNat = sources.length := by
    rw [UInt8.toNat_ofNat']
    omega
  have ids : (sources.map (·.id)).take sources.length = sources.map (·.id) :=
    List.take_of_length_le (by simp)
  have room : 2 + sources.length ≤ sources.length + 1 + 1 := by omega
  simp [decode, encode, count, ids, room, resolveFused_map found]

theorem decode_combine (mode : CombineMode) :
    decode (encode (.combine mode) input output) input fusedState = .ok (.combine mode) := by
  have read : (if mode.toByte = 0 then CombineMode.rms else .rss) = mode := by cases mode <;> rfl
  simp [decode, encode, read]

/-- Whatever its input and output, an operator is read back from its bytes with its operands brought
to firmware units and back. -/
theorem decode_encode {op : Operator} (fits : op.Fits) (resolves : op.Resolves fusedState)
    (single : op.isCompareMany = false) :
    decode (encode op input output) input fusedState = .ok (op.reread input) := by
  cases op with
  | passthrough mode count => exact decode_passthrough ..
  | accumulate counting width => exact decode_accumulate _ _ _ fits.1 fits.2
  | average samples highPass => exact decode_average ..
  | delay samples => exact decode_delay ..
  | time mode period => exact decode_time ..
  | buffer => exact decode_buffer ..
  | math op x every => exact decode_math ..
  | pulse mode level width => exact decode_pulse ..
  | compareOne comparison x => exact decode_compareOne ..
  | compareMany comparison reported references => contradiction
  | threshold mode boundary hysteresis => exact decode_threshold ..
  | differential mode distance => exact decode_differential ..
  | packer count => exact decode_packer _ _ _ fits.1 fits.2
  | accounter mode length => exact decode_accounter _ _ _ fits.1 fits.2
  | fuser sources => exact decode_fuser _ _ _ resolves
  | combine mode => exact decode_combine ..

end

/-! ## Parameters of operators that have a product -/

theorem requireWidth_eq_ok {op : Operator} {input : Signal} {width : UInt8} {done : Unit}
    (h : op.requireWidth input width = .ok done) : 1 ≤ width ∧ width ≤ 4 := by
  unfold requireWidth at h
  split at h
  · assumption
  · contradiction

/-- An operator that has a product has parameters that its bytes can carry. -/
theorem fits_of_product {op : Operator} {input : Signal} {p : Product}
    (h : op.product input = .ok p) : op.Fits := by
  cases op with
  | accumulate counting width =>
      obtain ⟨_, required, _⟩ := bind_eq_ok h
      exact requireWidth_eq_ok required
  | packer count =>
      unfold product at h
      simp only at h
      split at h
      · assumption
      · contradiction
  | accounter mode length =>
      obtain ⟨_, required, _⟩ := bind_eq_ok h
      exact requireWidth_eq_ok required
  | _ => trivial

end Operator

end SensorHost
