import SensorHost.Proofs.Operator.Rederivation

/-!
# Operators that come back as they were

Operators without operands are read back from their bytes exactly
(`decode_encode_of_operands_nil`), whatever their counts, periods, widths and ids.

The two comparisons share a code, and the bytes of one can spell the other: six references of one
byte, of which the second is zero, are read as a single reference of four bytes if the flags above
them say no more than the sign (`SpellsOne`). Apart from that, both come back with everything but
their references unchanged (`comparison_read_back`).
-/

namespace SensorHost

namespace Signal

/-- The bytes of a reference among several: as many as the first field has. -/
def fieldBytes (s : Signal) (x : Float32) : Frame :=
  s.toWireBytes x (Operator.widthByte s.geometry).toNat

/-- A host value read back from as many bytes as the first field has. -/
def rereadField (s : Signal) (x : Float32) : Float32 :=
  s.ofWire (widen (s.fieldBytes x) (Operator.widthByte s.geometry).toNat s.geometry.signed)

end Signal

namespace Operator

/-! ## References -/

theorem pieces_of_ne_nil {width count : Nat} {bytes : Frame} (nonempty : bytes ≠ []) :
    pieces width (count + 1) bytes = bytes.take width :: pieces width count (bytes.drop width) := by
  cases bytes with
  | nil => contradiction
  | cons b rest => rfl

/-- What was put together of pieces of one width is taken apart into them. -/
theorem pieces_flatMap {α : Type} {f : α → Frame} {width : Nat} (pos : 0 < width)
    (same : ∀ a, (f a).length = width) {as : List α} {count : Nat} (enough : as.length ≤ count) :
    pieces width count (as.flatMap f) = as.map f := by
  -- The count only bounds the recursion, which takes one piece for each of `as`.
  induction as generalizing count with
  | nil => cases count <;> rfl
  | cons a rest ih =>
      cases count with
      | zero => contradiction
      | succ count =>
          have nonempty : f a ++ rest.flatMap f ≠ [] := by
            rw [← List.length_pos_iff, List.length_append, same a]
            omega
          rw [List.flatMap_cons, List.map_cons, pieces_of_ne_nil nonempty,
            List.take_left' (same a), List.drop_left' (same a), ih (Nat.le_of_succ_le_succ enough)]

section

variable {input : Signal} (low : 1 ≤ input.geometry.firstWidth)
  (high : input.geometry.firstWidth ≤ 4)

include low in
theorem widthByte_of_pos : widthByte input.geometry = input.geometry.firstWidth := by
  show (if input.geometry.firstWidth ≤ 1 then 1 else input.geometry.firstWidth) = _
  split
  · rename_i one
    exact UInt8.le_antisymm low one
  · rfl

include low high

theorem length_fieldBytes (x : Float32) :
    (input.fieldBytes x).length = input.geometry.firstWidth.toNat := by
  have narrow : input.geometry.firstWidth.toNat ≤ 4 := high
  rw [Signal.fieldBytes, Signal.toWireBytes, LittleEndian.encode_length, widthByte_of_pos low]
  omega

/-- The width in the flags of a comparison is that of the first field. -/
theorem width_of_manyFlags (comparison : ComparisonOp) (reported : ComparisonOutput) :
    ((manyFlags input comparison reported >>> 1) &&& 0x3).toNat + 1 =
      input.geometry.firstWidth.toNat := by
  have bits : ((manyFlags input comparison reported >>> 1) &&& 0x3) + 1 =
      input.geometry.firstWidth := by
    rw [manyFlags_width, widthByte_of_pos low]
    exact @lessOne_and input.geometry.firstWidth low 2 high (by decide)
  have small : ((manyFlags input comparison reported >>> 1) &&& 0x3).toNat ≤ 3 := by
    rw [UInt8.toNat_and]
    exact Nat.and_le_right
  have number := congrArg UInt8.toNat bits
  rw [UInt8.toNat_add, show UInt8.toNat 1 = 1 from rfl] at number
  omega

theorem length_manyReferences (references : List Float32) :
    (manyReferences input references).length =
      references.length * input.geometry.firstWidth.toNat := by
  induction references with
  | nil => exact (Nat.zero_mul _).symm
  | cons x rest ih =>
      have first : (input.fieldBytes x).length = input.geometry.firstWidth.toNat :=
        length_fieldBytes low high x
      show (input.fieldBytes x ++ manyReferences input rest).length = _
      rw [List.length_append, first, ih, List.length_cons, Nat.succ_mul, Nat.add_comm]

/-- The references of a comparison come back one by one. -/
theorem referencesIn_manyReferences (comparison : ComparisonOp) (reported : ComparisonOutput)
    (references : List Float32) :
    referencesIn input (manyFlags input comparison reported) (manyReferences input references) =
      references.map input.rereadField := by
  have pos : 0 < input.geometry.firstWidth.toNat := low
  have enough : references.length ≤ (manyReferences input references).length + 2 := by
    rw [length_manyReferences low high]
    exact Nat.le_add_right_of_le (Nat.le_mul_of_pos_right _ pos)
  have parts : pieces input.geometry.firstWidth.toNat ((manyReferences input references).length + 2)
      (manyReferences input references) = references.map input.fieldBytes :=
    pieces_flatMap pos (length_fieldBytes low high) enough
  rw [referencesIn, width_of_manyFlags low high, manyFlags_sign, parts, List.map_map]
  unfold Signal.rereadField
  rw [widthByte_of_pos low]
  rfl

end

/-- Six references of one byte, the second of them zero, that the input is compared to for equality
by a comparison that reports the input. Their bytes are those of one reference of four bytes. -/
structure SpellsOne (input : Signal) (comparison : ComparisonOp) (reported : ComparisonOutput)
    (references : List Float32) : Prop where
  width : input.geometry.firstWidth = 1
  operation : comparison = .eq
  output : reported = .absolute
  count : references.length = 6
  second : ∃ x, references[1]? = some x ∧ input.toWire x % 256 = 0

theorem manyReferences_of_byte {input : Signal} (byte : input.geometry.firstWidth = 1)
    (references : List Float32) :
    manyReferences input references =
      references.map fun x => UInt8.ofNat (input.toWire x % 256).toNat := by
  have width : (widthByte input.geometry).toNat = 1 := by
    rw [widthByte, byte]
    rfl
  induction references with
  | nil => rfl
  | cons x rest ih =>
      show input.toWireBytes x (widthByte input.geometry).toNat ++ manyReferences input rest = _
      rw [ih, width]
      rfl

theorem takenForOne_iff {input : Signal} (low : 1 ≤ input.geometry.firstWidth)
    (high : input.geometry.firstWidth ≤ 4) {comparison : ComparisonOp}
    {reported : ComparisonOutput} {references : List Float32} :
    TakenForOne input comparison reported references ↔
      SpellsOne input comparison reported references := by
  have second (byte : input.geometry.firstWidth = 1) :
      (manyReferences input references)[1]? = some 0 ↔
        ∃ x, references[1]? = some x ∧ input.toWire x % 256 = 0 := by
    rw [manyReferences_of_byte byte, List.getElem?_map, Option.map_eq_some_iff]
    refine exists_congr fun x => and_congr_right fun _ => ?_
    rw [← UInt8.toNat_inj, UInt8.toNat_ofNat', UInt8.toNat_zero]
    omega
  constructor
  · rintro ⟨count, zero, flags⟩
    -- Flags of at most one leave the width, the operation and the report no choice.
    obtain ⟨width, operation, output⟩ := fields_of_flags_le_one flags
    rw [manyFlags_operation] at operation
    rw [manyFlags_output] at output
    have byte : input.geometry.firstWidth = 1 := by
      have number := width_of_manyFlags low high comparison reported
      rw [width] at number
      exact UInt8.toNat_inj.mp number.symm
    refine ⟨byte, operation, output, ?_, (second byte).mp zero⟩
    rwa [length_manyReferences low high, byte, show UInt8.toNat 1 = 1 from rfl,
      Nat.mul_one] at count
  · rintro ⟨byte, rfl, rfl, count, zero⟩
    refine ⟨?_, (second byte).mpr zero, ?_⟩
    · rw [length_manyReferences low high, byte, count]
      rfl
    · have width : widthByte input.geometry = 1 := by
        rw [widthByte, byte]
        rfl
      rw [manyFlags, width]
      cases input.geometry.signed <;> decide

/-- Both comparisons are read back with their operation, and one with several references with its
report and as many references, unless its bytes spell one with a single reference. -/
theorem comparison_read_back {input : Signal} (low : 1 ≤ input.geometry.firstWidth)
    (high : input.geometry.firstWidth ≤ 4) (output : Signal)
    (fusedState : UInt8 → Option Signal) :
    (∀ comparison x,
      decode (encode (.compareOne comparison x) input output) input fusedState =
        .ok (.compareOne comparison (input.reread x))) ∧
      ∀ comparison reported references,
        (¬ SpellsOne input comparison reported references →
          decode (encode (.compareMany comparison reported references) input output) input
            fusedState =
              .ok (.compareMany comparison reported (references.map input.rereadField))) ∧
        (SpellsOne input comparison reported references → ∃ comparison' x,
          decode (encode (.compareMany comparison reported references) input output) input
            fusedState = .ok (.compareOne comparison' x)) := by
  refine ⟨fun comparison x => decode_compareOne input output fusedState comparison x, ?_⟩
  intro comparison reported references
  obtain ⟨several, one⟩ :=
    decode_compareMany_eq input output fusedState comparison reported references
  rw [takenForOne_iff low high] at several one
  rw [referencesIn_manyReferences low high] at several
  exact ⟨several, one⟩

/-- The second of six references to a byte is not zero, so they come back as six. -/
theorem comparison_read_back_six :
    ¬ SpellsOne byteInput .eq .absolute [1, 7, 2, 3, 4, 5] ∧
      decode (encode (.compareMany .eq .absolute [1, 7, 2, 3, 4, 5]) byteInput byteInput) byteInput
        (fun _ => none) =
          .ok (.compareMany .eq .absolute ([1, 7, 2, 3, 4, 5].map byteInput.rereadField)) := by
  have differs : ¬ SpellsOne byteInput .eq .absolute [1, 7, 2, 3, 4, 5] := by
    rintro ⟨-, -, -, -, x, seven, zero⟩
    obtain rfl := Option.some.inj seven
    exact absurd zero (by decide)
  have low : 1 ≤ byteInput.geometry.firstWidth := by decide
  obtain ⟨-, many⟩ := comparison_read_back low (by decide) byteInput fun _ => none
  exact ⟨differs, (many .eq .absolute [1, 7, 2, 3, 4, 5]).1 differs⟩

/-- The second of six references to a byte is zero, and they come back as one, with another
operation. -/
theorem six_references_read_as_one : ∃ p x,
    (compareMany .eq .absolute [1, 0, 2, 3, 4, 5]).product byteInput = .ok p ∧
      decode (encode (.compareMany .eq .absolute [1, 0, 2, 3, 4, 5]) byteInput p.output) byteInput
        (fun _ => none) = .ok (.compareOne .neq x) :=
  ⟨_, _, rfl, rfl⟩

/-! ## Operators without operands -/

/-- An operator without operands that has a product is read back from its bytes as it was. -/
theorem decode_encode_of_operands_nil {op : Operator} {input : Signal} {p : Product}
    {fusedState : UInt8 → Option Signal} (accepted : op.product input = .ok p)
    (resolves : op.Resolves fusedState) (bare : op.operands = []) :
    decode (encode op input p.output) input fusedState = .ok op := by
  have single := decode_encode input p.output fusedState (fits_of_product accepted) resolves
  cases op with
  | math | pulse | compareOne | threshold | differential => contradiction
  -- Without references there is nothing that could be taken for a single one.
  | compareMany comparison reported references =>
      obtain rfl : references = [] := bare
      have several := (decode_compareMany_eq input p.output fusedState comparison reported []).1
      exact several fun taken => absurd (show 0 = 6 from taken.1) (by decide)
  | _ => exact single rfl

/-- A byte joined with the states of two processors. -/
theorem decode_encode_of_operands_nil_fused :
    let sources : List FusedSource := [⟨200, byteInput⟩, ⟨3, byteInput.withId 3⟩]
    let lookup (id : UInt8) : Option Signal :=
      (sources.find? fun source => source.id = id).map (·.state)
    ∃ p, (fuser sources).product byteInput = .ok p ∧
      decode (encode (fuser sources) byteInput p.output) byteInput lookup = .ok (fuser sources) :=
  ⟨_, rfl, decode_encode_of_operands_nil rfl ⟨by decide, by simp⟩ rfl⟩

end Operator

end SensorHost
