import SensorHost.Proofs.Signal.Components
import SensorHost.Proofs.Signal.Extent

/-!
# Payloads that are too short or too long

A payload need not be as long as the unit that a signal reads. What is too much does not count, and
what is missing is made up for: zeros above an unsigned number, copies of the sign above a two's
complement one. A reading depends on its payload through the numbers in the fields that are read
(`Signal.readingOf_of_numbers`), so each rule of padding is one about a number in a field, and holds
of every kind of signal that has numbers (`Signal.reads_padded`).
-/

namespace SensorHost

/-- The first field of a valid geometry that has fields has bytes. -/
theorem Geometry.firstWidth_pos {g : Geometry} (valid : g.Valid) (nonempty : g.widths ≠ []) :
    0 < g.firstWidth.toNat := by
  obtain ⟨widths, _, _, _⟩ := g
  obtain ⟨width, rest, rfl⟩ := List.exists_cons_of_ne_nil nonempty
  apply Nat.pos_of_ne_zero
  intro zero
  obtain rfl : width = 0 := UInt8.toNat_inj.mp zero
  exact valid.1 (List.mem_cons_self ..)

/-! ## The number in a field -/

/-- The number in a field at the start of `data`, of which no more than eight bytes are read. -/
def fieldNumber (signed : Bool) (width : Nat) (data : Frame) : Int :=
  let field := data.take (min width 8)
  if signed then LittleEndian.signed field else LittleEndian.unsigned field

theorem widen_of_number {signed : Bool} {width : Nat} {a b : Frame}
    (same : fieldNumber signed width a = fieldNumber signed width b) :
    widen a width signed = widen b width signed := by
  cases signed <;>
    simp only [widen, fieldNumber, if_true, Bool.false_eq_true, if_false] at same ⊢ <;> rw [same]

theorem unsigned_of_number {width : Nat} {a b : Frame}
    (same : fieldNumber false width a = fieldNumber false width b) :
    LittleEndian.unsigned (a.take (min width 8)) = LittleEndian.unsigned (b.take (min width 8)) :=
  Int.ofNat_inj.mp same

/-- A flag is the lowest byte of the number in its field. -/
theorem flag_of_number {width : Nat} (positive : 0 < width) {a b : Frame}
    (same : fieldNumber false width a = fieldNumber false width b) :
    a.head?.any (· != 0) = b.head?.any (· != 0) := by
  have lowest (data : Frame) : data.head?.any (· != 0) =
      (LittleEndian.unsigned (data.take (min width 8)) % 256 != 0) := by
    obtain ⟨limit, eq⟩ : ∃ limit, min width 8 = limit + 1 := ⟨min width 8 - 1, by omega⟩
    cases data with
    | nil => rw [List.take_nil]; rfl
    | cons b rest =>
        have small := b.toNat_lt
        rw [eq, List.take_succ_cons, LittleEndian.unsigned, Nat.add_mul_mod_self_left,
          Nat.mod_eq_of_lt small, List.head?_cons, Option.any_some]
        exact Bool.eq_iff_iff.mpr (by simp [← UInt8.toNat_inj])
  rw [lowest, lowest, unsigned_of_number same]

theorem fieldNumber_append_zeros (width : Nat) (data : Frame) (count : Nat) :
    fieldNumber false width (data ++ List.replicate count 0) = fieldNumber false width data := by
  simp only [fieldNumber, Bool.false_eq_true, if_false, List.take_append, List.take_replicate,
    LittleEndian.unsigned_append_zeros]

/-- A field that lacks bytes is completed with the sign of its last one. Beyond a field that lacks none
nothing counts. -/
theorem fieldNumber_append_signBytes (width : Nat) (data : Frame) (count : Nat) :
    fieldNumber true width (data ++ List.replicate count (LittleEndian.signByte data)) =
      fieldNumber true width data := by
  simp only [fieldNumber, if_true, List.take_append, List.take_replicate]
  rcases Nat.le_total data.length (min width 8) with short | long
  · rw [List.take_of_length_le short, LittleEndian.signed_append_signBytes]
  · rw [Nat.sub_eq_zero_of_le long, Nat.zero_min, List.replicate_zero, List.append_nil]

theorem fieldNumber_zeros (signed : Bool) (width count : Nat) :
    fieldNumber signed width (List.replicate count 0) = 0 := by
  have none : fieldNumber signed width [] = 0 := by
    rw [fieldNumber, List.take_nil]
    cases signed <;> rfl
  cases signed with
  | false => exact (fieldNumber_append_zeros width [] count).trans none
  | true => exact (fieldNumber_append_signBytes width [] count).trans none

namespace Signal

/-! ## Readings as numbers -/

/-- Whether the numbers of the signal are in two's complement. -/
def readsSigned (s : Signal) : Bool :=
  match s.kind with
  | .uint | .int | .vector => s.geometry.signed
  | .sfloat => true
  | .bool | .ufloat | .bytes | .array => false

/-- The reading of a scalar is decided by the number in its first field. -/
theorem readingOf_of_number {s : Signal} (bytes : s.kind ≠ .bytes) (plain : s.kind ≠ .array)
    (scalar : s.kind ≠ .vector) (positive : 0 < s.geometry.firstWidth.toNat) {a b : Frame}
    (same : fieldNumber s.readsSigned s.geometry.firstWidth.toNat a =
      fieldNumber s.readsSigned s.geometry.firstWidth.toNat b) :
    s.readingOf a = s.readingOf b := by
  obtain ⟨kind, address, geometry, ownScale, feed, axes, members⟩ := s
  cases kind with
  | uint =>
      simp only [readingOf]
      cases signed : geometry.signed with
      | true =>
          simp only [readsSigned, signed] at same
          rw [if_pos rfl, if_pos rfl, widen_of_number same]
      | false =>
          simp only [readsSigned, signed] at same
          rw [if_neg Bool.false_ne_true, if_neg Bool.false_ne_true, unsigned_of_number same]
  | int =>
      simp only [readsSigned] at same
      simp only [readingOf, widen_of_number same]
  | bool =>
      simp only [readsSigned] at same
      simp only [readingOf, flag_of_number positive same]
  | ufloat =>
      simp only [readsSigned] at same
      simp only [readingOf, unsigned_of_number same]
  | sfloat =>
      simp only [readsSigned] at same
      simp only [readingOf, widen_of_number same]
  | vector => exact absurd rfl scalar
  | bytes => exact absurd rfl bytes
  | array => exact absurd rfl plain

/-- Any reading of numbers is decided by the numbers that can be in the fields. -/
theorem readingOf_of_numbers {s : Signal} (bytes : s.kind ≠ .bytes) (plain : s.kind ≠ .array)
    (positive : 0 < s.geometry.firstWidth.toNat) {a b : Frame}
    (same : ∀ start width, fieldNumber s.readsSigned width (a.drop start) =
      fieldNumber s.readsSigned width (b.drop start)) :
    s.readingOf a = s.readingOf b := by
  by_cases vector : s.kind = .vector
  · have sign : s.readsSigned = s.geometry.signed := by rw [readsSigned, vector]
    rw [sign] at same
    rw [readingOf_vector vector, readingOf_vector vector]
    refine congrArg Reading.vector (List.ext_getElem? fun i => ?_)
    simp only [getElem?_componentsOf, widen_of_number (same _ _)]
  · exact readingOf_of_number bytes plain vector positive (same 0 _)

/-! ## Payloads of any length -/

/-- Bytes after a payload are bytes after the part of it that the signal looks at. -/
theorem positioned_append_replicate (s : Signal) (payload : Frame) (replayed : Bool) (byte : UInt8)
    (count : Nat) : ∃ more, s.positioned (payload ++ List.replicate count byte) replayed =
      s.positioned payload replayed ++ List.replicate more byte := by
  cases replayed with
  | true => exact ⟨count, rfl⟩
  | false =>
      refine ⟨count - (s.geometry.offset.toNat - payload.length), ?_⟩
      show (payload ++ List.replicate count byte).drop s.geometry.offset.toNat = _
      rw [List.drop_append, List.drop_replicate]
      rfl

/-- How a signal reads payloads that are not as long as its unit. -/
structure ReadsPadded (s : Signal) (replayed : Bool) : Prop where
  /-- Nothing beyond the first unit counts. -/
  beyond : ∀ payload other,
    (s.positioned payload replayed).take s.geometry.unitLength =
      (s.positioned other replayed).take s.geometry.unitLength →
    s.reading payload replayed = s.reading other replayed
  /-- Zeros complete unsigned numbers. -/
  zeros : s.readsSigned = false → ∀ payload count,
    s.reading (payload ++ List.replicate count 0) replayed = s.reading payload replayed
  /-- The sign of the last byte that is there completes a signed number. -/
  sign : s.readsSigned = true → s.kind ≠ .vector → ∀ payload count,
    s.reading
        (payload ++ List.replicate count (LittleEndian.signByte (s.positioned payload replayed)))
        replayed =
      s.reading payload replayed

/-- Everything but bytes and arrays is read by the rules of padding, from live payloads and from logs.
A live payload that ends before the signal starts is read as zeros. -/
theorem reads_padded {s : Signal} (bytes : s.kind ≠ .bytes) (plain : s.kind ≠ .array)
    (valid : s.geometry.Valid) (nonempty : s.geometry.widths ≠ []) :
    (∀ replayed, s.ReadsPadded replayed) ∧
      ∀ payload : Frame, payload.length ≤ s.geometry.offset.toNat → ∀ count,
        s.reading payload false = s.reading (List.replicate count 0) false := by
  have positive := Geometry.firstWidth_pos valid nonempty
  refine ⟨fun replayed => ⟨?beyond, ?zeros, ?sign⟩, ?absent⟩
  case beyond =>
    intro payload other same
    have unit : s.geometry.unitLength ≠ 0 :=
      Nat.ne_of_gt (Nat.lt_of_lt_of_le positive s.geometry.firstWidth_le_unitLength)
    rw [reading, reading, ← readingOf_take plain unit _ (Nat.le_refl _), same,
      readingOf_take plain unit _ (Nat.le_refl _)]
  case zeros =>
    intro unsigned payload count
    obtain ⟨more, padded⟩ := s.positioned_append_replicate payload replayed 0 count
    rw [reading, reading, padded]
    apply readingOf_of_numbers bytes plain positive
    intro start width
    rw [unsigned, List.drop_append, List.drop_replicate, fieldNumber_append_zeros]
  case sign =>
    intro signed scalar payload count
    obtain ⟨more, padded⟩ := s.positioned_append_replicate payload replayed
      (LittleEndian.signByte (s.positioned payload replayed)) count
    rw [reading, reading, padded]
    apply readingOf_of_number bytes plain scalar positive
    rw [signed, fieldNumber_append_signBytes]
  case absent =>
    intro payload short count
    have none : s.positioned payload false = List.replicate 0 0 := List.drop_of_length_le short
    have zeros : s.positioned (List.replicate count 0) false =
        List.replicate (count - s.geometry.offset.toNat) 0 := List.drop_replicate ..
    rw [reading, reading, none, zeros]
    apply readingOf_of_numbers bytes plain positive
    intro start width
    rw [List.drop_replicate, List.drop_replicate, fieldNumber_zeros, fieldNumber_zeros]

/-- A signed component of three bytes, from the third byte of its frame on. -/
def shortAxis : Signal :=
  axisView { widths := [2, 3], units := 1, offset := 0, signed := true } ⟨3, 4, 255⟩ 16 2 3

/-- It is completed downwards from a single negative byte, and is zero if nothing of it is there. -/
theorem reads_padded_short :
    shortAxis.kind ≠ .bytes ∧ shortAxis.kind ≠ .array ∧ shortAxis.geometry.Valid ∧
      shortAxis.geometry.widths ≠ [] ∧
      shortAxis.reading [7, 7, 128, 255, 255] false = shortAxis.reading [7, 7, 128] false ∧
      shortAxis.reading [7, 7] false = shortAxis.reading [0, 0, 0, 0, 0] false ∧
      shortAxis.reading [128, 255, 255, 9] true = shortAxis.reading [128, 255, 255] true := by
  obtain ⟨padded, absent⟩ := reads_padded (s := shortAxis) nofun nofun (by decide) nofun
  exact ⟨nofun, nofun, by decide, nofun, (padded false).sign rfl nofun [7, 7, 128] 2,
    absent [7, 7] (by decide) 5, (padded true).beyond _ _ rfl⟩

end Signal

end SensorHost
