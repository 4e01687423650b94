import SensorHost.Signal.Decoding
import SensorHost.Signal.Range

/-!
# The bytes that a range names

A range names bytes of the payload at its address (`ByteRange.bytesIn`). The whole range of a signal
starts where the signal does, so it names the first unit that the signal reads
(`Signal.bytesIn_wholeRange`). The bytes of any other range are counted from the start of the payload
(`Signal.bytesIn_of_range`), although they are asked for by their place in the signal's frame. For a
view that starts later in the payload these are other bytes (`Signal.ranges_read_iff`).
-/

namespace SensorHost

/-- The bytes of a payload that a range names. -/
def ByteRange.bytesIn (r : ByteRange) (payload : Frame) : Frame :=
  (payload.drop r.offset.toNat).take r.length.toNat

/-- Windows that start at different places differ on some payload, as long as may be. -/
theorem exists_windows_ne {first second count : Nat} (apart : first < second) (nonempty : 0 < count)
    (least : Nat) :
    ∃ payload : Frame, least ≤ payload.length ∧
      (payload.drop first).take count ≠ (payload.drop second).take count := by
  -- The payload is zero but for the byte at which the first window starts.
  let payload : Frame := List.replicate first 0 ++ 1 :: List.replicate (max second least) 0
  have length : payload.length = first + (max second least + 1) := by simp [payload]
  have head (start : Nat) : ((payload.drop start).take count)[0]? = payload[start]? := by
    rw [List.getElem?_take_of_lt nonempty, List.getElem?_drop, Nat.add_zero]
  have one : payload[first]? = some 1 := by simp [payload]
  have zero : payload[second]? = some 0 := by
    have inside : second - first - 1 < max second least := by omega
    have place : second - first = second - first - 1 + 1 := by omega
    rw [List.getElem?_append_right (by simpa using Nat.le_of_lt apart), List.length_replicate, place,
      List.getElem?_cons_succ, List.getElem?_replicate, if_pos inside]
  refine ⟨payload, by omega, fun same => ?_⟩
  have heads := congrArg (·[0]?) same
  simp only [head, one, zero] at heads
  contradiction

namespace Signal

variable {s : Signal} {offset length : Int} {r : ByteRange}

/-- The payload holds the whole frame of the signal. -/
def HeldBy (s : Signal) (payload : Frame) : Prop :=
  s.geometry.offset.toNat + s.geometry.frameLength ≤ payload.length

/-- A range inside a valid frame is given as it was asked for; no part of it is cut. -/
theorem range_eq_ok (valid : s.geometry.Valid) (accepted : s.range offset length = .ok r) :
    (0 ≤ offset ∧ 0 ≤ length ∧ offset + length ≤ s.geometry.frameLength) ∧
      r.address = s.address ∧ r.offset.toNat = offset.toNat ∧ r.length.toNat = length.toNat := by
  have short : s.geometry.frameLength ≤ 255 := valid.2.1
  unfold range at accepted
  split at accepted
  · contradiction
  · rename_i inside
    obtain rfl := Except.ok.inj accepted
    refine ⟨by omega, rfl, UInt8.toNat_ofNat_of_lt' ?_, UInt8.toNat_ofNat_of_lt' ?_⟩
    · show offset.toNat < 256
      omega
    · show length.toNat < 256
      omega

/-- A range is counted from the start of the payload. -/
theorem bytesIn_of_range (valid : s.geometry.Valid) (accepted : s.range offset length = .ok r)
    (payload : Frame) : r.bytesIn payload = (payload.drop offset.toNat).take length.toNat := by
  obtain ⟨-, -, start, count⟩ := range_eq_ok valid accepted
  rw [ByteRange.bytesIn, start, count]

/-- The bytes at a place of the frame that the signal reads. -/
theorem drop_positioned (s : Signal) (payload : Frame) (start : Nat) :
    (s.positioned payload false).drop start = payload.drop (s.geometry.offset.toNat + start) :=
  List.drop_drop

/-- The whole range names the first unit that the signal reads. -/
theorem bytesIn_wholeRange (valid : s.geometry.Valid) (payload : Frame) :
    s.wholeRange.bytesIn payload = (s.positioned payload false).take s.geometry.unitLength := by
  have inside : s.geometry.offset.toNat + s.geometry.unitLength ≤ 255 := valid.2.2
  have short : s.geometry.unitLength < 256 := by omega
  show (payload.drop s.geometry.offset.toNat).take (UInt8.ofNat s.geometry.unitLength).toNat = _
  rw [UInt8.toNat_ofNat_of_lt' short]
  rfl

/-- A range names the bytes that the signal reads at its place, in every payload, just if the signal
starts with the payload or the range is empty. -/
theorem reads_range_iff (valid : s.geometry.Valid) (accepted : s.range offset length = .ok r) :
    (∀ payload, s.HeldBy payload →
      r.bytesIn payload = ((s.positioned payload false).drop offset.toNat).take length.toNat) ↔
      s.geometry.offset = 0 ∨ length = 0 := by
  obtain ⟨⟨-, low, -⟩, -⟩ := range_eq_ok valid accepted
  constructor
  · intro reads
    refine Decidable.byContradiction fun other => ?_
    obtain ⟨later, some⟩ := not_or.mp other
    have positive : 0 < s.geometry.offset.toNat :=
      Nat.pos_of_ne_zero fun zero => later (UInt8.toNat_inj.mp zero)
    obtain ⟨payload, held, differ⟩ := exists_windows_ne
      (show offset.toNat < s.geometry.offset.toNat + offset.toNat by omega)
      (show 0 < length.toNat by omega) (s.geometry.offset.toNat + s.geometry.frameLength)
    apply differ
    rw [← bytesIn_of_range valid accepted, ← drop_positioned]
    exact reads payload held
  · rintro (start | rfl) payload -
    · rw [bytesIn_of_range valid accepted, drop_positioned, start, UInt8.toNat_zero, Nat.zero_add]
    · rw [bytesIn_of_range valid accepted, Int.toNat_zero, List.take_zero, List.take_zero]

/-- The range of the whole frame of a single unit. -/
theorem range_frame_eq_wholeRange_iff (single : s.geometry.units = 1) :
    s.range 0 s.geometry.frameLength = .ok s.wholeRange ↔ s.geometry.offset = 0 := by
  have unit : s.geometry.frameLength = s.geometry.unitLength := by
    rw [Geometry.frameLength, single]
    exact Nat.mul_one _
  have range : s.range 0 s.geometry.frameLength =
      .ok ⟨s.address, 0, UInt8.ofNat s.geometry.unitLength⟩ := by
    unfold Signal.range
    rw [if_neg (by omega), unit]
    rfl
  rw [range, wholeRange, Except.ok.injEq, ByteRange.mk.injEq]
  simp [eq_comm]

/-- A range names the same place of every payload, wherever the signal starts. So it names the bytes
that the signal reads there just if the signal starts with the payload, and the range of a single
unit is the whole range just if it does. The whole range always names the unit that is read. -/
theorem ranges_read_iff (valid : s.geometry.Valid) :
    (∀ offset length r, s.range offset length = .ok r →
      (∀ payload, r.bytesIn payload = (payload.drop offset.toNat).take length.toNat) ∧
      ((∀ payload, s.HeldBy payload →
        r.bytesIn payload = ((s.positioned payload false).drop offset.toNat).take length.toNat) ↔
        s.geometry.offset = 0 ∨ length = 0)) ∧
      (s.geometry.units = 1 →
        (s.range 0 s.geometry.frameLength = .ok s.wholeRange ↔ s.geometry.offset = 0)) ∧
      ∀ payload,
        s.wholeRange.bytesIn payload = (s.positioned payload false).take s.geometry.unitLength := by
  refine ⟨fun offset length r accepted => ?_, range_frame_eq_wholeRange_iff,
    bytesIn_wholeRange valid⟩
  exact ⟨bytesIn_of_range valid accepted, reads_range_iff valid accepted⟩

/-- The second of three components of two bytes: its whole range names what it reads, and the range
of its frame is another one. -/
theorem ranges_read_iff_second :
    ∃ v y, vector ⟨3, 4, 255⟩ 3 2 1.0 = .ok v ∧ v.axes[1]? = some y ∧ y.geometry.Valid ∧
      y.range 0 2 ≠ .ok y.wholeRange ∧
      ∀ payload, y.wholeRange.bytesIn payload = (y.positioned payload false).take 2 := by
  refine ⟨_, _, rfl, rfl, by decide, ?apart, ?whole⟩
  case apart => exact mt ((ranges_read_iff (by decide)).2.1 rfl).mp (by decide)
  case whole => exact (ranges_read_iff (by decide)).2.2

/-- The range of the second component's frame names the bytes of the first one. -/
theorem second_component_misread :
    ∃ v y r, vector ⟨3, 4, 255⟩ 3 2 1.0 = .ok v ∧ v.axes[1]? = some y ∧ y.geometry.Valid ∧
      y.range 0 2 = .ok r ∧ r ≠ y.wholeRange ∧
      r.bytesIn [0x10, 0x11, 0x20, 0x21, 0x30, 0x31] = [0x10, 0x11] ∧
      (y.positioned [0x10, 0x11, 0x20, 0x21, 0x30, 0x31] false).take 2 = [0x20, 0x21] :=
  ⟨_, _, _, rfl, rfl, by decide, rfl, by decide, rfl, rfl⟩

end Signal

end SensorHost
