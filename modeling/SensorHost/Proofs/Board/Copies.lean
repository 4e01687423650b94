import SensorHost.Proofs.Board.Events
import SensorHost.Proofs.Operator.Slots
import SensorHost.Proofs.Signal.Ranges

/-!
# Copies that the firmware is asked for

An event can copy bytes of its trigger's payload into its command. The entry of the event ends with two
bytes for that, and they have three bits for the number of bytes and four for the place of the first one
(`Event.copyOrder?`). A range may be longer and may start later, up to what fits in a frame. Nothing
refuses such a range when the entry is made: both numbers lose the bits that the two bytes have no room
for, and the firmware is asked for other bytes (`Signal.copy_arrives_iff`).
-/

namespace SensorHost

/-- What the firmware is asked to copy: how many bytes of the payload, from which one on, and to which
place of the parameters. -/
structure CopyOrder where
  length : Nat
  offset : Nat
  destination : UInt8
deriving DecidableEq

/-- The order in the last bytes of an entry, behind the trigger, the head of the command and the number
of its parameters. Bits 1 to 3 of the first byte are the length, bits 4 to 7 the offset. -/
def Event.copyOrder? (entry : Frame) : Option CopyOrder :=
  match entry.drop 8 with
  | mark :: destination :: _ => some ⟨mark.toNat / 2 % 8, mark.toNat / 16, destination⟩
  | _ => none

namespace PayloadCopy

/-- The length and the offset do not overlap, and lose what does not fit. -/
theorem toNat_mark (length offset : UInt8) :
    ((0x01 : UInt8) ||| (length &&& 0x7) <<< 1 ||| (offset &&& 0xf) <<< 4).toNat =
      offset.toNat % 16 * 16 + (length.toNat % 8 * 2 + 1) := by
  have marked : ((0x01 : UInt8) ||| Operator.slot length 0x7 1).toNat = length.toNat % 8 * 2 + 1 :=
    Operator.toNat_or_slot (by decide) 3 (by decide) (by decide) (by decide)
  have beside : ((0x01 : UInt8) ||| Operator.slot length 0x7 1).toNat < 16 := by
    rw [marked]
    omega
  calc ((0x01 : UInt8) ||| (length &&& 0x7) <<< 1 ||| (offset &&& 0xf) <<< 4).toNat
      = offset.toNat % 16 * 16 + ((0x01 : UInt8) ||| Operator.slot length 0x7 1).toNat :=
        Operator.toNat_or_slot beside 4 rfl (by decide) (by decide)
    _ = offset.toNat % 16 * 16 + (length.toNat % 8 * 2 + 1) := by rw [marked]

/-- The entry of a command of two bytes or more asks for what is left of the length and the offset of
the range. -/
theorem copyOrder?_entryFrame (trigger : Address) {command : Frame} (long : 2 ≤ command.length)
    (copy : PayloadCopy) :
    Event.copyOrder? (Event.entryFrame trigger (some copy) command) =
      some ⟨copy.source.length.toNat % 8, copy.source.offset.toNat % 16, copy.destination⟩ := by
  match command, long with
  | moduleId :: register :: parameters, _ =>
    have mark := toNat_mark copy.source.length copy.source.offset
    have last : (Event.entryFrame trigger (some copy) (moduleId :: register :: parameters)).drop 8 =
        copy.encode := rfl
    unfold Event.copyOrder?
    rw [last]
    simp only [encode, mark, Option.some.injEq, CopyOrder.mk.injEq, and_true]
    omega

end PayloadCopy

namespace Signal

variable {s : Signal} {r : ByteRange} {start count : Nat}

/-- A range that the signal gives, the place in the payload at which it starts, and the number of its
bytes. -/
inductive RangeOf (s : Signal) : ByteRange → Nat → Nat → Prop
  | part {offset length : Int} {r : ByteRange} : s.range offset length = .ok r →
    RangeOf s r offset.toNat length.toNat
  | whole : RangeOf s s.wholeRange s.geometry.offset.toNat s.geometry.unitLength

/-- A range of a valid signal keeps its start and its length. -/
theorem RangeOf.exact (range : s.RangeOf r start count) (valid : s.geometry.Valid) :
    r.offset.toNat = start ∧ r.length.toNat = count := by
  cases range with
  | part accepted => exact (range_eq_ok valid accepted).2.2
  | whole =>
      have inside : s.geometry.offset.toNat + s.geometry.unitLength ≤ 255 := valid.2.2
      have short : s.geometry.unitLength < 256 := by omega
      exact ⟨rfl, UInt8.toNat_ofNat_of_lt' short⟩

/-- An event on a command of two bytes or more is made with every range, and its entry asks the firmware
for the remainders of the length and the offset of the range by eight and by sixteen. So the firmware is
asked for the range itself just if it has fewer than eight bytes and starts before the sixteenth one. -/
theorem copy_arrives_iff (valid : s.geometry.Valid) (range : s.RangeOf r start count)
    (trigger : Address) {command : Frame} (long : 2 ≤ command.length) (destination : UInt8) :
    ∃ entry parameters,
      Event.frames trigger command (some ⟨r, destination⟩) = .ok [entry, parameters] ∧
      Event.copyOrder? entry = some ⟨count % 8, start % 16, destination⟩ ∧
      (Event.copyOrder? entry = some ⟨count, start, destination⟩ ↔ count < 8 ∧ start < 16) := by
  obtain ⟨offset, length⟩ := range.exact valid
  have order := PayloadCopy.copyOrder?_entryFrame trigger long ⟨r, destination⟩
  simp only [offset, length] at order
  refine ⟨_, _, Event.frames_of_long long, order, ?_⟩
  simp only [order, Option.some.injEq, CopyOrder.mk.injEq, and_true]
  omega

/-- Two bytes of an analog reading, from its second byte on, are copied behind the pin. -/
theorem copy_arrives_iff_middle :
    ∃ s r entry parameters, uint ⟨5, 7, 1⟩ 4 = .ok s ∧ s.range 1 2 = .ok r ∧
      Event.frames s.address [2, 3, 0, 0] (some ⟨r, 1⟩) = .ok [entry, parameters] ∧
      Event.copyOrder? entry = some ⟨2, 1, 1⟩ := by
  let reading : Signal := root .uint ⟨5, 7, 1⟩ ⟨[4], 1, 0, false⟩
  have middle : reading.RangeOf ⟨reading.address, 1, 2⟩ 1 2 := @RangeOf.part reading 1 2 _ rfl
  obtain ⟨entry, parameters, made, -, whole⟩ := copy_arrives_iff (by decide) middle
    reading.address (show 2 ≤ ([2, 3, 0, 0] : Frame).length by decide) 1
  exact ⟨_, _, entry, parameters, rfl, rfl, made, whole.mpr (by decide)⟩

/-- All eight bytes of a reading are asked for, and the firmware reads that it is to copy none. -/
theorem eight_bytes_asked_as_none :
    ¬ ∀ (s : Signal) (r : ByteRange) (start count : Nat) (trigger : Address) (command entry parameters :
        Frame) (destination : UInt8), s.geometry.Valid → s.RangeOf r start count →
      2 ≤ command.length →
      Event.frames trigger command (some ⟨r, destination⟩) = .ok [entry, parameters] →
      Event.copyOrder? entry = some ⟨count, start, destination⟩ := by
  intro arrives
  have whole := arrives (root .uint ⟨1, 1, 255⟩ ⟨[8], 1, 0, false⟩) _ _ _ ⟨1, 1, 255⟩ [2, 3, 0] _ _ 0
    (by decide) .whole (by decide) rfl
  exact absurd whole (by decide)

end Signal

end SensorHost
