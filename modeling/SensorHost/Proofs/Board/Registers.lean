import SensorHost.Proofs.Board.Commands
import SensorHost.Proofs.Operator.Slots

/-!
# Plain registers

Most registers mean nothing to a simulated board but a value that it keeps. It does not know whether
such a register exists once or many times, so it keeps what was written in two ways: the whole payload
under no id, and what follows its first byte under that byte as an id (`Board.lookup_remembered`).

The two ways are kept in one place, and `noId` is a byte like any other. So a payload that begins with
this byte is kept one way only: a read with that id finds what was written, and a read without an id finds
the payload without its first byte. Every other payload is found both ways (`Board.plain_write_read`).
-/

namespace SensorHost

/-! ## Register bytes -/

namespace Register

variable (register : UInt8)

theorem isRead_read : isRead (read register) = true := by
  unfold isRead read
  rw [Operator.or_and, bne_iff_ne]
  intro none
  exact absurd (UInt8.or_eq_zero_iff.mp none).2 (by decide)

/-- A read of a register has its opcode. -/
theorem opcode_read : opcode (read register) = opcode register := by
  unfold opcode read
  rw [Operator.or_and]
  exact UInt8.or_zero

end Register

namespace BoardCommand

variable {moduleId register : UInt8}

/-- A register that means nothing to the board but a value: a frame to it writes the value, and its
opcode is not the one at which every module reports what it is. -/
def IsPlain (moduleId register : UInt8) : Prop :=
  ofRegister moduleId register = writeRegister ∧ Register.opcode register ≠ Register.moduleInfo

instance : Decidable (IsPlain moduleId register) := inferInstanceAs (Decidable (_ ∧ _))

/-- No read has a meaning of its own where no write has one. -/
theorem IsPlain.read (plain : IsPlain moduleId register) :
    ofRegister moduleId (Register.read register) = readRegister := by
  obtain ⟨write, other⟩ := plain
  have asked : ofRegister moduleId (Register.read register) =
      ofRead moduleId (Register.opcode register) := by
    unfold ofRegister
    simp only [Register.isRead_read, Register.opcode_read, if_true]
  rw [asked, ofRead, if_neg other]
  split
  · -- The two registers of processors that can be read are created by and set by writes.
    rename_i processor
    have create : Register.opcode register ≠ Register.Processor.create := by
      intro same
      rw [ofRegister, processor, same] at write
      revert write
      split <;> decide
    have state : Register.opcode register ≠ Register.Processor.state := by
      intro same
      rw [ofRegister, processor, same] at write
      revert write
      split <;> decide
    rw [if_neg create, if_neg state]
  · rfl

end BoardCommand

namespace Board

/-! ## What is kept -/

theorem lookup_written (registers : List (Address × Frame)) (place place' : Address) (value : Frame) :
    (written registers place value).lookup place' =
      if place' = place then some value else registers.lookup place' := by
  rw [written, List.lookup_cons]
  by_cases same : place' = place
  · rw [if_pos same, same, beq_self_eq_true]
  · rw [if_neg same, beq_eq_false_iff_ne.mpr same]
    induction registers with
    | nil => rfl
    | cons head rest ih =>
        obtain ⟨kept, found⟩ := head
        by_cases old : kept = place
        · have other : (place' == kept) = false := beq_eq_false_iff_ne.mpr (old ▸ same)
          rw [List.filter_cons_of_neg (by simp [old]), List.lookup_cons, other]
          exact ih
        · rw [List.filter_cons_of_pos (by simpa using old), List.lookup_cons, List.lookup_cons]
          cases place' == kept with
          | true => rfl
          | false => exact ih

/-- The plain registers after a payload was written to one of them. -/
def remembered (registers : List (Address × Frame)) (moduleId register : UInt8) (payload : Frame) :
    List (Address × Frame) :=
  let place (id : UInt8) : Address := ⟨moduleId, Register.opcode register, id⟩
  let registers := written registers (place noId) payload
  match payload with
  | id :: value => written registers (place id) value
  | [] => registers

/-- The whole payload is kept under no id, and what follows its first byte under that byte. If the two
places are one, the second value stays. -/
theorem lookup_remembered (registers : List (Address × Frame)) (moduleId register : UInt8)
    (payload : Frame) (id : UInt8) :
    (remembered registers moduleId register payload).lookup
        ⟨moduleId, Register.opcode register, id⟩ =
      if payload.head? = some id then some payload.tail
      else if id = noId then some payload
      else registers.lookup ⟨moduleId, Register.opcode register, id⟩ := by
  unfold remembered
  cases payload with
  | nil => simp [lookup_written]
  | cons first value => simp [lookup_written, eq_comm]

/-! ## What is read -/

variable {b : Board} {moduleId register : UInt8} {payload : Frame}

/-- A frame that the board takes is obeyed. -/
theorem receive_of_takes (takes : b.Takes (moduleId :: register :: payload)) :
    ∃ answers b', { b with sent := b.sent ++ [moduleId :: register :: payload] }.obey moduleId
        register payload = (answers, b') ∧
      b.receive (moduleId :: register :: payload) = (.ok (if b'.silent then [] else answers), b') := by
  rcases b.receive_cons moduleId register payload with ⟨fault, refused⟩ | obeyed
  · exact absurd ((takes_of_receive refused).1.mpr takes) Bool.false_ne_true
  · exact obeyed

section

variable (plain : BoardCommand.IsPlain moduleId register)
include plain

/-- A write to a plain register is not answered. -/
theorem obey_writeRegister (b : Board) (payload : Frame) : b.obey moduleId register payload =
    ([], { b with registers := remembered b.registers moduleId register payload }) := by
  unfold obey
  simp only [plain.1]
  cases payload <;> rfl

/-- A read of a plain register finds what is kept under the id that it brings, and changes nothing. -/
theorem obey_readRegister (b : Board) (request : Frame) :
    b.obey moduleId (Register.read register) request =
      ((b.registers.lookup
          ⟨moduleId, Register.opcode register, request.head?.getD noId⟩).toList.map
        ([moduleId, Register.read register] ++ request.take 1 ++ ·), b) := by
  unfold obey
  simp only [plain.read, Register.opcode_read]
  split
  · rename_i value kept
    rw [kept]
    rfl
  · rename_i none
    rw [none]
    rfl

/-- A read after a write to the same register finds the rest of the payload under its first byte. -/
theorem obey_read_of_head {id : UInt8} {value request : Frame}
    (asked : request.head?.getD noId = id) :
    let kept := (b.obey moduleId register (id :: value)).2
    kept.obey moduleId (Register.read register) request =
      ([[moduleId, Register.read register] ++ request.take 1 ++ value], kept) := by
  intro kept
  rw [obey_readRegister plain, asked]
  show (List.map _ (List.lookup _ (b.obey moduleId register (id :: value)).2.registers).toList, _) = _
  rw [obey_writeRegister plain, lookup_remembered, if_pos List.head?_cons]
  rfl

/-- An unindexed read finds every other payload as a whole. -/
theorem obey_read_of_other (other : payload.head? ≠ some noId) :
    let kept := (b.obey moduleId register payload).2
    kept.obey moduleId (Register.read register) [] =
      ([[moduleId, Register.read register] ++ payload], kept) := by
  intro kept
  rw [obey_readRegister plain]
  show (List.map _ (List.lookup _ (b.obey moduleId register payload).2.registers).toList, _) = _
  rw [obey_writeRegister plain, lookup_remembered, List.head?_nil, Option.getD_none, if_neg other,
    if_pos rfl]
  rfl

/-- A board that takes a write to a plain register remembers it, and nothing comes back. -/
theorem receive_writeRegister (takes : b.Takes (moduleId :: register :: payload)) : ∃ b',
    b.receive (moduleId :: register :: payload) = (.ok [], b') ∧
      b'.registers = remembered b.registers moduleId register payload ∧
      b'.silent = b.silent ∧ b'.rejected = b.rejected := by
  obtain ⟨answers, b', obeyed, received⟩ := receive_of_takes takes
  rw [obey_writeRegister plain] at obeyed
  obtain ⟨rfl, rfl⟩ := Prod.mk.inj obeyed
  exact ⟨_, received.trans (congrArg (Except.ok ·, _) (ite_self [])), rfl, rfl, rfl⟩

/-- A board that takes a read of a plain register answers it as it obeys it, if it is not silent. -/
theorem receive_readRegister (audible : b.silent = false) {request : Frame}
    (takes : b.Takes (moduleId :: Register.read register :: request)) :
    (b.receive (moduleId :: Register.read register :: request)).1 =
      .ok (b.obey moduleId (Register.read register) request).1 := by
  obtain ⟨answers, b', obeyed, received⟩ := receive_of_takes takes
  rw [obey_readRegister plain] at obeyed
  obtain ⟨rfl, rfl⟩ := Prod.mk.inj obeyed
  rw [received, obey_readRegister plain]
  exact congrArg Except.ok (if_neg (by simp [audible]))

/-- A board that takes a write and then a read, and is not silent, answers as it obeys. -/
theorem receive_read_of_write (audible : b.silent = false)
    (takes : b.Takes (moduleId :: register :: payload)) {request : Frame}
    (takes' : b.Takes (moduleId :: Register.read register :: request)) :
    ((b.receive (moduleId :: register :: payload)).2.receive
        (moduleId :: Register.read register :: request)).1 =
      .ok ((b.obey moduleId register payload).2.obey moduleId (Register.read register) request).1 := by
  obtain ⟨b', received, registers, silent, rejected⟩ := receive_writeRegister plain takes
  have takes'' : b'.Takes (moduleId :: Register.read register :: request) := by
    unfold Takes at takes' ⊢
    rwa [rejected]
  rw [received, receive_readRegister plain (silent.trans audible) takes'', obey_readRegister plain,
    obey_readRegister plain, obey_writeRegister plain, registers]

/-- What is written to a plain register is read back, unless an unindexed read follows a payload that
begins with the byte for no id: that one finds the payload without this byte. A board that takes the
frames and is not silent sends these answers. -/
theorem plain_write_read (b : Board) (payload : Frame) :
    let kept := (b.obey moduleId register payload).2
    let read := Register.read register
    (∀ id value, payload = id :: value →
      kept.obey moduleId read [id] = ([[moduleId, read, id] ++ value], kept)) ∧
    (kept.obey moduleId read [] = ([[moduleId, read] ++ payload], kept) ↔
      payload.head? ≠ some noId) ∧
    (∀ value, payload = noId :: value →
      kept.obey moduleId read [] = ([[moduleId, read] ++ value], kept)) ∧
    (b.silent = false → b.Takes (moduleId :: register :: payload) → ∀ request,
      b.Takes (moduleId :: read :: request) →
      ((b.receive (moduleId :: register :: payload)).2.receive (moduleId :: read :: request)).1 =
        .ok (kept.obey moduleId read request).1) := by
  intro kept read
  refine ⟨?indexed, ⟨?lost, obey_read_of_other plain⟩, ?cut,
    fun audible takes _ => receive_read_of_write plain audible takes⟩
  case indexed =>
    rintro id value rfl
    exact obey_read_of_head plain rfl
  case lost =>
    intro whole first
    obtain ⟨value, rfl⟩ := List.head?_eq_some_iff.mp first
    have cut := whole.symm.trans (obey_read_of_head plain rfl)
    simp at cut
  case cut =>
    rintro value rfl
    exact obey_read_of_head plain rfl

end

/-- The color of a light, written in four bytes. -/
theorem plain_write_read_color :
    let kept := ((new 18).obey ModuleId.led 3 [1, 0x10, 0x20, 0x30]).2
    BoardCommand.IsPlain ModuleId.led 3 ∧
      kept.obey ModuleId.led 0x83 [] = ([[2, 0x83, 1, 0x10, 0x20, 0x30]], kept) ∧
      kept.obey ModuleId.led 0x83 [1] = ([[2, 0x83, 1, 0x10, 0x20, 0x30]], kept) := by
  have plain : BoardCommand.IsPlain ModuleId.led 3 := by decide
  obtain ⟨indexed, whole, -⟩ := plain_write_read plain (new 18) [1, 0x10, 0x20, 0x30]
  exact ⟨plain, whole.mpr (by decide), indexed 1 [0x10, 0x20, 0x30] rfl⟩

/-- A payload that begins with the byte for no id is not found as it was written. -/
theorem first_byte_lost :
    ¬ ∀ (b : Board) (moduleId register : UInt8) (payload : Frame),
      BoardCommand.IsPlain moduleId register →
      ((b.obey moduleId register payload).2.obey moduleId (Register.read register) []).1 =
        [[moduleId, Register.read register] ++ payload] := by
  intro found
  exact absurd (found (new 18) ModuleId.led 3 [noId, 5] (by decide)) (by decide)

end Board

end SensorHost
