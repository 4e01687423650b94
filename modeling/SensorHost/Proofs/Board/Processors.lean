import SensorHost.Board.Simulated
import SensorHost.Processor.Chain
import SensorHost.Proofs.Session.Solo

/-!
# The processors that a board stores

What the frames about processors do to a simulated board, one lemma for each kind of frame. The
board stores of a processor what its creation said (`Processor.record`): the address that feeds it,
the byte that selects its input frame, and its operator bytes. Every frame may be refused, and then
the board is as before.

A test may inject faults at any time (`Board.Injects`), but the board hands over nothing by itself:
an answer comes back while the question is sent, or not at all (`Board.answered_at_once`). Without
faults every question is answered (`Board.Healthy`).
-/

namespace SensorHost

/-! ## What a creation says -/

namespace Processor

/-- The address that feeds a processor, the byte that selects its input frame, and its operator
bytes. -/
def configuration (operator : Operator) (input output : Signal) : Frame :=
  input.address.toBytes ++ [input.geometry.selector] ++ operator.encode input output

/-- What the board stores of a processor. -/
def record (p : Processor) : Frame := configuration p.operator p.input p.output

/-- An id changes nothing about the operator bytes. -/
theorem encode_withId (operator : Operator) (input output : Signal) (id : UInt8) :
    operator.encode input (output.withId id) = operator.encode input output := by
  cases operator <;> rfl

theorem record_created (id : UInt8) (name : Option String) (operator : Operator) (input : Signal)
    (product : Product) :
    (created id name operator input product).record =
      configuration operator input product.output :=
  congrArg (_ ++ ·) (encode_withId operator input product.output id)

end Processor

/-! ## Ids in the order in which they are given out -/

/-- The ids that come next, from `first` on. -/
def idsFrom (first : UInt8) : Nat → List UInt8
  | 0 => []
  | n + 1 => first :: idsFrom (first + 1) n

theorem toNat_idsFrom {first : UInt8} {n : Nat} (room : first.toNat + n ≤ 256) :
    (idsFrom first n).map UInt8.toNat = List.range' first.toNat n := by
  induction n generalizing first with
  | zero => rfl
  | succ n ih =>
      rw [idsFrom, List.map_cons, List.range'_succ]
      refine congrArg (first.toNat :: ·) ?_
      by_cases last : n = 0
      · rw [last]
        rfl
      · have next : (first + 1).toNat = first.toNat + 1 := by
          rw [UInt8.toNat_add]
          exact Nat.mod_eq_of_lt (show first.toNat + 1 < 256 by omega)
        rw [ih (by omega), next]

/-- Ids that have not wrapped are all different. -/
theorem nodup_idsFrom {first : UInt8} {n : Nat} (room : first.toNat + n ≤ 256) :
    (idsFrom first n).Nodup := by
  have numbers : ((idsFrom first n).map UInt8.toNat).Nodup := by
    rw [toNat_idsFrom room]
    exact List.nodup_range'
  exact List.Pairwise.of_map UInt8.toNat (fun _ _ => mt (congrArg UInt8.toNat)) numbers

namespace Board

/-- What a test does to a board by itself; no frame comes back. -/
inductive Injects : Board → Option Frame → Board → Prop
  | loseCreation (b : Board) (n : Nat) : Injects b none (b.loseCreation n)
  | loseEvent (b : Board) (n : Nat) : Injects b none (b.loseEvent n)
  | setSilent (b : Board) (silent : Bool) : Injects b none (b.setSilent silent)
  | reject (b : Board) (key : ReplyKey) : Injects b none (b.reject key)

/-- The boards store the same processors, and give out the same ids from now on. -/
def SameProcessors (b b' : Board) : Prop :=
  b'.processors = b.processors ∧ b'.nextProcessor = b.nextProcessor ∧ b'.creations = b.creations

theorem SameProcessors.refl (b : Board) : b.SameProcessors b := ⟨rfl, rfl, rfl⟩

theorem SameProcessors.trans {b b₁ b' : Board} (first : b.SameProcessors b₁)
    (second : b₁.SameProcessors b') : b.SameProcessors b' :=
  ⟨second.1.trans first.1, second.2.1.trans first.2.1, second.2.2.trans first.2.2⟩

theorem sameProcessors_of_injects {b b' : Board} {frame? : Option Frame}
    (injects : b.Injects frame? b') : b.SameProcessors b' := by
  cases injects <;> exact .refl b

/-! ## Frames -/

section

variable (b : Board)

theorem obey_create (stored : Frame) :
    b.obey ModuleId.processor Register.Processor.create stored = b.createProcessor stored := rfl

theorem obey_read (id : UInt8) :
    b.obey ModuleId.processor (Register.read Register.Processor.create) [id] =
      match b.processors.get? id with
      | some stored =>
        ([ModuleId.processor :: Register.read Register.Processor.create :: stored], b)
      | none => ([], b) := rfl

theorem obey_parameter (id : UInt8) (operator : Frame) :
    b.obey ModuleId.processor Register.Processor.parameter (id :: operator) =
      match b.processors.get? id with
      | some stored =>
        ([], { b with processors := b.processors.insert id (stored.take 4 ++ operator) })
      | none => ([], b) := rfl

theorem obey_remove (id : UInt8) :
    b.obey ModuleId.processor Register.Processor.remove [id] =
      ([], { b with processors := b.processors.erase id, states := b.states.erase id }) := rfl

theorem obey_removeAll :
    b.obey ModuleId.processor Register.Processor.removeAll [] =
      ([], { b with processors := .empty, states := .empty }) := rfl

/-- A frame is refused, and the board is as before, or it is obeyed. -/
theorem receive_cons (moduleId register : UInt8) (payload : Frame) :
    (∃ fault, b.receive (moduleId :: register :: payload) = (.error fault, b)) ∨
      ∃ replies b', { b with sent := b.sent ++ [moduleId :: register :: payload] }.obey moduleId
          register payload = (replies, b') ∧
        b.receive (moduleId :: register :: payload) =
          (.ok (if b'.silent then [] else replies), b') := by
  unfold receive
  simp only
  split
  · exact .inl ⟨_, rfl⟩
  · exact .inr ⟨_, _, rfl, rfl⟩

/-- A creation stores its configuration under the next id, unless the frame is refused or the answer
is to be lost. The id is all that may come back. -/
theorem receive_create (stored : Frame) {result : Except Fault (List Frame)} {b' : Board}
    (h : b.receive (ModuleId.processor :: Register.Processor.create :: stored) = (result, b')) :
    (b'.processors = b.processors ∧ b'.nextProcessor = b.nextProcessor ∧
        b.creations ≤ b'.creations ∧ ∀ frames, result = .ok frames → frames = []) ∨
      (b'.processors = b.processors.insert b.nextProcessor stored ∧
        b'.nextProcessor = b.nextProcessor + 1 ∧ b'.creations = b.creations + 1 ∧
        (result = .ok [] ∨
          result = .ok [[ModuleId.processor, Register.Processor.create, b.nextProcessor]])) := by
  rcases b.receive_cons ModuleId.processor Register.Processor.create stored with
    ⟨fault, eq⟩ | ⟨replies, b₁, obeyed, eq⟩
  · obtain ⟨rfl, rfl⟩ := Prod.mk.inj (h.symm.trans eq)
    exact .inl ⟨rfl, rfl, Nat.le_refl _, nofun⟩
  · obtain ⟨rfl, rfl⟩ := Prod.mk.inj (h.symm.trans eq)
    rw [obey_create] at obeyed
    unfold createProcessor at obeyed
    simp only at obeyed
    split at obeyed
    · obtain ⟨rfl, rfl⟩ := Prod.mk.inj obeyed
      refine .inl ⟨rfl, rfl, Nat.le_succ _, ?_⟩
      intro frames ok
      rw [← Except.ok.inj ok, ite_self]
    · obtain ⟨rfl, rfl⟩ := Prod.mk.inj obeyed
      refine .inr ⟨rfl, rfl, rfl, ?_⟩
      split
      · exact .inl rfl
      · exact .inr rfl

/-- The boards give out the same ids from now on. -/
def SameNext (b b' : Board) : Prop :=
  b'.nextProcessor = b.nextProcessor ∧ b'.creations = b.creations

theorem receive_remove (id : UInt8) {result : Except Fault (List Frame)} {b' : Board}
    (h : b.receive (Processor.removeFrame id) = (result, b')) :
    b.SameNext b' ∧ (b'.processors = b.processors ∨ b'.processors = b.processors.erase id) := by
  rcases b.receive_cons ModuleId.processor Register.Processor.remove [id] with
    ⟨fault, eq⟩ | ⟨replies, b₁, obeyed, eq⟩
  · obtain ⟨-, rfl⟩ := Prod.mk.inj (h.symm.trans eq)
    exact ⟨⟨rfl, rfl⟩, .inl rfl⟩
  · obtain ⟨-, rfl⟩ := Prod.mk.inj (h.symm.trans eq)
    rw [obey_remove] at obeyed
    obtain ⟨-, rfl⟩ := Prod.mk.inj obeyed
    exact ⟨⟨rfl, rfl⟩, .inr rfl⟩

theorem receive_removeAll {result : Except Fault (List Frame)} {b' : Board}
    (h : b.receive Processor.removeAllFrame = (result, b')) : b.SameNext b' ∧
      (b'.processors = b.processors ∨ b'.processors = .empty) := by
  rcases b.receive_cons ModuleId.processor Register.Processor.removeAll [] with
    ⟨fault, eq⟩ | ⟨replies, b₁, obeyed, eq⟩
  · obtain ⟨-, rfl⟩ := Prod.mk.inj (h.symm.trans eq)
    exact ⟨⟨rfl, rfl⟩, .inl rfl⟩
  · obtain ⟨-, rfl⟩ := Prod.mk.inj (h.symm.trans eq)
    rw [obey_removeAll] at obeyed
    obtain ⟨-, rfl⟩ := Prod.mk.inj obeyed
    exact ⟨⟨rfl, rfl⟩, .inr rfl⟩

/-- New operator bytes replace those of a processor that the board stores. -/
theorem receive_parameter (id : UInt8) (operator : Frame) {result : Except Fault (List Frame)}
    {b' : Board}
    (h : b.receive (ModuleId.processor :: Register.Processor.parameter :: id :: operator) =
      (result, b')) :
    b.SameNext b' ∧ ((∃ fault, result = .error fault) ∧ b'.processors = b.processors ∨
      (∃ frames, result = .ok frames) ∧ ∀ stored, b.processors.get? id = some stored →
        b'.processors = b.processors.insert id (stored.take 4 ++ operator)) := by
  rcases b.receive_cons ModuleId.processor Register.Processor.parameter (id :: operator) with
    ⟨fault, eq⟩ | ⟨replies, b₁, obeyed, eq⟩
  · obtain ⟨rfl, rfl⟩ := Prod.mk.inj (h.symm.trans eq)
    exact ⟨⟨rfl, rfl⟩, .inl ⟨⟨fault, rfl⟩, rfl⟩⟩
  · obtain ⟨rfl, rfl⟩ := Prod.mk.inj (h.symm.trans eq)
    rw [obey_parameter] at obeyed
    split at obeyed
    · rename_i stored known
      obtain ⟨-, rfl⟩ := Prod.mk.inj obeyed
      refine ⟨⟨rfl, rfl⟩, .inr ⟨⟨_, rfl⟩, ?_⟩⟩
      intro stored' known'
      obtain rfl := Option.some.inj (known.symm.trans known')
      rfl
    · rename_i unknown
      obtain ⟨-, rfl⟩ := Prod.mk.inj obeyed
      refine ⟨⟨rfl, rfl⟩, .inr ⟨⟨_, rfl⟩, ?_⟩⟩
      intro stored known
      exact absurd (unknown.symm.trans known) nofun

/-- A read changes nothing about the processors, and only what is stored comes back. -/
theorem receive_read (id : UInt8) {result : Except Fault (List Frame)} {b' : Board}
    (h : b.receive [ModuleId.processor, Register.read Register.Processor.create, id] =
      (result, b')) :
    b'.processors = b.processors ∧ ∀ frames, result = .ok frames → frames = [] ∨
      ∃ stored, b.processors.get? id = some stored ∧
        frames = [ModuleId.processor :: Register.read Register.Processor.create :: stored] := by
  rcases b.receive_cons ModuleId.processor (Register.read Register.Processor.create) [id] with
    ⟨fault, eq⟩ | ⟨replies, b₁, obeyed, eq⟩
  · obtain ⟨rfl, rfl⟩ := Prod.mk.inj (h.symm.trans eq)
    exact ⟨rfl, nofun⟩
  · obtain ⟨rfl, rfl⟩ := Prod.mk.inj (h.symm.trans eq)
    rw [obey_read] at obeyed
    split at obeyed
    · rename_i stored known
      obtain ⟨rfl, rfl⟩ := Prod.mk.inj obeyed
      refine ⟨rfl, ?_⟩
      rintro _ ⟨rfl⟩
      split
      · exact .inl rfl
      · exact .inr ⟨stored, known, rfl⟩
    · obtain ⟨rfl, rfl⟩ := Prod.mk.inj obeyed
      refine ⟨rfl, ?_⟩
      rintro _ ⟨rfl⟩
      exact .inl (ite_self [])

end

/-! ## Questions -/

section Questions

variable {b b' : Board} {key : ReplyKey} {timeout : Nat} {reply : Except Fault Frame}

theorem sameProcessors_of_drifts (drifts : Drifts Injects b b') : b.SameProcessors b' := by
  induction drifts with
  | refl => exact .refl b
  | tail _ step ih =>
      obtain ⟨_, injects⟩ := step
      exact ih.trans (sameProcessors_of_injects injects)

/-- A board that answers nothing by itself answers nothing later. -/
theorem error_of_settles (settles : Settles Injects key timeout b b' reply) :
    Drifts Injects b b' ∧ ∃ fault, reply = .error fault := by
  cases settles with
  | arrived _ injects _ _ => nomatch injects
  | timedOut drifts | closed drifts => exact ⟨drifts, _, rfl⟩

/-- The answer to a question of one frame comes back while the board takes the frame. -/
theorem answered_at_once {frame : Frame}
    (answers : Answers Injects key timeout [frame] b b' reply) :
    ∃ result b₁, b.receive frame = (result, b₁) ∧ Drifts Injects b₁ b' ∧
      ∀ answer, reply = .ok answer → ∃ frames, result = .ok frames ∧
        firstOn key frames = some answer := by
  rcases answers_single answers with ⟨fault, b₁, sent, rfl, drifts⟩ | ⟨frames, b₁, sent, answered⟩
  · exact ⟨_, b₁, sent, drifts, nofun⟩
  · rcases answered with ⟨answer, first, rfl, drifts⟩ | ⟨-, settles⟩
    · refine ⟨_, b₁, sent, drifts, ?_⟩
      rintro _ ⟨rfl⟩
      exact ⟨frames, rfl, first⟩
    · obtain ⟨drifts, fault, rfl⟩ := error_of_settles settles
      exact ⟨_, b₁, sent, drifts, nofun⟩

end Questions

/-! ## Boards without injected faults -/

/-- The board answers everything, refuses nothing and loses no creation. -/
structure Healthy (b : Board) : Prop where
  answers : b.silent = false
  takes : b.rejected = none
  creates : b.lostCreation = none

theorem healthy_new (frameLimit : Nat) : (new frameLimit).Healthy := ⟨rfl, rfl, rfl⟩

namespace Healthy

variable {b : Board}

theorem receive (h : b.Healthy) (moduleId register : UInt8) (payload : Frame) :
    b.receive (moduleId :: register :: payload) =
      let (replies, b') := { b with sent := b.sent ++ [moduleId :: register :: payload] }.obey
        moduleId register payload
      (.ok (if b'.silent then [] else replies), b') := by
  unfold Board.receive
  simp only [h.takes, reduceCtorEq, if_false]

/-- A creation is stored under the next id, and this id comes back. -/
theorem receive_create (h : b.Healthy) (stored : Frame) :
    ∃ b', b.receive (ModuleId.processor :: Register.Processor.create :: stored) =
        (.ok [[ModuleId.processor, Register.Processor.create, b.nextProcessor]], b') ∧
      b'.Healthy ∧ b'.processors = b.processors.insert b.nextProcessor stored ∧
      b'.nextProcessor = b.nextProcessor + 1 ∧
      b'.sent = b.sent ++ [ModuleId.processor :: Register.Processor.create :: stored] := by
  refine ⟨{ b with
    sent := b.sent ++ [ModuleId.processor :: Register.Processor.create :: stored]
    creations := b.creations + 1
    nextProcessor := b.nextProcessor + 1
    processors := b.processors.insert b.nextProcessor stored }, ?_, ⟨h.1, h.2, h.3⟩, rfl, rfl, rfl⟩
  rw [h.receive, obey_create]
  simp only [createProcessor, h.creates, h.answers, reduceCtorEq, Bool.false_eq_true, if_false]

/-- A read of a processor brings back what is stored of it. -/
theorem receive_read (h : b.Healthy) {id : UInt8} {stored : Frame}
    (known : b.processors.get? id = some stored) :
    ∃ b', b.receive [ModuleId.processor, Register.read Register.Processor.create, id] =
        (.ok [ModuleId.processor :: Register.read Register.Processor.create :: stored], b') ∧
      b'.Healthy ∧ b'.processors = b.processors := by
  refine ⟨{ b with
    sent := b.sent ++ [[ModuleId.processor, Register.read Register.Processor.create, id]] },
    ?_, ⟨h.1, h.2, h.3⟩, rfl⟩
  rw [h.receive, obey_read]
  simp only [known, h.answers, Bool.false_eq_true, if_false]

end Healthy

end Board

end SensorHost
