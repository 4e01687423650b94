import Mathlib.Data.List.Induction
import Mathlib.Data.List.Nodup
import SensorHost.Exchange.Transport

/-!
# Boards that answer creations honestly

An answer to the creation of a processor does not say which creation it answers, so only the board
knows. A `Registrar` is a board that notes it: which creations were handed to it and whether it took
them, which of them it answered, and for which of them the host has stopped waiting. When it answers is
left open, and so is everything that it does otherwise.

The notes are honest: a creation that was taken is answered once at most, with an id that was given to
no other one, and never after the host has stopped waiting for the answer. `ledger` says what became of
every creation by the notes.
-/

namespace SensorHost

/-- The key of creations and of the answers to them. -/
def ReplyKey.creation : ReplyKey := ⟨ModuleId.processor, Register.Processor.create⟩

/-- What a board notes about creations. A creation is named by its place among all that were handed
over. -/
inductive Note where
  | handed (frame : Frame) (taken : Bool)
  | echoed (creation : Nat) (frame : Frame)
  /-- The host waits no longer for the answer. -/
  | overdue (creation : Nat)

/-- What became of a creation. -/
inductive Fate where
  | refused
  | pending
  | answered (frame : Frame)
  | overdue
deriving DecidableEq

/-- A creation that was handed to the board. -/
structure Creation where
  frame : Frame
  fate : Fate
deriving DecidableEq

namespace Creation

def isPending (c : Creation) : Bool := c.fate = .pending

/-- The id that the board assigned. -/
def id? (c : Creation) : Option UInt8 :=
  match c.fate with
  | .answered frame => frame[2]?
  | _ => none

/-- A pending creation comes to its end; any other one has come to it. -/
def close (c : Creation) (fate : Fate) : Creation := if c.isPending then { c with fate } else c

end Creation

namespace Note

def enter (ledger : List Creation) : Note → List Creation
  | handed frame taken => ledger ++ [⟨frame, if taken then .pending else .refused⟩]
  | echoed creation frame => ledger.modify creation (·.close (.answered frame))
  | overdue creation => ledger.modify creation (·.close .overdue)

/-- What an honest board may note. -/
def IsHonest (ledger : List Creation) : Note → Prop
  | echoed creation frame => (∃ c, ledger[creation]? = some c ∧ c.isPending = true) ∧
    ReplyKey.ofFrame? frame = some .creation ∧
    ∃ id, frame[2]? = some id ∧ ∀ c ∈ ledger, c.id? ≠ some id
  | _ => True

end Note

/-- The creations that were handed to a board, in order, and what became of them. -/
def ledger (notes : List Note) : List Creation := notes.foldl Note.enter []

/-- Every note is honest by those before it. -/
def Honest (notes : List Note) : Prop :=
  ∀ before note after, notes = before ++ note :: after → note.IsHonest (ledger before)

/-- At no time more than one creation was taken and neither answered nor given up. -/
def Serial (notes : List Note) : Prop :=
  ∀ before after, notes = before ++ after → (ledger before).countP Creation.isPending ≤ 1

/-- The frames on the key of creations are answers that the board noted. -/
def Tells (notes notes' : List Note) (frames : List Frame) : Prop :=
  ∃ echoes : List (Nat × Frame), notes' = notes ++ echoes.map (fun echo => .echoed echo.1 echo.2) ∧
    frames.filter (ReplyKey.ofFrame? · = some .creation) = echoes.map (·.2)

/-- The note about a frame that is handed to the board. -/
def noteOf (frame : Frame) (taken : Bool) : List Note :=
  if ReplyKey.ofFrame? frame = some .creation then [.handed frame taken] else []

/-- A board that notes what it does about creations, and is honest. -/
class Registrar (σ : Type) extends Transport σ where
  notes : σ → List Note
  /-- From here on the host waits no longer for the answer to a creation. -/
  giveUp : Nat → σ → σ
  honest (w : σ) : Honest (notes w)
  refuses {w w' : σ} {frame : Frame} {fault : Fault} : Transport.send w frame = (.error fault, w') →
    notes w' = notes w ++ noteOf frame false
  takes {w w' : σ} {frame : Frame} {replies : List Frame} :
    Transport.send w frame = (.ok replies, w') → Tells (notes w ++ noteOf frame true) (notes w') replies
  gives (creation : Nat) (w : σ) : notes (giveUp creation w) = notes w ++ [.overdue creation]

/-! ## The ledger -/

section Ledger

variable {notes notes' : List Note} {note : Note}

theorem ledger_concat : ledger (notes ++ [note]) = note.enter (ledger notes) := by
  simp [ledger]

theorem honest_nil : Honest [] := by
  intro before note after split
  simp at split

theorem honest_concat : Honest (notes ++ [note]) ↔ Honest notes ∧ note.IsHonest (ledger notes) := by
  constructor
  · intro honest
    refine ⟨fun before note' after split => ?_, honest notes note [] rfl⟩
    exact honest before note' (after ++ [note]) (by rw [split, List.append_assoc]; rfl)
  · rintro ⟨earlier, last⟩ before note' after split
    rcases after.eq_nil_or_concat with rfl | ⟨after, final, rfl⟩
    · obtain ⟨rfl, same⟩ := List.append_inj' split rfl
      obtain ⟨rfl, -⟩ := List.cons.inj same
      exact last
    · rw [List.concat_eq_append, ← List.cons_append, ← List.append_assoc] at split
      obtain ⟨same, -⟩ := List.append_inj' split rfl
      exact earlier before note' after same

theorem serial_nil : Serial [] := by
  intro before after split
  obtain ⟨rfl, -⟩ := List.append_eq_nil_iff.mp split.symm
  exact Nat.zero_le 1

theorem serial_concat :
    Serial (notes ++ [note]) ↔ Serial notes ∧
      (note.enter (ledger notes)).countP Creation.isPending ≤ 1 := by
  constructor
  · intro serial
    refine ⟨fun before after split => ?_, ?_⟩
    · exact serial before (after ++ [note]) (by rw [split, List.append_assoc])
    · rw [← ledger_concat]
      exact serial (notes ++ [note]) [] (List.append_nil _).symm
  · rintro ⟨earlier, last⟩ before after split
    rcases after.eq_nil_or_concat with rfl | ⟨after, final, rfl⟩
    · rw [List.append_nil] at split
      rw [← split, ledger_concat]
      exact last
    · rw [List.concat_eq_append, ← List.append_assoc] at split
      obtain ⟨same, -⟩ := List.append_inj' split rfl
      exact earlier before after same

theorem exists_modify {creations : List Creation} {n : Nat} {c : Creation}
    (known : creations[n]? = some c) (change : Creation → Creation) : ∃ before after,
      creations = before ++ c :: after ∧ before.length = n ∧
        creations.modify n change = before ++ change c :: after := by
  induction creations generalizing n with
  | nil => simp at known
  | cons head rest ih =>
      cases n with
      | zero =>
          obtain rfl := Option.some.inj known
          exact ⟨[], rest, rfl, rfl, rfl⟩
      | succ n =>
          obtain ⟨before, after, rfl, rfl, modified⟩ := ih known
          refine ⟨head :: before, after, rfl, rfl, ?_⟩
          rw [List.modify_succ_cons, modified]
          rfl

theorem modify_last (creations : List Creation) (c : Creation) (change : Creation → Creation) :
    (creations ++ [c]).modify creations.length change = creations ++ [change c] := by
  have known : (creations ++ [c])[creations.length]? = some c := by simp
  obtain ⟨before, after, split, length, modified⟩ := exists_modify known change
  obtain ⟨rfl, same⟩ := List.append_inj split length.symm
  obtain ⟨-, rfl⟩ := List.cons.inj same
  exact modified

theorem ids_overdue (creations : List Creation) (n : Nat) :
    (creations.modify n (·.close .overdue)).filterMap Creation.id? =
      creations.filterMap Creation.id? := by
  cases known : creations[n]? with
  | none => rw [List.modify_eq_self (by simpa using known)]
  | some c =>
      obtain ⟨before, after, rfl, -, modified⟩ := exists_modify known (·.close .overdue)
      have same : (c.close .overdue).id? = c.id? := by
        unfold Creation.close
        split
        · rename_i pending
          simp_all [Creation.id?, Creation.isPending]
        · rfl
      rw [modified, List.filterMap_append, List.filterMap_append, List.filterMap_cons,
        List.filterMap_cons, same]

/-- The ids that were assigned are all different. -/
theorem nodup_ids (honest : Honest notes) : ((ledger notes).filterMap Creation.id?).Nodup := by
  induction notes using List.reverseRecOn with
  | nil => exact List.nodup_nil
  | append_singleton notes note ih =>
      obtain ⟨earlier, last⟩ := honest_concat.mp honest
      have distinct := ih earlier
      rw [ledger_concat]
      cases note with
      | handed frame taken =>
          have unassigned : (Creation.mk frame (if taken then .pending else .refused)).id? = none := by
            cases taken <;> rfl
          rw [Note.enter, List.filterMap_append, List.filterMap_cons, unassigned]
          simpa using distinct
      | echoed creation frame =>
          obtain ⟨⟨c, known, pending⟩, -, id, named, fresh⟩ := last
          obtain ⟨before, after, split, -, modified⟩ :=
            exists_modify known (·.close (.answered frame))
          rw [Note.enter, modified]
          rw [split] at distinct fresh
          have ended : (c.close (.answered frame)).id? = some id := by
            simp [Creation.close, pending, Creation.id?, named]
          have open_ : c.id? = none := by
            simp_all [Creation.id?, Creation.isPending]
          simp only [List.filterMap_append, List.filterMap_cons, ended, open_] at distinct ⊢
          rw [List.nodup_middle]
          refine List.nodup_cons.mpr ⟨?_, distinct⟩
          intro taken
          rw [← List.filterMap_append] at taken
          obtain ⟨c', mem, same⟩ := List.mem_filterMap.mp taken
          refine fresh c' ?_ same
          rcases List.mem_append.mp mem with mem | mem
          · exact List.mem_append_left _ mem
          · exact List.mem_append_right _ (List.mem_cons_of_mem _ mem)
      | overdue creation =>
          rw [Note.enter, ids_overdue]
          exact distinct

/-! ## One creation at a time -/

/-- The creations of a ledger of which this one may be pending and no other one. -/
def Pends (creations done : List Creation) (pending? : Option Frame) : Prop :=
  creations = done ++ pending?.toList.map (⟨·, .pending⟩) ∧ ∀ c ∈ done, c.isPending = false

theorem Pends.countP {creations done : List Creation} {pending? : Option Frame}
    (ends : Pends creations done pending?) : creations.countP Creation.isPending ≤ 1 := by
  obtain ⟨rfl, settled⟩ := ends
  rw [List.countP_append, List.countP_eq_zero.mpr (by simpa using settled)]
  cases pending? <;> simp [Creation.isPending]

/-- A creation that is pending is the one that may be. -/
theorem Pends.place {creations done : List Creation} {pending? : Option Frame} {n : Nat}
    {c : Creation} (ends : Pends creations done pending?) (known : creations[n]? = some c)
    (pending : c.isPending = true) :
    n = done.length ∧ ∃ frame, pending? = some frame ∧ c = ⟨frame, .pending⟩ := by
  obtain ⟨rfl, settled⟩ := ends
  by_cases early : n < done.length
  · rw [List.getElem?_append_left early] at known
    have ended := settled c (List.mem_of_getElem? known)
    rw [pending] at ended
    contradiction
  · rw [List.getElem?_append_right (Nat.le_of_not_lt early)] at known
    cases pending? with
    | none => simp at known
    | some frame =>
        obtain ⟨last, same⟩ := List.getElem?_eq_some_iff.mp known
        simp only [Option.toList_some, List.map_cons, List.map_nil, List.length_cons,
          List.length_nil, List.getElem_singleton] at last same
        exact ⟨by omega, frame, rfl, same.symm⟩

/-- The one creation that may be pending comes to its end. -/
theorem Pends.concat {creations done : List Creation} {pending? : Option Frame} {c : Creation}
    (ends : Pends creations done pending?) (ended : c.isPending = false) :
    Pends (done ++ [c]) (done ++ [c]) none := by
  refine ⟨(List.append_nil _).symm, fun c' mem => ?_⟩
  rcases List.mem_append.mp mem with mem | mem
  · exact ends.2 c' mem
  · obtain rfl := List.mem_singleton.mp mem
    exact ended

theorem Pends.close {done : List Creation} {frame : Frame}
    (ends : Pends (ledger notes) done (some frame)) (fate : Fate) :
    (ledger notes).modify done.length (·.close fate) = done ++ [⟨frame, fate⟩] := by
  rw [ends.1]
  exact modify_last ..

/-- The answer that an honest board notes is one to the creation that is pending. -/
theorem Pends.echo {done : List Creation} {pending? : Option Frame} {n : Nat} {reply : Frame}
    (ends : Pends (ledger notes) done pending?)
    (honest : (Note.echoed n reply).IsHonest (ledger notes)) : ∃ frame, pending? = some frame ∧
      n = done.length ∧
      Pends (ledger (notes ++ [.echoed n reply])) (done ++ [⟨frame, .answered reply⟩]) none := by
  obtain ⟨⟨c, known, pending⟩, -⟩ := honest
  obtain ⟨rfl, frame, rfl, rfl⟩ := ends.place known pending
  refine ⟨frame, rfl, rfl, ?_⟩
  rw [ledger_concat, Note.enter, ends.close]
  exact ends.concat rfl

/-- Where nothing is pending an honest board has nothing to answer, and otherwise it may answer what is
pending, once. -/
theorem Pends.echoes {done : List Creation} {pending? : Option Frame} {echoes : List (Nat × Frame)}
    (ends : Pends (ledger notes) done pending?)
    (honest : Honest (notes ++ echoes.map fun echo => .echoed echo.1 echo.2)) :
    echoes = [] ∨ ∃ frame reply, pending? = some frame ∧ echoes = [(done.length, reply)] ∧
      Pends (ledger (notes ++ [.echoed done.length reply])) (done ++ [⟨frame, .answered reply⟩])
        none := by
  have first {notes : List Note} {echo : Nat × Frame} {rest : List (Nat × Frame)}
      (honest : Honest (notes ++ (echo :: rest).map fun echo => .echoed echo.1 echo.2)) :
      (Note.echoed echo.1 echo.2).IsHonest (ledger notes) :=
    honest notes _ _ rfl
  cases echoes with
  | nil => exact .inl rfl
  | cons echo rest =>
      obtain ⟨frame, pending, place, ended⟩ := ends.echo (first honest)
      refine .inr ⟨frame, echo.2, pending, ?_, ?_⟩
      · cases rest with
        | nil => rw [← place]
        | cons echo' rest =>
            -- A second answer would have nothing to answer.
            rw [List.map_cons, ← List.singleton_append, ← List.append_assoc] at honest
            obtain ⟨_, again, -⟩ := ended.echo (first honest)
            contradiction
      · rw [← place]
        exact ended

variable {done done' : List Creation} {pending? pending?' : Option Frame}

theorem Serial.concat (serial : Serial notes) (ends : Pends (ledger (notes ++ [note])) done pending?) :
    Serial (notes ++ [note]) := by
  rw [serial_concat, ← ledger_concat]
  exact ⟨serial, ends.countP⟩

theorem Pends.taken (ends : Pends (ledger notes) done none) (frame : Frame) :
    Pends (ledger (notes ++ [.handed frame true])) done (some frame) := by
  obtain ⟨split, settled⟩ := ends
  refine ⟨?_, settled⟩
  rw [ledger_concat, split]
  simp [Note.enter]

theorem Pends.refused (ends : Pends (ledger notes) done none) (frame : Frame) :
    Pends (ledger (notes ++ [.handed frame false])) (done ++ [⟨frame, .refused⟩]) none := by
  have noted : ledger (notes ++ [.handed frame false]) = done ++ [⟨frame, .refused⟩] := by
    rw [ledger_concat, ends.1]
    simp [Note.enter]
  rw [noted]
  exact ends.concat rfl

theorem Pends.overdue {frame : Frame} (ends : Pends (ledger notes) done (some frame)) :
    Pends (ledger (notes ++ [.overdue done.length])) (done ++ [⟨frame, .overdue⟩]) none := by
  rw [ledger_concat, Note.enter, ends.close]
  exact ends.concat rfl

/-- Giving up a creation that is not pending changes nothing. -/
theorem Pends.given_up (ends : Pends (ledger notes) done pending?) {n : Nat}
    (other : pending? = none ∨ n ≠ done.length) :
    Pends (ledger (notes ++ [.overdue n])) done pending? := by
  have same : (ledger notes).modify n (·.close .overdue) = ledger notes := by
    cases known : (ledger notes)[n]? with
    | none => exact List.modify_eq_self (by simpa using known)
    | some c =>
        have settled : c.isPending = false := by
          rw [Bool.eq_false_iff]
          intro pending
          obtain ⟨rfl, frame, rfl, -⟩ := ends.place known pending
          rcases other with none | differs
          · contradiction
          · exact differs rfl
        obtain ⟨before, after, split, -, modified⟩ := exists_modify known (·.close .overdue)
        rw [modified, split, Creation.close, settled]
        rfl
  rw [ledger_concat, Note.enter, same]
  exact ends

/-- Frames from the board bring no answer to a creation, or the one to the creation that is
pending. -/
theorem Pends.tells {frames : List Frame} (ends : Pends (ledger notes) done pending?)
    (serial : Serial notes) (honest : Honest notes') (tells : Tells notes notes' frames) :
    (notes' = notes ∧ ∀ frame ∈ frames, ReplyKey.ofFrame? frame ≠ some .creation) ∨
      ∃ frame reply before after, pending? = some frame ∧
        Pends (ledger notes') (done ++ [⟨frame, .answered reply⟩]) none ∧ Serial notes' ∧
        frames = before ++ reply :: after ∧ ReplyKey.ofFrame? reply = some .creation ∧
        (∀ frame ∈ before, ReplyKey.ofFrame? frame ≠ some .creation) ∧
        ∀ frame ∈ after, ReplyKey.ofFrame? frame ≠ some .creation := by
  obtain ⟨echoes, rfl, told⟩ := tells
  obtain rfl | ⟨frame, reply, rfl, rfl, ended⟩ := ends.echoes honest
  · refine .inl ⟨List.append_nil notes, fun frame mem => ?_⟩
    have unheard := List.filter_eq_nil_iff.mp told frame mem
    simpa using unheard
  · obtain ⟨before, after, rfl, early, onKey, late⟩ := List.filter_eq_cons_iff.mp told
    refine .inr ⟨frame, reply, before, after, rfl, ended, serial.concat ended, rfl,
      by simpa using onKey, ?_, ?_⟩
    · intro frame mem
      simpa using early frame mem
    · intro frame mem
      have unheard := List.filter_eq_nil_iff.mp late frame mem
      simpa using unheard

end Ledger

end SensorHost
