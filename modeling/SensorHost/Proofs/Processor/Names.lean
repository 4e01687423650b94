import Mathlib.Data.List.Induction
import SensorHost.Proofs.Processor.Roster

/-!
# What a roster keeps of its changes

A roster is the result of adding and removing processors. Under an id is the processor that was put
there last, unless it was removed since (`Roster.get?_after`). A name leads to the id under which it was
registered last, unless that id was removed since (`Roster.idOf?_after`). Together with the ids in use
they are all that a roster knows, and no name leads to an id that is not in use
(`Roster.lookups_after`).

The two look-ups forget for different reasons. Putting a processor under an id that is taken replaces
the one that had it, and leaves the name of the old one where it was. So this name leads to a processor
that was not registered under it (`Roster.Usurped`), and no other name does
(`Roster.named_bears_iff`).
-/

namespace SensorHost.Roster

variable {id : UInt8} {name : String} {p : Processor} {r : Roster}

/-! ## Changes -/

/-- What can be done to a roster. -/
inductive Change where
  | insert (p : Processor)
  | erase (id : UInt8)
  | clear

namespace Change

def apply (r : Roster) : Change → Roster
  | insert p => r.insert p
  | erase id => r.erase id
  | clear => .empty

/-- No processor is left under the id. -/
def Frees (id : UInt8) : Change → Prop
  | insert _ => False
  | erase id' => id' = id
  | clear => True

/-- The change says what is under the id. -/
def Settles (id : UInt8) : Change → Prop
  | insert p => p.id = id
  | c => c.Frees id

/-- A processor is added under the name. -/
def Registers (name : String) : Change → Prop
  | insert p => p.name = some name
  | erase _ | clear => False

theorem settles_iff {c : Change} :
    c.Settles id ↔ (∃ p, c = insert p ∧ p.id = id) ∨ c.Frees id := by
  cases c <;> simp [Settles, Frees]

theorem registers_iff {c : Change} : c.Registers name ↔ ∃ p, c = insert p ∧ p.name = some name := by
  cases c <;> simp [Registers]

theorem get?_apply_of_frees {c : Change} (frees : c.Frees id) : (c.apply r).get? id = none := by
  cases c with
  | insert p => exact absurd frees not_false
  | erase removed => exact (get?_erase r removed id).trans (if_pos (Eq.symm frees))
  | clear => rfl

theorem get?_apply_of_not_settles {c : Change} (other : ¬ c.Settles id) :
    (c.apply r).get? id = r.get? id := by
  cases c with
  | insert p => exact (get?_insert r p id).trans (if_neg (Ne.symm other))
  | erase removed => exact (get?_erase r removed id).trans (if_neg (Ne.symm other))
  | clear => exact absurd trivial other

theorem idOf?_apply_of_not_registers (reachable : r.Reachable) {c : Change}
    (other : ¬ c.Registers name) :
    (c.apply r).idOf? name = some id ↔ r.idOf? name = some id ∧ ¬ c.Frees id := by
  cases c with
  | insert p =>
      have unlike : p.name ≠ some name := other
      show (r.insert p).idOf? name = some id ↔ r.idOf? name = some id ∧ ¬ False
      rw [idOf?_insert, if_neg unlike, not_false_eq_true, and_true]
  | erase removed =>
      show (r.erase removed).idOf? name = some id ↔ r.idOf? name = some id ∧ removed ≠ id
      rw [reachable.idOf?_erase, Option.filter_eq_some_iff, decide_eq_true_iff, ne_comm]
  | clear =>
      show (none : Option UInt8) = some id ↔ r.idOf? name = some id ∧ ¬ True
      simp

theorem reachable_apply (reachable : r.Reachable) (c : Change) : (c.apply r).Reachable := by
  cases c with
  | insert p => exact reachable.insert p
  | erase id => exact reachable.erase id
  | clear => exact .empty

end Change

/-- The roster that changes make of an empty one. -/
def after (changes : List Change) : Roster := changes.foldl Change.apply .empty

theorem after_append (before later : List Change) :
    after (before ++ later) = later.foldl Change.apply (after before) := List.foldl_append

theorem after_concat (changes : List Change) (c : Change) :
    after (changes ++ [c]) = c.apply (after changes) := after_append changes [c]

theorem reachable_after (changes : List Change) : (after changes).Reachable := by
  induction changes using List.reverseRecOn with
  | nil => exact .empty
  | append_singleton changes c ih => exact after_concat changes c ▸ Change.reachable_apply ih c

/-! ## What still stands -/

/-- The change was made, and since then none that undoes it. -/
def Stands (changes : List Change) (c : Change) (Undoes : Change → Prop) : Prop :=
  ∃ before later, changes = before ++ c :: later ∧ ∀ c' ∈ later, ¬ Undoes c'

theorem stands_concat {changes : List Change} {c c' : Change} {Undoes : Change → Prop} :
    Stands (changes ++ [c']) c Undoes ↔ c' = c ∨ Stands changes c Undoes ∧ ¬ Undoes c' := by
  constructor
  · -- The change is the last one, or the last one is behind it.
    rintro ⟨before, later, split, kept⟩
    rcases List.eq_nil_or_concat later with rfl | ⟨middle, last, rfl⟩
    · exact .inl (List.append_inj' split rfl |>.2 |> List.singleton_inj.mp)
    · rw [List.concat_eq_append, ← List.cons_append, ← List.append_assoc] at split
      obtain ⟨rfl, same⟩ := List.append_inj' split rfl
      obtain rfl := List.singleton_inj.mp same
      exact .inr ⟨⟨before, middle, rfl, fun c mem => kept c (by simp [mem])⟩,
        kept c' (by simp)⟩
  · rintro (rfl | ⟨⟨before, later, rfl, kept⟩, unlike⟩)
    · exact ⟨changes, [], rfl, nofun⟩
    · refine ⟨before, later ++ [c'], by simp, fun c mem => ?_⟩
      rcases List.mem_append.mp mem with mem | mem
      · exact kept c mem
      · exact List.mem_singleton.mp mem ▸ unlike

/-- Under an id is the processor that was put there last and not removed since. -/
theorem get?_after (changes : List Change) :
    (after changes).get? id = some p ↔
      p.id = id ∧ Stands changes (.insert p) (Change.Settles id) := by
  induction changes using List.reverseRecOn with
  | nil => exact ⟨nofun, fun ⟨_, _, _, split, _⟩ => absurd split (by simp)⟩
  | append_singleton changes c ih =>
      rw [after_concat, stands_concat]
      by_cases settles : c.Settles id
      · -- The last change alone decides.
        simp only [settles, not_true, and_false, or_false]
        rcases Change.settles_iff.mp settles with ⟨q, rfl, own⟩ | frees
        · rw [Change.apply, get?_insert, if_pos own.symm, Option.some.injEq, Change.insert.injEq]
          exact ⟨fun same => ⟨same ▸ own, same⟩, And.right⟩
        · rw [Change.get?_apply_of_frees frees]
          refine ⟨nofun, ?_⟩
          rintro ⟨-, rfl⟩
          exact absurd frees not_false
      · rw [Change.get?_apply_of_not_settles settles, ih]
        constructor
        · rintro ⟨own, stands⟩
          exact ⟨own, .inr ⟨stands, settles⟩⟩
        · rintro ⟨own, rfl | ⟨stands, -⟩⟩
          · exact absurd own settles
          · exact ⟨own, stands⟩

/-- A name leads to the id at which it was registered last, if that was not removed since. -/
theorem idOf?_after (changes : List Change) :
    (after changes).idOf? name = some id ↔ ∃ owner : Processor, owner.name = some name ∧
      owner.id = id ∧ Stands changes (.insert owner) fun c => c.Registers name ∨ c.Frees id := by
  induction changes using List.reverseRecOn with
  | nil => exact ⟨nofun, fun ⟨_, _, _, _, _, split, _⟩ => absurd split (by simp)⟩
  | append_singleton changes c ih =>
      rw [after_concat]
      simp only [stands_concat]
      by_cases registers : c.Registers name
      · obtain ⟨q, rfl, named⟩ := Change.registers_iff.mp registers
        simp only [registers, true_or, not_true, and_false, or_false, Change.insert.injEq]
        rw [Change.apply, idOf?_insert, if_pos named, Option.some.injEq]
        constructor
        · intro own
          exact ⟨q, named, own, rfl⟩
        · rintro ⟨_, -, own, rfl⟩
          exact own
      · rw [Change.idOf?_apply_of_not_registers (reachable_after changes) registers, ih]
        constructor
        · rintro ⟨⟨owner, named, own, stands⟩, kept⟩
          exact ⟨owner, named, own, .inr ⟨stands, not_or.mpr ⟨registers, kept⟩⟩⟩
        · rintro ⟨owner, named, own, rfl | ⟨stands, kept⟩⟩
          · exact absurd named registers
          · exact ⟨⟨owner, named, own, stands⟩, (not_or.mp kept).2⟩

/-- The ids in use are those under which the roster finds a processor. -/
theorem mem_ids_iff : id ∈ r.ids ↔ ∃ p, r.get? id = some p := by
  unfold ids SortedMap.keys get?
  rw [List.mem_map]
  constructor
  · rintro ⟨⟨_, p⟩, entry, rfl⟩
    exact ⟨p, (SortedMap.get?_eq_some_iff r.active).mpr entry⟩
  · rintro ⟨p, found⟩
    exact ⟨(id, p), (SortedMap.get?_eq_some_iff r.active).mp found, rfl⟩

theorem pairwise_ids (r : Roster) : r.ids.Pairwise (· < ·) :=
  List.pairwise_map.mpr (r.active.sorted.imp compareOfLessAndEq_eq_lt.mp)

/-- A name leads to the id of a processor of the roster. The ids in use increase, and they are those at
which the last insertion was followed by no removal. A name leads to the id of the last insertion under
it if that id was not removed since, and nowhere otherwise. -/
theorem lookups_after (changes : List Change) :
    (∀ name id, (after changes).idOf? name = some id →
      ∃ p, (after changes).get? id = some p ∧ p.id = id) ∧
    (after changes).ids.Pairwise (· < ·) ∧
    (∀ id, id ∈ (after changes).ids ↔
      ∃ p : Processor, p.id = id ∧ Stands changes (.insert p) (Change.Settles id)) ∧
    (∀ name id, (after changes).idOf? name = some id ↔ ∃ owner : Processor, owner.name = some name ∧
      owner.id = id ∧ Stands changes (.insert owner) fun c => c.Registers name ∨ c.Frees id) ∧
    ∀ name, (after changes).idOf? name = none ↔ ¬ ∃ owner : Processor, owner.name = some name ∧
      Stands changes (.insert owner) fun c => c.Registers name ∨ c.Frees owner.id := by
  refine ⟨fun name id leads => (reachable_after changes).tracked leads, pairwise_ids _, fun id => ?used,
    fun name id => idOf?_after changes, fun name => ?nowhere⟩
  case used => simp only [mem_ids_iff, get?_after]
  case nowhere =>
    rw [Option.eq_none_iff_forall_ne_some]
    constructor
    · rintro nowhere ⟨owner, named, stands⟩
      exact nowhere owner.id ((idOf?_after changes).mpr ⟨owner, named, rfl, stands⟩)
    · intro unowned id leads
      obtain ⟨owner, named, rfl, stands⟩ := (idOf?_after changes).mp leads
      exact unowned ⟨owner, named, stands⟩

/-- The name moves to another processor, and stays with it when the id of the first one is removed. -/
theorem lookups_after_moved :
    let byte : Signal := .root .uint ⟨1, 1, noId⟩ ⟨[1], 1, 0, false⟩
    let named (id : UInt8) : Processor := ⟨id, some "a", .passthrough .all 0, byte, byte, none⟩
    let changes : List Change := [.insert (named 0), .insert (named 1), .erase 0]
    (after changes).idOf? "a" = some 1 ∧ ∃ p, (after changes).get? 1 = some p ∧ p.id = 1 :=
  ⟨rfl, (lookups_after _).1 "a" 1 rfl⟩

/-! ## Names of others -/

/-- The processor that registered the name last has lost its id to another one since, and that id was
not removed. -/
def Usurped (changes : List Change) (name : String) : Prop :=
  ∃ before owner later, changes = before ++ .insert owner :: later ∧ owner.name = some name ∧
    (∀ c ∈ later, ¬ (c.Registers name ∨ c.Frees owner.id)) ∧
    ∃ q, .insert q ∈ later ∧ q.id = owner.id

/-- If an id is given away and not removed, one of the processors that got it is under it. -/
theorem exists_get?_of_insert {later : List Change} (kept : ∀ c ∈ later, ¬ c.Frees id)
    (given : ∃ q, .insert q ∈ later ∧ q.id = id) :
    ∃ q, .insert q ∈ later ∧ (later.foldl Change.apply r).get? id = some q := by
  induction later using List.reverseRecOn with
  | nil => exact absurd given (by simp)
  | append_singleton later c ih =>
      rw [List.foldl_append, List.foldl_cons, List.foldl_nil]
      -- None of the changes frees the id, so the last one that settles it gives it away.
      by_cases settles : c.Settles id
      · rcases Change.settles_iff.mp settles with ⟨q, rfl, own⟩ | frees
        · exact ⟨q, by simp, (get?_insert _ q id).trans (if_pos own.symm)⟩
        · exact absurd frees (kept c (by simp))
      · obtain ⟨q, mem, own⟩ := given
        have earlier : .insert q ∈ later := by
          rcases List.mem_append.mp mem with mem | mem
          · exact mem
          · obtain rfl := List.mem_singleton.mp mem
            exact absurd own settles
        obtain ⟨q, mem, found⟩ := ih (fun c mem => kept c (by simp [mem])) ⟨q, earlier, own⟩
        exact ⟨q, by simp [mem], (Change.get?_apply_of_not_settles settles).trans found⟩

/-- A name leads to a processor that was registered under it, unless the one that was lost its id. -/
theorem named_bears_iff (changes : List Change) (name : String) :
    (∀ p, (after changes).named? name = some p → p.name = some name) ↔ ¬ Usurped changes name := by
  constructor
  · -- What is found under the id was put there after the name was registered.
    rintro bears ⟨before, owner, later, rfl, named, kept, given⟩
    have leads : (after (before ++ .insert owner :: later)).idOf? name = some owner.id :=
      (idOf?_after _).mpr ⟨owner, named, rfl, before, later, rfl, kept⟩
    obtain ⟨q, mem, found⟩ := exists_get?_of_insert (r := (after before).insert owner)
      (fun c mem frees => kept c mem (.inr frees)) given
    have leadsTo : (after (before ++ .insert owner :: later)).named? name = some q := by
      rw [named?, leads, Option.bind_some, after_append]
      exact found
    exact kept _ mem (.inl (bears q leadsTo))
  · intro kept p leadsTo
    obtain ⟨id, leads, found⟩ := Option.bind_eq_some_iff.mp leadsTo
    obtain ⟨owner, named, rfl, before, later, rfl, stands⟩ := (idOf?_after changes).mp leads
    have own : (after (before ++ .insert owner :: later)).get? owner.id = some owner := by
      refine (get?_after _).mpr ⟨rfl, before, later, rfl, fun c mem settles => ?_⟩
      rcases Change.settles_iff.mp settles with ⟨q, rfl, given⟩ | frees
      · exact kept ⟨before, owner, later, rfl, named, stands, q, mem, given⟩
      · exact stands c mem (.inr frees)
    obtain rfl := Option.some.inj (found.symm.trans own)
    exact named

end SensorHost.Roster
