import SensorHost.Processor.Roster

/-!
# Look-ups in a roster

What adding and removing processors does to the look-ups by id and by name. The names of a roster
that was built by adding, removing and clearing never dangle (`Reachable.tracked`); removing an id
therefore takes away all names that lead to it, whether the id is tracked or not.
-/

namespace SensorHost.Roster

/-- A roster that was built from nothing by adding processors and removing them. -/
inductive Reachable : Roster → Prop
  | empty : Reachable .empty
  | insert {r : Roster} (p : Processor) : Reachable r → Reachable (r.insert p)
  | erase {r : Roster} (id : UInt8) : Reachable r → Reachable (r.erase id)

/-! ## By id -/

theorem get?_insert (r : Roster) (p : Processor) (id : UInt8) :
    (r.insert p).get? id = if id = p.id then some p else r.get? id :=
  SortedMap.get?_insert r.active p.id id p

theorem get?_erase (r : Roster) (id id' : UInt8) :
    (r.erase id).get? id' = if id' = id then none else r.get? id' := by
  unfold Roster.erase
  split
  · exact SortedMap.get?_erase r.active id id'
  · rename_i untracked
    split
    · rename_i same
      rw [same]
      unfold get?
      simpa [SortedMap.contains] using untracked
    · rfl

/-! ## By name -/

theorem idOf?_insert (r : Roster) (p : Processor) (name : String) :
    (r.insert p).idOf? name = if p.name = some name then some p.id else r.idOf? name := by
  unfold insert idOf?
  cases named : p.name with
  | none => simp
  | some own =>
      simp only [SortedMap.get?_insert, Option.some.injEq]
      by_cases same : name = own
      · rw [if_pos same, if_pos same.symm]
      · rw [if_neg same, if_neg (Ne.symm same)]

/-- A name leads to a processor of the roster, under its own id. -/
theorem Reachable.tracked {r : Roster} (reachable : r.Reachable) {name : String} {id : UInt8}
    (leads : r.idOf? name = some id) : ∃ p, r.get? id = some p ∧ p.id = id := by
  induction reachable with
  | empty => exact absurd leads nofun
  | @insert r p _ ih =>
      rw [idOf?_insert] at leads
      rw [get?_insert]
      by_cases own : id = p.id
      · rw [if_pos own]
        exact ⟨p, rfl, own.symm⟩
      · rw [if_neg own]
        by_cases named : p.name = some name
        · rw [if_pos named] at leads
          exact absurd (Option.some.inj leads).symm own
        · rw [if_neg named] at leads
          exact ih leads
  | @erase r removed _ ih =>
      have old : r.idOf? name = some id ∧ id ≠ removed := by
        unfold Roster.erase at leads
        split at leads
        · unfold idOf? at leads
          rw [SortedMap.get?_filter, Option.filter_eq_some_iff] at leads
          exact ⟨leads.1, by simpa using leads.2⟩
        · -- No name leads to an id that is not tracked, so there was none to remove.
          rename_i untracked
          refine ⟨leads, ?_⟩
          rintro rfl
          obtain ⟨p, tracked, -⟩ := ih leads
          exact untracked (by unfold get? at tracked; simp [SortedMap.contains, tracked])
      rw [get?_erase, if_neg old.2]
      exact ih old.1

/-- Removing an id takes away the names that lead to it. -/
theorem Reachable.idOf?_erase {r : Roster} (reachable : r.Reachable) (id : UInt8) (name : String) :
    (r.erase id).idOf? name = (r.idOf? name).filter (· ≠ id) := by
  unfold Roster.erase
  split
  · unfold idOf?
    rw [SortedMap.get?_filter]
    congr 1
    funext named
    rw [Bool.eq_iff_iff, bne_iff_ne, decide_eq_true_iff]
  · rename_i untracked
    cases leads : r.idOf? name with
    | none => rfl
    | some named =>
        rw [Option.filter_some]
        have differs : named ≠ id := by
          rintro rfl
          obtain ⟨p, tracked, -⟩ := reachable.tracked leads
          exact untracked (by unfold get? at tracked; simp [SortedMap.contains, tracked])
        rw [if_pos (decide_eq_true differs)]

/-- Two rosters with the same look-ups are the same. -/
theorem ext_lookups {r r' : Roster} (byId : ∀ id, r.get? id = r'.get? id)
    (byName : ∀ name, r.idOf? name = r'.idOf? name) : r = r' := by
  obtain ⟨active, names⟩ := r
  obtain ⟨active', names'⟩ := r'
  obtain rfl : active = active' := SortedMap.ext_get? byId
  obtain rfl : names = names' := SortedMap.ext_get? byName
  rfl

/-! ## Several processors -/

def insertAll (r : Roster) (ps : List Processor) : Roster := ps.foldl insert r

def eraseAll (r : Roster) (ids : List UInt8) : Roster := ids.foldl erase r

theorem Reachable.insertAll {r : Roster} (reachable : r.Reachable) (ps : List Processor) :
    (r.insertAll ps).Reachable := by
  induction ps generalizing r with
  | nil => exact reachable
  | cons p rest ih => exact ih (reachable.insert p)

theorem get?_insertAll {r : Roster} {ps : List Processor} {id : UInt8}
    (other : id ∉ ps.map (·.id)) : (r.insertAll ps).get? id = r.get? id := by
  induction ps generalizing r with
  | nil => rfl
  | cons p rest ih =>
      rw [List.map_cons, List.mem_cons, not_or] at other
      show ((r.insert p).insertAll rest).get? id = r.get? id
      rw [ih other.2, get?_insert, if_neg other.1]

/-- Under an id that one of the new processors has is that one, if no two of them share an id. -/
theorem get?_insertAll_iff {r : Roster} {ps : List Processor} (distinct : (ps.map (·.id)).Nodup)
    {id : UInt8} {p : Processor} : (r.insertAll ps).get? id = some p ↔
      (p ∈ ps ∧ p.id = id) ∨ (id ∉ ps.map (·.id) ∧ r.get? id = some p) := by
  induction ps generalizing r with
  | nil => simp [Roster.insertAll]
  | cons q rest ih =>
      rw [List.map_cons, List.nodup_cons] at distinct
      show ((r.insert q).insertAll rest).get? id = some p ↔ _
      rw [ih distinct.2, get?_insert, List.map_cons, List.mem_cons, List.mem_cons, not_or]
      by_cases own : id = q.id
      · subst own
        rw [if_pos rfl]
        constructor
        · rintro (⟨mem, same⟩ | ⟨-, ⟨rfl⟩⟩)
          · exact .inl ⟨.inr mem, same⟩
          · exact .inl ⟨.inl rfl, rfl⟩
        · rintro (⟨rfl | mem, same⟩ | ⟨⟨other, -⟩, -⟩)
          · exact .inr ⟨distinct.1, rfl⟩
          · exact .inl ⟨mem, same⟩
          · exact absurd rfl other
      · rw [if_neg own]
        constructor
        · rintro (⟨mem, same⟩ | ⟨unused, before⟩)
          · exact .inl ⟨.inr mem, same⟩
          · exact .inr ⟨⟨own, unused⟩, before⟩
        · rintro (⟨rfl | mem, rfl⟩ | ⟨⟨-, unused⟩, before⟩)
          · exact absurd rfl own
          · exact .inl ⟨mem, rfl⟩
          · exact .inr ⟨unused, before⟩

theorem get?_eraseAll (r : Roster) (ids : List UInt8) (id : UInt8) :
    (r.eraseAll ids).get? id = if id ∈ ids then none else r.get? id := by
  induction ids generalizing r with
  | nil => rfl
  | cons removed rest ih =>
      show ((r.erase removed).eraseAll rest).get? id = _
      rw [ih, get?_erase]
      by_cases first : id = removed <;> by_cases later : id ∈ rest <;> simp [first, later]

/-- A name leads where it led before, unless one of the new processors has it. -/
theorem idOf?_insertAll_of_unused {r : Roster} {ps : List Processor} {name : String}
    (unused : ∀ p ∈ ps, p.name ≠ some name) : (r.insertAll ps).idOf? name = r.idOf? name := by
  induction ps generalizing r with
  | nil => rfl
  | cons p rest ih =>
      show ((r.insert p).insertAll rest).idOf? name = r.idOf? name
      rw [ih fun q mem => unused q (List.mem_cons_of_mem p mem), idOf?_insert,
        if_neg (unused p List.mem_cons_self)]

/-- A name of one of the new processors leads to one of them. -/
theorem idOf?_insertAll_of_used {r : Roster} {ps : List Processor} {name : String}
    (used : ∃ p ∈ ps, p.name = some name) :
    ∃ id ∈ ps.map (·.id), (r.insertAll ps).idOf? name = some id := by
  induction ps generalizing r with
  | nil => exact absurd used (by simp)
  | cons p rest ih =>
      show ∃ id ∈ (p :: rest).map (·.id), ((r.insert p).insertAll rest).idOf? name = some id
      by_cases later : ∃ q ∈ rest, q.name = some name
      · obtain ⟨id, mem, leads⟩ := ih (r := r.insert p) later
        exact ⟨id, List.mem_cons_of_mem p.id mem, leads⟩
      · have named : p.name = some name := by
          obtain ⟨q, mem, named⟩ := used
          rcases List.mem_cons.mp mem with rfl | mem
          · exact named
          · exact absurd ⟨q, mem, named⟩ later
        refine ⟨p.id, List.mem_cons_self, ?_⟩
        rw [idOf?_insertAll_of_unused fun q mem named => later ⟨q, mem, named⟩, idOf?_insert,
          if_pos named]

theorem Reachable.idOf?_eraseAll {r : Roster} (reachable : r.Reachable) (ids : List UInt8)
    (name : String) : (r.eraseAll ids).idOf? name = (r.idOf? name).filter (· ∉ ids) := by
  induction ids generalizing r with
  | nil =>
      show r.idOf? name = _
      cases r.idOf? name <;> rfl
  | cons removed rest ih =>
      show ((r.erase removed).eraseAll rest).idOf? name = _
      rw [ih (reachable.erase removed), reachable.idOf?_erase, Option.filter_filter]
      congr 1
      funext id
      simp [not_or]

/-! ## Undoing -/

/-- No name, or one that leads nowhere. -/
def Free (r : Roster) (name? : Option String) : Prop :=
  ∀ name, name? = some name → r.idOf? name = none

section Undoing

variable {r : Roster} (reachable : r.Reachable) {ps : List Processor} {ids : List UInt8}
  (same : ∀ id, id ∈ ids ↔ id ∈ ps.map (·.id)) (untracked : ∀ id ∈ ids, r.get? id = none)
include same untracked

/-- Taking new processors away again brings back the old ones. -/
theorem active_eraseAll_insertAll : ((r.insertAll ps).eraseAll ids).active = r.active := by
  refine SortedMap.ext_get? fun id => ?_
  show ((r.insertAll ps).eraseAll ids).get? id = r.get? id
  rw [get?_eraseAll]
  by_cases new : id ∈ ids
  · rw [if_pos new, untracked id new]
  · rw [if_neg new, get?_insertAll (mt (same id).mpr new)]

include reachable

/-- The names that the new processors had are gone; all others are as before. -/
theorem idOf?_eraseAll_insertAll (name : String) :
    ((r.insertAll ps).eraseAll ids).idOf? name =
      if ∃ p ∈ ps, p.name = some name then none else r.idOf? name := by
  rw [(reachable.insertAll ps).idOf?_eraseAll]
  split
  · rename_i used
    obtain ⟨id, mem, leads⟩ := idOf?_insertAll_of_used (r := r) used
    rw [leads, Option.filter_some, if_neg]
    simpa using (same id).mpr mem
  · rename_i unused
    rw [idOf?_insertAll_of_unused fun p mem named => unused ⟨p, mem, named⟩]
    cases leads : r.idOf? name with
    | none => rfl
    | some id =>
        obtain ⟨p, tracked, -⟩ := reachable.tracked leads
        have old : id ∉ ids := fun new => by
          rw [untracked id new] at tracked
          contradiction
        rw [Option.filter_some, if_pos (decide_eq_true old)]

/-- Nothing is left of the new processors exactly if they took no name away. -/
theorem eraseAll_insertAll_eq_iff :
    (r.insertAll ps).eraseAll ids = r ↔ ∀ p ∈ ps, r.Free p.name := by
  have lookups := idOf?_eraseAll_insertAll reachable same untracked
  constructor
  · intro eq p mem name named
    have gone := lookups name
    rw [eq, if_pos ⟨p, mem, named⟩] at gone
    exact gone
  · intro free
    refine ext_lookups (fun id => ?_) fun name => ?_
    · unfold get?
      rw [active_eraseAll_insertAll same untracked]
    · rw [lookups]
      split
      · rename_i used
        obtain ⟨p, mem, named⟩ := used
        exact (free p mem name named).symm
      · rfl

end Undoing

end SensorHost.Roster
