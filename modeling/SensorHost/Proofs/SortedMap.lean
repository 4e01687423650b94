import SensorHost.SortedMap

/-!
# Updates of sorted maps

When an update changes a map, and what several pairs that are put into it do to its look-ups and to
its size. A map can be put together again from its own entries (`SortedMap.ofList_entries`), and
from its values alone if each of them knows its key (`SortedMap.KeyedBy.ofList_values`).
-/

namespace SensorHost.SortedMap

variable {κ ν : Type} [Ord κ] {m : SortedMap κ ν} {k : κ} {v : ν} {pairs : List (κ × ν)}

theorem length_place {entries : List (κ × ν)} (fresh : find? k entries = none) :
    (place k v entries).length = entries.length + 1 := by
  induction entries with
  | nil => rfl
  | cons head tail ih =>
      unfold find? at fresh
      unfold place
      split at fresh
      · contradiction
      · split
        · rfl
        · contradiction
        · rw [List.length_cons, ih fresh, List.length_cons]

variable [Std.TransOrd κ] [Std.LawfulEqOrd κ]

/-- The map with the value of every pair set for its key, a later pair winning. -/
def insertAll (m : SortedMap κ ν) (pairs : List (κ × ν)) : SortedMap κ ν :=
  pairs.foldl (fun m p => m.insert p.1 p.2) m

variable [DecidableEq κ]

theorem erase_eq_self_iff : m.erase k = m ↔ m.get? k = none := by
  constructor
  · intro same
    rw [← same, get?_erase, if_pos rfl]
  · intro absent
    refine ext_get? fun k' => ?_
    rw [get?_erase]
    split
    · rename_i own
      rw [own, absent]
    · rfl

/-! ## Several pairs at once -/

theorem get?_insertAll_of_notMem (other : k ∉ pairs.map (·.1)) :
    (m.insertAll pairs).get? k = m.get? k := by
  induction pairs generalizing m with
  | nil => rfl
  | cons p rest ih =>
      rw [List.map_cons, List.mem_cons, not_or] at other
      obtain ⟨ne, later⟩ := other
      show ((m.insert p.1 p.2).insertAll rest).get? k = m.get? k
      rw [ih later, get?_insert, if_neg ne]

theorem get?_insertAll_of_mem (distinct : (pairs.map (·.1)).Nodup) (mem : (k, v) ∈ pairs) :
    (m.insertAll pairs).get? k = some v := by
  induction pairs generalizing m with
  | nil => contradiction
  | cons p rest ih =>
      rw [List.map_cons, List.nodup_cons] at distinct
      obtain ⟨first, distinct⟩ := distinct
      show ((m.insert p.1 p.2).insertAll rest).get? k = some v
      rcases List.mem_cons.mp mem with rfl | later
      · rw [get?_insertAll_of_notMem first, get?_insert, if_pos rfl]
      · exact ih distinct later

/-- Every pair with a key of its own makes the map larger. -/
theorem size_insertAll (distinct : (pairs.map (·.1)).Nodup)
    (fresh : ∀ p ∈ pairs, m.get? p.1 = none) :
    (m.insertAll pairs).size = m.size + pairs.length := by
  induction pairs generalizing m with
  | nil => rfl
  | cons p rest ih =>
      rw [List.map_cons, List.nodup_cons] at distinct
      obtain ⟨first, distinct⟩ := distinct
      obtain ⟨new, fresh⟩ := List.forall_mem_cons.mp fresh
      have others : ∀ q ∈ rest, (m.insert p.1 p.2).get? q.1 = none := by
        intro q mem
        have ne : q.1 ≠ p.1 := by
          intro same
          rw [← same] at first
          exact first (List.mem_map_of_mem mem)
        rw [get?_insert, if_neg ne, fresh q mem]
      have grown : (m.insert p.1 p.2).size = m.size + 1 := length_place new
      show ((m.insert p.1 p.2).insertAll rest).size = _
      rw [ih distinct others, grown, List.length_cons]
      omega

omit [Std.TransOrd κ] [DecidableEq κ] in
theorem nodup_keys (m : SortedMap κ ν) : (m.entries.map (·.1)).Nodup := by
  rw [List.nodup_iff_pairwise_ne, List.pairwise_map]
  refine m.sorted.imp fun {a b} above same => ?_
  rw [same, Std.compare_self] at above
  contradiction

/-- A map is the map of its own entries. -/
theorem ofList_entries (m : SortedMap κ ν) : ofList m.entries = m := by
  apply ext_get?
  intro k
  show (insertAll empty m.entries).get? k = m.get? k
  cases found : m.get? k with
  | some v => exact get?_insertAll_of_mem m.nodup_keys ((get?_eq_some_iff m).mp found)
  | none =>
      have absent : k ∉ m.entries.map (·.1) := by
        intro mem
        obtain ⟨⟨k', v⟩, entry, rfl⟩ := List.mem_map.mp mem
        rw [(get?_eq_some_iff m).mpr entry] at found
        contradiction
      exact get?_insertAll_of_notMem absent

/-! ## Values that know their keys -/

/-- Every value is kept under the key that it names. -/
def KeyedBy (key : ν → κ) (m : SortedMap κ ν) : Prop := ∀ k v, m.get? k = some v → key v = k

namespace KeyedBy

variable {key : ν → κ}

omit [Std.TransOrd κ] [Std.LawfulEqOrd κ] [DecidableEq κ] in
theorem empty : (empty : SortedMap κ ν).KeyedBy key := nofun

theorem insert (keyed : m.KeyedBy key) (own : key v = k) : (m.insert k v).KeyedBy key := by
  intro k' v' found
  rw [get?_insert] at found
  split at found
  · rename_i same
    rw [← Option.some.inj found, own, same]
  · exact keyed k' v' found

omit [Std.TransOrd κ] in
theorem erase (keyed : m.KeyedBy key) (k : κ) : (m.erase k).KeyedBy key := by
  intro k' v found
  rw [get?_erase] at found
  split at found
  · contradiction
  · exact keyed k' v found

/-- Values that are put together are kept under the keys that they name. -/
theorem ofList (key : ν → κ) (values : List ν) :
    (SortedMap.ofList (values.map fun v => (key v, v))).KeyedBy key := by
  have all (m : SortedMap κ ν) (keyed : m.KeyedBy key) :
      (m.insertAll (values.map fun v => (key v, v))).KeyedBy key := by
    induction values generalizing m with
    | nil => exact keyed
    | cons v values ih => exact ih _ (keyed.insert rfl)
  exact all .empty .empty

/-- Nothing is lost if the keys are forgotten. -/
theorem ofList_values (keyed : m.KeyedBy key) :
    SortedMap.ofList (m.values.map fun v => (key v, v)) = m := by
  have entries : m.values.map (fun v => (key v, v)) = m.entries := by
    rw [values, List.map_map]
    calc m.entries.map ((fun v => (key v, v)) ∘ Prod.snd) = m.entries.map id := by
          refine List.map_congr_left fun (k, v) mem => ?_
          exact congrArg (·, v) (keyed k v ((get?_eq_some_iff m).mpr mem))
      _ = m.entries := List.map_id _
  rw [entries, ofList_entries]

end KeyedBy

end SensorHost.SortedMap
