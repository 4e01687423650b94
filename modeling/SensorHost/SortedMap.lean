/-!
# Sorted maps

A map from keys to values, kept as a list of pairs with strictly increasing keys. What a host
knows about a board is kept in such maps: processors, events and scripts by the id that the
board assigned, producers and processor names by their text.

`get?_insert` and `get?_erase` say what an update does to every look-up, and `ext_get?` that
the look-ups determine the map.
-/

namespace SensorHost

/-- A finite map whose entries are listed by increasing key. -/
structure SortedMap (κ ν : Type) [Ord κ] where
  entries : List (κ × ν)
  sorted : entries.Pairwise fun a b => compare a.1 b.1 = .lt

namespace SortedMap

variable {κ ν : Type} [Ord κ]

instance [DecidableEq κ] [DecidableEq ν] : DecidableEq (SortedMap κ ν) := fun a b =>
  decidable_of_iff (a.entries = b.entries) (by cases a; cases b; simp)

def empty : SortedMap κ ν := ⟨[], .nil⟩

instance : Inhabited (SortedMap κ ν) := ⟨empty⟩

def keys (m : SortedMap κ ν) : List κ := m.entries.map (·.1)

def values (m : SortedMap κ ν) : List ν := m.entries.map (·.2)

def size (m : SortedMap κ ν) : Nat := m.entries.length

def isEmpty (m : SortedMap κ ν) : Bool := m.entries.isEmpty

/-- The value of the first pair with this key. -/
def find? (k : κ) : List (κ × ν) → Option ν
  | [] => none
  | (k', v) :: rest => if compare k k' = .eq then some v else find? k rest

def get? (m : SortedMap κ ν) (k : κ) : Option ν := find? k m.entries

def contains (m : SortedMap κ ν) (k : κ) : Bool := (m.get? k).isSome

/-- Puts a pair where its key belongs, over a pair with the same key. -/
def place (k : κ) (v : ν) : List (κ × ν) → List (κ × ν)
  | [] => [(k, v)]
  | (k', v') :: rest =>
    match compare k k' with
    | .lt => (k, v) :: (k', v') :: rest
    | .eq => (k, v) :: rest
    | .gt => (k', v') :: place k v rest

theorem of_mem_place {k : κ} {v : ν} {p : κ × ν} {entries : List (κ × ν)}
    (h : p ∈ place k v entries) : p = (k, v) ∨ p ∈ entries := by
  induction entries with
  | nil => simpa [place] using h
  | cons head tail ih =>
    obtain ⟨k', v'⟩ := head
    simp only [place] at h
    split at h
    · simpa using h
    · rcases List.mem_cons.mp h with h | h
      · exact .inl h
      · exact .inr (List.mem_cons_of_mem _ h)
    · rcases List.mem_cons.mp h with h | h
      · exact .inr (h ▸ List.mem_cons_self)
      · exact (ih h).imp id (List.mem_cons_of_mem _)

section Lawful

variable [Std.TransOrd κ] [Std.LawfulEqOrd κ]

theorem pairwise_place (k : κ) (v : ν) {entries : List (κ × ν)}
    (h : entries.Pairwise fun a b => compare a.1 b.1 = .lt) :
    (place k v entries).Pairwise fun a b => compare a.1 b.1 = .lt := by
  induction entries with
  | nil => simp [place]
  | cons head tail ih =>
    obtain ⟨k', v'⟩ := head
    have ⟨above, rest⟩ := List.pairwise_cons.mp h
    simp only [place]
    split
    · rename_i lt
      refine List.pairwise_cons.mpr ⟨fun p hp => ?_, h⟩
      rcases List.mem_cons.mp hp with rfl | hp
      · exact lt
      · exact Std.TransCmp.lt_trans lt (above p hp)
    · rename_i eq
      obtain rfl := Std.LawfulEqOrd.eq_of_compare eq
      exact List.pairwise_cons.mpr ⟨above, rest⟩
    · rename_i gt
      refine List.pairwise_cons.mpr ⟨fun p hp => ?_, ih rest⟩
      rcases of_mem_place hp with rfl | hp
      · exact Std.OrientedCmp.gt_iff_lt.mp gt
      · exact above p hp

/-- The map with a value set for a key. -/
def insert (m : SortedMap κ ν) (k : κ) (v : ν) : SortedMap κ ν :=
  ⟨place k v m.entries, pairwise_place k v m.sorted⟩

/-- The map of all pairs, a later pair winning over an earlier one with its key. -/
def ofList (pairs : List (κ × ν)) : SortedMap κ ν :=
  pairs.foldl (fun m p => m.insert p.1 p.2) empty

end Lawful

/-- The map without the pairs that `keep` rejects. -/
def filter (m : SortedMap κ ν) (keep : κ → ν → Bool) : SortedMap κ ν :=
  ⟨m.entries.filter fun p => keep p.1 p.2, m.sorted.filter _⟩

/-- The map without a key. -/
def erase (m : SortedMap κ ν) (k : κ) : SortedMap κ ν :=
  m.filter fun k' _ => compare k k' != .eq

/-! ## What updates do to look-ups -/

theorem find?_place [Std.LawfulEqOrd κ] (k k' : κ) (v : ν) (entries : List (κ × ν)) :
    find? k' (place k v entries) = if compare k' k = .eq then some v else find? k' entries := by
  induction entries with
  | nil => simp [place, find?]
  | cons head tail ih =>
    obtain ⟨k₀, v₀⟩ := head
    simp only [place]
    split
    · simp [find?]
    · rename_i eq
      obtain rfl := Std.LawfulEqOrd.eq_of_compare eq
      by_cases h : compare k' k = .eq <;> simp [find?, h]
    · rename_i gt
      simp only [find?, ih]
      by_cases h : compare k' k = .eq
      · obtain rfl := Std.LawfulEqOrd.eq_of_compare h
        simp [gt]
      · simp [h]

theorem get?_insert [Std.TransOrd κ] [Std.LawfulEqOrd κ] [DecidableEq κ] (m : SortedMap κ ν) (k k' : κ) (v : ν) :
    (m.insert k v).get? k' = if k' = k then some v else m.get? k' := by
  simp only [insert, get?, find?_place, Std.compare_eq_iff_eq]

theorem find?_filter_ne [Std.LawfulEqOrd κ] [DecidableEq κ] (k k' : κ) (entries : List (κ × ν)) :
    find? k' (entries.filter fun p => compare k p.1 != .eq) =
      if k' = k then none else find? k' entries := by
  induction entries with
  | nil => simp [find?]
  | cons head tail ih =>
    obtain ⟨k₀, v₀⟩ := head
    by_cases h : k = k₀
    · subst h
      by_cases h' : k' = k <;> simp_all [find?]
    · by_cases h' : k' = k
      · subst h'
        simp_all [find?]
      · simp_all [find?]

theorem get?_erase [Std.LawfulEqOrd κ] [DecidableEq κ] (m : SortedMap κ ν) (k k' : κ) :
    (m.erase k).get? k' = if k' = k then none else m.get? k' :=
  find?_filter_ne k k' m.entries

theorem find?_eq_some_iff [Std.LawfulEqOrd κ] {k : κ} {v : ν} {entries : List (κ × ν)}
    (h : entries.Pairwise fun a b => compare a.1 b.1 = .lt) :
    find? k entries = some v ↔ (k, v) ∈ entries := by
  induction entries with
  | nil => simp [find?]
  | cons head tail ih =>
    obtain ⟨k₀, v₀⟩ := head
    have ⟨above, rest⟩ := List.pairwise_cons.mp h
    by_cases hk : k = k₀
    · subst hk
      simp only [find?, Std.compare_self, ↓reduceIte, Option.some.injEq, List.mem_cons,
        Prod.mk.injEq, true_and]
      refine ⟨fun e => .inl e.symm, fun e => ?_⟩
      rcases e with e | e
      · exact e.symm
      · have := above _ e
        simp at this
    · simp [find?, hk, ih rest]

theorem get?_eq_some_iff [Std.LawfulEqOrd κ] (m : SortedMap κ ν) {k : κ} {v : ν} :
    m.get? k = some v ↔ (k, v) ∈ m.entries :=
  find?_eq_some_iff m.sorted

theorem get?_filter [Std.LawfulEqOrd κ] (m : SortedMap κ ν) (keep : κ → ν → Bool) (k : κ) :
    (m.filter keep).get? k = (m.get? k).filter (keep k) := by
  ext v
  rw [get?_eq_some_iff, Option.filter_eq_some_iff, get?_eq_some_iff, filter, List.mem_filter]

/-- Two maps with the same look-ups are the same. -/
theorem ext_get? [Std.TransOrd κ] [Std.LawfulEqOrd κ] {m n : SortedMap κ ν} (h : ∀ k, m.get? k = n.get? k) : m = n := by
  obtain ⟨xs, hx⟩ := m
  obtain ⟨ys, hy⟩ := n
  have same : ∀ p, p ∈ xs ↔ p ∈ ys := fun ⟨k, v⟩ => by
    rw [← find?_eq_some_iff hx, ← find?_eq_some_iff hy]
    exact iff_of_eq (congrArg (· = some v) (h k))
  have lists : xs = ys := by
    clear h
    induction xs generalizing ys with
    | nil => exact (List.eq_nil_iff_forall_not_mem.mpr fun p hp => by simpa using (same p).mpr hp).symm
    | cons a as ih =>
      cases ys with
      | nil => exact absurd ((same a).mp List.mem_cons_self) List.not_mem_nil
      | cons b bs =>
        have ⟨aboveA, restA⟩ := List.pairwise_cons.mp hx
        have ⟨aboveB, restB⟩ := List.pairwise_cons.mp hy
        have heads : a = b := by
          rcases List.mem_cons.mp ((same a).mp List.mem_cons_self) with e | e
          · exact e
          · rcases List.mem_cons.mp ((same b).mpr List.mem_cons_self) with e' | e'
            · exact e'.symm
            · have := Std.TransCmp.lt_trans (aboveA _ e') (aboveB _ e)
              simp at this
        subst heads
        refine congrArg (a :: ·) (ih restA bs restB fun p => ⟨fun hp => ?_, fun hp => ?_⟩)
        · rcases List.mem_cons.mp ((same p).mp (List.mem_cons_of_mem _ hp)) with e | e
          · have := aboveA _ hp
            simp [e] at this
          · exact e
        · rcases List.mem_cons.mp ((same p).mpr (List.mem_cons_of_mem _ hp)) with e | e
          · have := aboveB _ hp
            simp [e] at this
          · exact e
  subst lists
  rfl

end SortedMap

end SensorHost
