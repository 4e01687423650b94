import SensorHost.Json.Typed
import SensorHost.Proofs.Json.Document
import SensorHost.Proofs.SortedMap

/-!
# Values that were written

A tree saves a value if it is written as a document that reads back, and if the reader of such
values gets that value from it where the depth that is left allows for its levels, and nothing
elsewhere (`Json.Saves`). Numbers, texts, lists, maps and records save what they were made of.
-/

namespace SensorHost.Json

/-! ## Levels -/

mutual

/-- How many arrays and objects lie around each other where most of them do. -/
def levels : Json → Nat
  | null | bool _ | number _ | string _ => 0
  | array items => itemLevels items + 1
  | object members => memberLevels members + 1

def itemLevels : List Json → Nat
  | [] => 0
  | item :: items => max (levels item) (itemLevels items)

def memberLevels : List (List Char × Json) → Nat
  | [] => 0
  | (_, value) :: members => max (levels value) (memberLevels members)

end

theorem itemLevels_le_iff {items : List Json} {n : Nat} :
    itemLevels items ≤ n ↔ ∀ item ∈ items, item.levels ≤ n := by
  induction items with
  | nil => simp [itemLevels]
  | cons item items ih => rw [itemLevels, Nat.max_le, ih, List.forall_mem_cons]

theorem memberLevels_le_iff {members : List (List Char × Json)} {n : Nat} :
    memberLevels members ≤ n ↔ ∀ member ∈ members, member.2.levels ≤ n := by
  induction members with
  | nil => simp [memberLevels]
  | cons member members ih => rw [memberLevels, Nat.max_le, ih, List.forall_mem_cons]

theorem levels_array_le_iff {items : List Json} {n : Nat} :
    (array items).levels ≤ n + 1 ↔ ∀ item ∈ items, item.levels ≤ n := by
  rw [levels, Nat.add_le_add_iff_right, itemLevels_le_iff]

theorem levels_record_le_iff {members : List (String × Json)} {n : Nat} :
    (record members).levels ≤ n + 1 ↔ ∀ member ∈ members, member.2.levels ≤ n := by
  rw [record, levels, Nat.add_le_add_iff_right, memberLevels_le_iff, List.forall_mem_map]

theorem not_levels_array_le (items : List Json) : ¬ (array items).levels ≤ 0 := by
  simp [levels]

theorem not_levels_record_le (members : List (String × Json)) :
    ¬ (record members).levels ≤ 0 := by
  simp [record, levels]

/-! ## Saving -/

/-- The tree is written as a document that reads back, and is read as the value. -/
structure Saves {α : Type} (read : Reader α) (j : Json) (a : α) : Prop where
  written : Written j
  reads : ∀ n b, read n j = some b ↔ j.levels ≤ n ∧ a = b

theorem decoded?_encode (text : String) : decoded? (Quoted.encode text.toList) = some text := by
  rw [decoded?, Quoted.decode?_encode, Option.map_some, String.ofList_toList]

theorem saves_text (s : String) : Saves readText? (text s) s where
  written := .string s.toList
  reads := by
    intro n b
    simp [readText?, text, levels, decoded?_encode]

theorem saves_bool (value : Bool) : Saves readBool? (bool value) value where
  written := .bool value
  reads := by
    intro n b
    simp [readBool?, levels]

theorem saves_nat {n bound : Nat} (below : n < bound) (bits : bound ≤ UInt64.size) :
    Saves (readNat? bound) (nat n) n where
  written := .number (Numeral.wellFormed_ofNat n)
  reads := by
    intro m b
    simp [readNat?, nat, levels, Numeral.nat?_ofNat below bits]

/-- The single is finite, and its shortest decimal has it as its value. -/
def PrintsExactly (x : Float32) : Prop :=
  x.isFinite ∧ (Numeral.ofSingle x).single? = some x

theorem saves_single {x : Float32} (exact : PrintsExactly x) : Saves readSingle? (single x) x := by
  obtain ⟨finite, value⟩ := exact
  have numeral : single x = number (.ofSingle x) := if_pos finite
  rw [numeral]
  refine ⟨.number (Numeral.wellFormed_ofSingle x), ?_⟩
  intro n b
  simp [readSingle?, levels, value]

section Lists

variable {α : Type} {read : Reader α} {write : α → Json}

theorem saves_optional {o : Option α} (saves : ∀ a ∈ o, Saves read (write a) a)
    (given : ∀ a ∈ o, write a ≠ null) : Saves (readOptional? read) (optional write o) o := by
  cases o with
  | none =>
      refine ⟨.null, ?_⟩
      intro n b
      simp [readOptional?, optional, levels]
  | some a =>
      obtain ⟨written, reads⟩ := saves a rfl
      refine ⟨written, ?_⟩
      intro n b
      have other : readOptional? read n (write a) = (read n (write a)).map some := by
        unfold readOptional?
        split
        · exact absurd ‹_› (given a rfl)
        · rfl
      show readOptional? read n (write a) = some b ↔ _
      rw [other, Option.map_eq_some_iff]
      simp [reads, optional, and_assoc]

/-- What is read from each item of a list, if each of them can be read. -/
theorem mapM_eq_some_iff {β : Type} {f : α → Option β} {g : α → β} {P : α → Prop} {as : List α}
    (each : ∀ a ∈ as, ∀ b, f a = some b ↔ P a ∧ g a = b) (bs : List β) :
    as.mapM f = some bs ↔ (∀ a ∈ as, P a) ∧ as.map g = bs := by
  induction as generalizing bs with
  | nil => simp
  | cons a as ih =>
      obtain ⟨first, others⟩ := List.forall_mem_cons.mp each
      rw [List.mapM_cons, List.forall_mem_cons, List.map_cons]
      constructor
      · intro eq
        obtain ⟨b, one, eq⟩ := Option.bind_eq_some_iff.mp eq
        obtain ⟨rest, more, eq⟩ := Option.bind_eq_some_iff.mp eq
        obtain ⟨p, rfl⟩ := (first b).mp one
        obtain ⟨ps, rfl⟩ := (ih others rest).mp more
        exact ⟨⟨p, ps⟩, Option.some.inj eq⟩
      · rintro ⟨⟨p, ps⟩, rfl⟩
        have one := (first (g a)).mpr ⟨p, rfl⟩
        have more := (ih others (as.map g)).mpr ⟨ps, rfl⟩
        simp [one, more]

theorem saves_list {items : List α} (saves : ∀ a ∈ items, Saves read (write a) a) :
    Saves (readList? read) (list write items) items where
  written := .array (List.forall_mem_map.mpr fun a mem => (saves a mem).written)
  reads := by
    intro n b
    cases n with
    | zero => exact iff_of_false nofun fun fits => not_levels_array_le _ fits.1
    | succ n =>
        have all := mapM_eq_some_iff (f := read n ∘ write) (g := id)
          (P := fun a => (write a).levels ≤ n) (fun a mem => (saves a mem).reads n) b
        rw [List.map_id] at all
        show (items.map write).mapM (read n) = some b ↔ _
        rw [List.mapM_map, list, levels_array_le_iff, List.forall_mem_map]
        exact all

end Lists

/-! ## Choices -/

theorem choice?_text (n : Nat) (key : String) : choice? n (text key) = some (key, none) := by
  rw [text, choice?, decoded?_encode, Option.map_some]

/-- A name of a table is saved if the table leads back from it. -/
theorem saves_name {α : Type} [BEq α] {table : List (α × String)} {a : α}
    (known : named? table (nameIn table a) = some a) :
    Saves (readName? table) (name table a) a where
  written := .string _
  reads := by
    intro n b
    have read : readName? table n (name table a) = some a := by
      rw [name]
      simp [readName?, choice?_text, plain?, known]
    rw [read]
    simp [name, text, levels]

theorem choice?_record (n : Nat) (key : String) (j : Json) :
    choice? (n + 1) (record [(key, j)]) = some (key, some (n, j)) := by
  simp [record, choice?, decoded?_encode]

/-- An alternative with content is saved if its content is. -/
theorem saves_choice {α : Type} {read : Reader α} {content : Reader α} {key : String} {j : Json}
    {a : α} (none : read 0 (record [(key, j)]) = none)
    (opened : ∀ n, read (n + 1) (record [(key, j)]) = content n j) (saves : Saves content j a) :
    Saves read (record [(key, j)]) a where
  written := by
    refine .object ?_ ?_
    · exact List.forall_mem_singleton.mpr ⟨key.toList, rfl⟩
    · exact List.forall_mem_singleton.mpr saves.written
  reads := by
    intro n b
    cases n with
    | zero =>
        rw [none]
        exact iff_of_false nofun fun fits => not_levels_record_le _ fits.1
    | succ n =>
        rw [opened, saves.reads, levels_record_le_iff, List.forall_mem_singleton]

/-! ## Maps -/

theorem written_record {members : List (String × Json)}
    (written : ∀ member ∈ members, Written member.2) : Written (record members) := by
  refine .object ?_ ?_
  · rw [List.forall_mem_map]
    exact fun member _ => ⟨member.1.toList, rfl⟩
  · rw [List.forall_mem_map]
    exact written

/-- The map is saved as an object, if each key is read back from the text that it is saved under. -/
theorem saves_map {κ ν : Type} [Ord κ] [Std.TransOrd κ] [Std.LawfulEqOrd κ] [DecidableEq κ]
    {readKey : List Char → Option κ} {read : Reader ν} {keyText : κ → String} {write : ν → Json}
    {m : SortedMap κ ν} (keys : ∀ k, readKey (Quoted.encode (keyText k).toList) = some k)
    (saves : ∀ entry ∈ m.entries, Saves read (write entry.2) entry.2) :
    Saves (readMap? readKey read) (record (m.entries.map fun (k, v) => (keyText k, write v)))
      m where
  written := written_record (List.forall_mem_map.mpr fun entry mem => (saves entry mem).written)
  reads := by
    intro n b
    cases n with
    | zero => exact iff_of_false nofun fun fits => not_levels_record_le _ fits.1
    | succ n =>
        have each : ∀ entry ∈ m.entries, ∀ b,
            ((readKey (Quoted.encode (keyText entry.1).toList)).bind fun k =>
              (read n (write entry.2)).bind fun v => some (k, v)) = some b ↔
                (write entry.2).levels ≤ n ∧ entry = b := by
          rintro ⟨k, v⟩ mem b
          have value := (saves (k, v) mem).reads n
          rw [keys, Option.bind_some, Option.bind_eq_some_iff]
          simp [value, and_assoc]
        have all := mapM_eq_some_iff (g := id) each
        rw [List.map_id] at all
        rw [levels_record_le_iff, List.forall_mem_map, record, List.map_map]
        show Option.map SortedMap.ofList ((m.entries.map _).mapM _) = some b ↔ _
        rw [List.mapM_map, Option.map_eq_some_iff]
        constructor
        · rintro ⟨entries, read, rfl⟩
          obtain ⟨fits, rfl⟩ := (all entries).mp read
          exact ⟨fits, m.ofList_entries.symm⟩
        · rintro ⟨fits, rfl⟩
          exact ⟨m.entries, (all m.entries).mpr ⟨fits, rfl⟩, m.ofList_entries⟩

/-! ## Records -/

theorem mapM_eq_some_map {α β : Type} {f : α → Option β} {g : α → β} {as : List α}
    (each : ∀ a ∈ as, f a = some (g a)) : as.mapM f = some (as.map g) := by
  induction as with
  | nil => rfl
  | cons a as ih =>
      obtain ⟨first, others⟩ := List.forall_mem_cons.mp each
      rw [List.mapM_cons, first, ih others]
      rfl

/-- Among members with different keys, each one is found under its own. -/
theorem filter_key {members : List (String × Json)} (distinct : (members.map (·.1)).Nodup)
    {member : String × Json} (mem : member ∈ members) :
    members.filter (fun m => m.1 = member.1) = [member] := by
  induction members with
  | nil => contradiction
  | cons first rest ih =>
      rw [List.map_cons, List.nodup_cons] at distinct
      obtain ⟨new, distinct⟩ := distinct
      rcases List.mem_cons.mp mem with rfl | later
      · have none : rest.filter (fun m => m.1 = member.1) = [] := by
          rw [List.filter_eq_nil_iff]
          intro m here same
          exact new (List.mem_map.mpr ⟨m, here, by simpa using same⟩)
        simp [none]
      · have other : ¬ first.1 = member.1 := by
          intro same
          exact new (same ▸ List.mem_map_of_mem later)
        simp [other, ih distinct later]

/-- The fields of a record are the members that were written. -/
theorem fields?_record {names : List String} {members : List (String × Json)}
    (keys : members.map (·.1) = names) (distinct : names.Nodup) :
    fields? names (record members) = some (members.map fun member => some member.2) := by
  subst keys
  have named : (members.map fun member => (Quoted.encode member.1.toList, member.2)).mapM
      (fun field => do return (← decoded? field.1, field.2)) = some members := by
    rw [List.mapM_map, mapM_eq_some_map (g := id), List.map_id]
    intro member _
    simp [decoded?_encode]
  show Option.bind ((members.map _).mapM _) _ = _
  refine (congrArg (Option.bind · _) named).trans ?_
  rw [Option.bind_some, List.mapM_map]
  apply mapM_eq_some_map
  intro member mem
  simp only [Function.comp_apply, filter_key distinct mem]

@[simp] theorem required?_some {α : Type} (read : Reader α) (n : Nat) (j : Json) :
    required? read n (some j) = read n j := rfl

@[simp] theorem optional?_some {α : Type} (read : Reader α) (n : Nat) (j : Json) :
    optional? read n (some j) = readOptional? read n j := rfl

/-- A record is saved if what is read from its fields is. -/
theorem saves_record {α : Type} {names : List String}
    {read : Nat → List (Option Json) → Option α} {members : List (String × Json)} {a : α}
    (keys : members.map (·.1) = names) (distinct : names.Nodup)
    (written : ∀ member ∈ members, Written member.2)
    (reads : ∀ n b, read n (members.map fun member => some member.2) = some b ↔
      (∀ member ∈ members, member.2.levels ≤ n) ∧ a = b) :
    Saves (readRecord? names read) (record members) a where
  written := written_record written
  reads := by
    intro n b
    cases n with
    | zero => exact iff_of_false nofun fun fits => not_levels_record_le _ fits.1
    | succ n =>
        rw [readRecord?, fields?_record keys distinct, levels_record_le_iff]
        exact reads n b

/-! Records of few fields, all of them required. What is read from the fields is put together by
`f`, which gives back the value from the parts that it was taken apart into. -/

section Required

variable {α β γ δ : Type} {r : Reader α} {r' : Reader β} {r'' : Reader γ} {j j' j'' : Json}
  {k k' k'' : String} {a : α} {b : β} {c : γ} {d : δ}

theorem saves_record₁ {f : α → δ} (first : Saves r j a) (whole : f a = d) :
    Saves (readRecord? [k] fun depth fields =>
      match fields with
      | [x] => do return f (← required? r depth x)
      | _ => none) (record [(k, j)]) d := by
  subst whole
  refine saves_record rfl (by simp) ?_ ?_
  · simp [first.written]
  · intro n d
    simp [Option.bind_eq_some_iff, first.reads, and_assoc]

theorem saves_record₂ {f : α → β → δ} (distinct : [k, k'].Nodup) (first : Saves r j a)
    (second : Saves r' j' b) (whole : f a b = d) :
    Saves (readRecord? [k, k'] fun depth fields =>
      match fields with
      | [x, y] => do return f (← required? r depth x) (← required? r' depth y)
      | _ => none) (record [(k, j), (k', j')]) d := by
  subst whole
  refine saves_record rfl distinct ?_ ?_
  · simp [first.written, second.written]
  · intro n d
    simp [Option.bind_eq_some_iff, first.reads, second.reads, and_assoc]

theorem saves_record₃ {f : α → β → γ → δ} (distinct : [k, k', k''].Nodup) (first : Saves r j a)
    (second : Saves r' j' b) (third : Saves r'' j'' c) (whole : f a b c = d) :
    Saves (readRecord? [k, k', k''] fun depth fields =>
      match fields with
      | [x, y, z] => do
        return f (← required? r depth x) (← required? r' depth y) (← required? r'' depth z)
      | _ => none) (record [(k, j), (k', j'), (k'', j'')]) d := by
  subst whole
  refine saves_record rfl distinct ?_ ?_
  · simp [first.written, second.written, third.written]
  · intro n d
    simp [Option.bind_eq_some_iff, first.reads, second.reads, third.reads, and_assoc]

end Required

end SensorHost.Json
