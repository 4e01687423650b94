import SensorHost.Proofs.Signal.Extent

/-!
# Bundles

A fuser joins the frame of its input with the states that other processors keep, and the members of
the bundle are read back from one frame, each from the whole rest of it. A signal is solid if there
is nothing in its frame but its units and, in a bundle, its members (`Signal.Solid`). No solid signal
reads beyond its frame (`Signal.Solid.readingOf_take`), by induction on the nesting, so the members of
what a fuser puts out do not see each other (`Signal.fused_tiled`).
-/

namespace SensorHost.Signal

/-! ## The members of a bundle -/

/-- The bytes of all these members. -/
def joinedLength (members : List Signal) : Nat := total (·.geometry.frameLength) members

@[simp] theorem joinedLength_cons (member : Signal) (rest : List Signal) :
    joinedLength (member :: rest) = member.geometry.frameLength + joinedLength rest := rfl

/-- The bytes of a member that comes after the members `before`, cut short where `data` is. -/
def memberBytes (before : List Signal) (member : Signal) (data : Frame) : Frame :=
  (data.drop (joinedLength before)).take member.geometry.frameLength

/-- The bytes of a member are those from its start on and before its end. -/
theorem memberBytes_congr {before : List Signal} {member : Signal} {a b : Frame}
    (same : ∀ i, joinedLength before ≤ i →
      i < joinedLength before + member.geometry.frameLength → a[i]? = b[i]?) :
    memberBytes before member a = memberBytes before member b := by
  refine List.ext_getElem? fun i => ?_
  simp only [memberBytes, List.getElem?_take, List.getElem?_drop]
  split
  · exact same _ (by omega) (by omega)
  · rfl

theorem readingOf_array {s : Signal} (array : s.kind = .array) (nonempty : s.members ≠ [])
    (data : Frame) : s.readingOf data = .array (readingsOf s.members data) := by
  obtain ⟨kind, _, _, _, _, _, members⟩ := s
  obtain rfl : kind = .array := array
  rw [readingOf, if_neg (by simpa using nonempty)]

/-- Each member is handed everything after the frames of the members before it. -/
theorem getElem?_readingsOf (members : List Signal) (data : Frame) (k : Nat) :
    (readingsOf members data)[k]? =
      members[k]?.map (·.readingOf (data.drop (joinedLength (members.take k)))) := by
  induction members generalizing data k with
  | nil =>
      rw [readingsOf]
      rfl
  | cons member rest ih =>
      rw [readingsOf]
      cases k with
      | zero => rfl
      | succ k =>
          rw [List.getElem?_cons_succ, ih, List.getElem?_cons_succ, List.take_succ_cons,
            joinedLength_cons]
          simp only [List.drop_drop]

theorem length_readingsOf (members : List Signal) (data : Frame) :
    (readingsOf members data).length = members.length := by
  induction members generalizing data with
  | nil => rw [readingsOf]; rfl
  | cons member rest ih => rw [readingsOf, List.length_cons, ih, List.length_cons]

/-- Members that do not read beyond their frames do not read beyond all of them. -/
theorem readingsOf_take {members : List Signal}
    (own : ∀ member ∈ members, ∀ data,
      member.readingOf (data.take member.geometry.frameLength) = member.readingOf data)
    (data : Frame) {limit : Nat} (inside : joinedLength members ≤ limit) :
    readingsOf members (data.take limit) = readingsOf members data := by
  induction members generalizing data limit with
  | nil => rw [readingsOf, readingsOf]
  | cons member rest ih =>
      rw [joinedLength_cons] at inside
      have first := own member (List.mem_cons_self ..)
      have head : member.readingOf (data.take limit) = member.readingOf data := by
        rw [← first (data.take limit), List.take_take, Nat.min_eq_left (by omega), first]
      rw [readingsOf, readingsOf, head, List.drop_take, ih _ _ (by omega)]
      intro later mem
      exact own later (List.mem_cons_of_mem _ mem)

/-! ## Solid signals -/

/-- There are bytes in every unit and at least one unit in the frame. The frames of the members of an
array are solid and fill one unit of it. -/
inductive Solid : Signal → Prop
  | plain {s : Signal} (kind : s.kind ≠ .array) (unit : s.geometry.unitLength ≠ 0)
    (units : 1 ≤ s.geometry.units) : Solid s
  | bundle {s : Signal} (kind : s.kind = .array) (unit : s.geometry.unitLength ≠ 0)
    (units : 1 ≤ s.geometry.units) (nonempty : s.members ≠ [])
    (members : ∀ member ∈ s.members, Solid member)
    (filled : joinedLength s.members = s.geometry.unitLength) : Solid s

namespace Solid

variable {s : Signal}

theorem unit (h : s.Solid) : s.geometry.unitLength ≠ 0 := by
  cases h with
  | plain _ unit => exact unit
  | bundle _ unit => exact unit

theorem units (h : s.Solid) : 1 ≤ s.geometry.units := by
  cases h with
  | plain _ _ units => exact units
  | bundle _ _ units => exact units

/-- The first unit of a solid signal is in its frame. -/
theorem unitLength_le_frameLength (h : s.Solid) :
    s.geometry.unitLength ≤ s.geometry.frameLength :=
  Nat.le_mul_of_pos_right _ h.units

theorem frameLength_ne_zero (h : s.Solid) : s.geometry.frameLength ≠ 0 :=
  Nat.ne_of_gt (Nat.lt_of_lt_of_le (Nat.pos_of_ne_zero h.unit) h.unitLength_le_frameLength)

/-- A solid signal reads no byte beyond its frame. -/
theorem readingOf_take (h : s.Solid) (data : Frame) :
    s.readingOf (data.take s.geometry.frameLength) = s.readingOf data := by
  have inside := h.unitLength_le_frameLength
  -- On the nesting: what holds of the members holds of them one after the other.
  induction h generalizing data with
  | plain kind unit units => exact Signal.readingOf_take kind unit data inside
  | bundle kind unit units nonempty members filled own =>
      have own : ∀ member ∈ _, ∀ data, _ := fun member mem data =>
        own member mem data (members member mem).unitLength_le_frameLength
      rw [readingOf_array kind nonempty, readingOf_array kind nonempty,
        readingsOf_take own data (filled ▸ inside)]

end Solid

/-! ## What a fuser puts out -/

theorem output_of_fused {input : Signal} {sources : List FusedSource} {p : Product}
    (fused : (Operator.fuser sources).product input = .ok p) :
    ∃ width : UInt8,
      width.toNat = joinedLength (input :: sources.map (·.state)) ∧
        p.output = array (some input) (.processorOutput noId)
          { widths := [width], units := 1, offset := 0, signed := false }
          (input :: sources.map (·.state)) := by
  obtain ⟨width, short, rest⟩ := bind_eq_ok fused
  obtain ⟨geometry, made, eq⟩ := bind_eq_ok rest
  obtain rfl := Except.ok.inj eq
  obtain rfl := Geometry.eq_of_make (Geometry.lift_eq_ok made)
  refine ⟨width, ?_, rfl⟩
  unfold Operator.lengthAsWidth at short
  split at short
  · rename_i length
    obtain rfl := Except.ok.inj short
    rw [UInt8.toNat_ofNat_of_lt' (Nat.lt_succ_of_le length), joinedLength, total_cons, total_map]
    rfl
  · contradiction

/-- How a bundle that starts at zero reads a payload. -/
structure ReadsTiled (s : Signal) (replayed : Bool) (payload : Frame) (items : List Reading) :
    Prop where
  whole : s.reading payload replayed = .array items
  count : items.length = s.members.length
  /-- Each item is what its member reads from its own bytes. -/
  own : ∀ (k : Nat) (member : Signal), s.members[k]? = some member →
    items[k]? = some (member.reading (memberBytes (s.members.take k) member payload) true)
  /-- In another payload with the same bytes of its member, an item is the same. -/
  apart : ∀ (k : Nat) (member : Signal), s.members[k]? = some member →
    ∀ other others, s.reading other replayed = .array others →
      (∀ i, joinedLength (s.members.take k) ≤ i →
        i < joinedLength (s.members.take k) + member.geometry.frameLength →
          other[i]? = payload[i]?) →
        others[k]? = items[k]?

/-- A solid bundle that starts at zero is tiled by its members. -/
theorem Solid.readsTiled {s : Signal} (h : s.Solid) (array : s.kind = .array)
    (start : s.geometry.offset = 0) (replayed : Bool) (payload : Frame) :
    ∃ items, s.ReadsTiled replayed payload items := by
  cases h with
  | plain kind => exact absurd array kind
  | bundle _ _ _ nonempty solid _ =>
      have reading (data : Frame) : s.reading data replayed = .array (readingsOf s.members data) := by
        have positioned : s.positioned data replayed = data := by
          cases replayed <;> simp [positioned, start]
        rw [Signal.reading, positioned, readingOf_array array nonempty]
      have own (data : Frame) {k : Nat} {member : Signal} (found : s.members[k]? = some member) :
          (readingsOf s.members data)[k]? =
            some (member.reading (memberBytes (s.members.take k) member data) true) := by
        have solid := solid member (List.mem_of_getElem? found)
        rw [getElem?_readingsOf, found, Option.map_some, ← solid.readingOf_take]
        rfl
      refine ⟨_, reading payload, length_readingsOf .., fun _ _ => own payload, ?_⟩
      intro k member found other others same agree
      obtain rfl : readingsOf s.members other = others :=
        Reading.array.inj ((reading other).symm.trans same)
      rw [own other found, own payload found, memberBytes_congr agree]

/-- The output of a fuser of solid signals is solid and tiled by its members: the input and the states
of the sources, in this order. -/
theorem fused_tiled {input : Signal} {sources : List FusedSource} {p : Product}
    (solid : input.Solid) (kept : ∀ source ∈ sources, source.state.Solid)
    (fused : (Operator.fuser sources).product input = .ok p) :
    p.output.Solid ∧ p.output.members = input :: sources.map (·.state) ∧
      ∀ replayed payload, ∃ items, p.output.ReadsTiled replayed payload items := by
  obtain ⟨width, length, output⟩ := output_of_fused fused
  have members : p.output.members = input :: sources.map (·.state) := by rw [output]; rfl
  have unit : p.output.geometry.unitLength = joinedLength p.output.members := by
    rw [members, ← length, output]
    rfl
  have bundle : p.output.Solid := by
    refine .bundle (by rw [output]; rfl) ?_ (by rw [output]; exact Nat.le_refl 1) ?_ ?_ unit.symm
    · have first := solid.frameLength_ne_zero
      rw [unit, members, joinedLength_cons]
      omega
    · rw [members]
      exact List.cons_ne_nil _ _
    · rw [members]
      intro member mem
      rcases List.mem_cons.mp mem with rfl | state
      · exact solid
      · obtain ⟨source, joined, rfl⟩ := List.mem_map.mp state
        exact kept source joined
  exact ⟨bundle, members, bundle.readsTiled (by rw [output]; rfl) (by rw [output]; rfl)⟩

/-- An unsigned number of two bytes and a signed one of one byte, joined before. -/
def innerBundle : Signal :=
  array none (.processorOutput 3) { widths := [3], units := 1, offset := 0, signed := false }
    [root .uint (.processorOutput 1) { widths := [2], units := 1, offset := 0, signed := false },
      root .int (.processorState 2) { widths := [1], units := 1, offset := 0, signed := true }]

theorem solid_innerBundle : innerBundle.Solid := by
  refine .bundle rfl (by decide) (by decide) (List.cons_ne_nil _ _) ?_ (by decide)
  exact List.forall_mem_cons.mpr ⟨.plain (by decide) (by decide) (by decide),
    List.forall_mem_singleton.mpr (.plain (by decide) (by decide) (by decide))⟩

/-- A state of two units of two bytes, and a flag. -/
def outerSources : List FusedSource :=
  [⟨5, root .bytes (.processorState 5) { widths := [2], units := 2, offset := 0, signed := false }⟩,
    ⟨6, root .bool (.processorState 6) { widths := [1], units := 1, offset := 0, signed := false }⟩]

theorem solid_outerSources : ∀ source ∈ outerSources, source.state.Solid :=
  List.forall_mem_cons.mpr ⟨.plain (by decide) (by decide) (by decide),
    List.forall_mem_singleton.mpr (.plain (by decide) (by decide) (by decide))⟩

/-- A payload that ends within the second member. -/
theorem fused_tiled_nested : ∃ p items,
    innerBundle.Solid ∧ (∀ source ∈ outerSources, source.state.Solid) ∧
      (Operator.fuser outerSources).product innerBundle = .ok p ∧ p.output.Solid ∧
      p.output.reading [16, 0, 255, 9] false = .array items ∧ items.length = 3 ∧
      items[0]? = some (innerBundle.reading [16, 0, 255] true) ∧
      ∀ others, p.output.reading [16, 0, 255] false = .array others → others[0]? = items[0]? := by
  have fused : (Operator.fuser outerSources).product innerBundle = .ok _ := rfl
  obtain ⟨solid, -, reads⟩ := fused_tiled solid_innerBundle solid_outerSources fused
  obtain ⟨items, tiled⟩ := reads false [16, 0, 255, 9]
  refine ⟨_, items, solid_innerBundle, solid_outerSources, fused, solid, tiled.whole, tiled.count,
    tiled.own 0 _ rfl, fun others read => tiled.apart 0 _ rfl [16, 0, 255] others read ?_⟩
  intro i _ before
  obtain before : i < 3 := before
  rcases i with _ | _ | _ | i
  · rfl
  · rfl
  · rfl
  · omega

end SensorHost.Signal
