import SensorHost.Operator.Product
import SensorHost.Proofs.Signal.Axes
import SensorHost.Proofs.Success
import SensorHost.Signal.Decoding

/-!
# How far signals read

A signal is handed the whole rest of a frame, of which only its own unit concerns it. Unless it is an
array, it reads no byte beyond that unit (`Signal.readingOf_take`), whatever its kind and however long
its fields are. So the units that a packer has put one behind the other do not disturb each other: the
samples of a packed frame are the readings of its units, one by one (`Signal.samples_of_packed`).
-/

namespace SensorHost

theorem Geometry.firstWidth_le_unitLength (g : Geometry) : g.firstWidth.toNat ≤ g.unitLength := by
  obtain ⟨widths, _, _, _⟩ := g
  cases widths with
  | nil => exact Nat.le_refl 0
  | cons width rest => exact Nat.le_add_right ..

/-! ## Bytes beyond the unit -/

/-- The first bytes of a frame are the first bytes of any longer part of it. -/
theorem take_field (data : Frame) {width limit : Nat} (inside : width ≤ limit) :
    (data.take limit).take (min width 8) = data.take (min width 8) := by
  rw [List.take_take, Nat.min_eq_left (Nat.le_trans (Nat.min_le_left ..) inside)]

theorem widen_take (data : Frame) {width limit : Nat} (inside : width ≤ limit) (signed : Bool) :
    widen (data.take limit) width signed = widen data width signed := by
  simp only [widen, take_field data inside]

namespace Signal

theorem componentsOf_take (signed : Bool) (scale : Float32) {widths : List UInt8} (data : Frame)
    {limit : Nat} (inside : total UInt8.toNat widths ≤ limit) :
    componentsOf signed scale widths (data.take limit) =
      componentsOf signed scale widths data := by
  induction widths generalizing data limit with
  | nil => rfl
  | cons width rest ih =>
      rw [total_cons] at inside
      rw [componentsOf, componentsOf, widen_take data (by omega), List.drop_take,
        ih _ (by omega)]

/-- A signal that is no array reads no byte beyond its unit. -/
theorem readingOf_take {s : Signal} (plain : s.kind ≠ .array)
    (nonempty : s.geometry.unitLength ≠ 0) (data : Frame) {limit : Nat}
    (inside : s.geometry.unitLength ≤ limit) :
    s.readingOf (data.take limit) = s.readingOf data := by
  have first := Nat.le_trans s.geometry.firstWidth_le_unitLength inside
  have some : limit ≠ 0 := by omega
  obtain ⟨kind, address, geometry, ownScale, feed, axes, members⟩ := s
  cases kind with
  | uint | int | ufloat | sfloat =>
      simp only [readingOf, widen_take data first, take_field data first]
  | bool =>
      -- A flag has at least the byte that it is read from.
      simp only [readingOf, List.head?_take]
      rw [if_neg some]
  | vector => simp only [readingOf, componentsOf_take _ _ data inside]
  | bytes =>
      simp only [readingOf]
      rw [if_neg nonempty, if_neg nonempty, List.take_take, Nat.min_eq_left inside]
  | array => exact absurd rfl plain

/-! ## Packed units -/

/-- What a signal that is no array reads is decided by its kind, its fields, their sign and the
scale. -/
theorem readingOf_congr {a b : Signal} (plain : b.kind ≠ .array) (kind : a.kind = b.kind)
    (widths : a.geometry.widths = b.geometry.widths) (signed : a.geometry.signed = b.geometry.signed)
    (scale : a.scale = b.scale) (data : Frame) : a.readingOf data = b.readingOf data := by
  have first : a.geometry.firstWidth = b.geometry.firstWidth := congrArg (·.head?.getD 0) widths
  have unit : a.geometry.unitLength = b.geometry.unitLength := congrArg (total UInt8.toNat) widths
  obtain ⟨kind', _, geometry, _, _, _, _⟩ := a
  obtain ⟨_, _, geometry', _, _, _, _⟩ := b
  obtain rfl : kind' = _ := kind
  simp only at widths signed first unit
  cases kind' with
  | array => exact absurd rfl plain
  | _ => simp only [readingOf, widths, signed, first, unit, scale]

/-- A packer repeats the frame of its input, at least once. -/
theorem output_of_packed {input : Signal} {count : UInt8} {p : Product}
    (packed : (Operator.packer count).product input = .ok p) :
    1 ≤ count ∧
      p.output = input.outputLike { input.geometry with units := count, offset := 0 } := by
  unfold Operator.product at packed
  simp only at packed
  split at packed
  · rename_i allowed
    obtain ⟨geometry, made, eq⟩ := bind_eq_ok packed
    obtain rfl := Except.ok.inj eq
    obtain rfl := Geometry.eq_of_make (Geometry.lift_eq_ok made)
    exact ⟨allowed.1, rfl⟩
  · contradiction

/-- An output of the same kind and the same fields reads what its input reads. -/
theorem readingOf_outputLike {input : Signal} (plain : input.kind ≠ .array) {g : Geometry}
    (widths : g.widths = input.geometry.widths) (signed : g.signed = input.geometry.signed)
    (data : Frame) : (input.outputLike g).readingOf data = input.readingOf data := by
  have kind : (input.outputLike g).kind = input.kind := rfl
  have scale : (input.outputLike g).scale = input.scale := by
    unfold outputLike reparent
    rw [scale_withAxes, Signal.scale]
  exact readingOf_congr plain kind widths signed scale data

/-- What is read from the units of a frame, each with everything after it, is what is read from them
one by one if nothing after a unit matters. -/
theorem map_units {α : Type} (read : Frame → α) {length : Nat} {units : List Frame}
    (whole : ∀ unit ∈ units, unit.length = length)
    (own : ∀ unit ∈ units, ∀ rest, read (unit ++ rest) = read unit) :
    (List.range units.length).map (fun i => read (units.flatten.drop (i * length))) =
      units.map read := by
  induction units with
  | nil => rfl
  | cons unit rest ih =>
      have later (i : Nat) : (unit ++ rest.flatten).drop ((i + 1) * length) =
          rest.flatten.drop (i * length) := by
        rw [Nat.succ_mul, Nat.add_comm, ← List.drop_drop, ← whole unit (List.mem_cons_self ..),
          List.drop_left]
      rw [List.length_cons, List.range_succ_eq_map, List.map_cons, List.map_map, List.map_cons,
        List.flatten_cons, Nat.zero_mul, List.drop_zero, own unit (List.mem_cons_self ..)]
      simp only [Function.comp_def, Nat.succ_eq_add_one, later]
      rw [ih]
      · intro u mem
        exact whole u (List.mem_cons_of_mem _ mem)
      · intro u mem
        exact own u (List.mem_cons_of_mem _ mem)

/-- The samples of packed units are the readings of these units, each by itself. -/
theorem samples_of_packed {input : Signal} {count : UInt8} {p : Product}
    (plain : input.kind ≠ .array) (nonempty : input.geometry.unitLength ≠ 0)
    (packed : (Operator.packer count).product input = .ok p) {units : List Frame}
    (counted : units.length = count.toNat)
    (whole : ∀ unit ∈ units, unit.length = input.geometry.unitLength) (replayed : Bool) :
    p.output.samples units.flatten replayed =
      units.map fun unit => ⟨p.output.address, input.reading unit true⟩ := by
  obtain ⟨positive, output⟩ := output_of_packed packed
  have count_eq : p.output.geometry.units = count := by rw [output]; rfl
  have length : p.output.geometry.unitLength = input.geometry.unitLength := by rw [output]; rfl
  have positioned : p.output.positioned units.flatten replayed = units.flatten := by
    rw [output]
    cases replayed <;> rfl
  have reads (data : Frame) : p.output.readingOf data = input.readingOf data := by
    rw [output]
    exact readingOf_outputLike plain rfl rfl data
  have own : ∀ unit ∈ units, ∀ rest, input.readingOf (unit ++ rest) = input.readingOf unit := by
    intro unit mem rest
    rw [← readingOf_take plain nonempty (unit ++ rest) (Nat.le_refl _), ← whole unit mem,
      List.take_left]
  unfold samples
  rw [count_eq, length]
  simp only [nonempty, or_false, sample, reading, positioned, reads]
  split
  · -- A single unit is decoded as a whole.
    rename_i single
    obtain ⟨unit, rfl⟩ : ∃ unit, units = [unit] := by
      refine List.length_eq_one_iff.mp ?_
      have low : 1 ≤ count.toNat := positive
      have high : count.toNat ≤ 1 := single
      omega
    rw [List.flatten_singleton]
    rfl
  · rw [← counted]
    apply map_units (fun data => Sample.mk p.output.address (input.readingOf data)) whole
    intro unit mem rest
    exact congrArg (Sample.mk _) (own unit mem rest)

/-- The second of two signed components of nine bytes each. -/
def wideAxis : Signal :=
  axisView { widths := [9, 9], units := 1, offset := 0, signed := true } ⟨3, 4, 255⟩ 16 9 9

/-- Three of its values, the second of which is negative. -/
def wideUnits : List Frame :=
  [[1, 2, 3, 4, 5, 6, 7, 8, 9], List.replicate 9 255, List.replicate 9 0]

theorem samples_of_packed_wide : ∃ p,
    wideAxis.kind ≠ .array ∧ wideAxis.geometry.unitLength ≠ 0 ∧
      (Operator.packer 3).product wideAxis = .ok p ∧ wideUnits.length = (3 : UInt8).toNat ∧
      (∀ unit ∈ wideUnits, unit.length = wideAxis.geometry.unitLength) ∧
      p.output.samples wideUnits.flatten false =
        [⟨.processorOutput noId, wideAxis.reading [1, 2, 3, 4, 5, 6, 7, 8, 9] true⟩,
          ⟨.processorOutput noId, wideAxis.reading (List.replicate 9 255) true⟩,
          ⟨.processorOutput noId, wideAxis.reading (List.replicate 9 0) true⟩] := by
  have packed : (Operator.packer 3).product wideAxis = .ok _ := rfl
  have whole : ∀ unit ∈ wideUnits, unit.length = wideAxis.geometry.unitLength := by decide
  exact ⟨_, by decide, by decide, packed, by decide, whole,
    samples_of_packed (by decide) (by decide) packed (by decide) whole false⟩

end Signal

end SensorHost
