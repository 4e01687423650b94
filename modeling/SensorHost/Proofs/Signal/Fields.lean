import SensorHost.Proofs.Signal.Components

/-!
# Vectors with an axis for every field

A view is checked against the length of the frame, but it starts where the vector starts in the frame
of its producer. So a vector that does not start at zero can lose the axes of its last fields, which
are left out without a word: there is an axis for every field if the vector ends inside a frame of its
own length, and not otherwise (`Signal.Made.hasEveryAxis_iff`). A vector that starts at zero, like all
that `Signal.vector` makes and all that processors put out, has them all.
-/

namespace SensorHost

namespace Geometry

/-- A field ends where the next one starts. -/
theorem fieldStart_succ {g : Geometry} {i : Nat} {width : UInt8} (field : g.widths[i]? = some width) :
    g.fieldStart (i + 1) = g.fieldStart i + width.toNat := by
  simp [fieldStart, List.take_add_one, field, total_append, Nat.add_assoc]

/-- The last field ends where the unit does. -/
theorem fieldStart_length (g : Geometry) :
    g.fieldStart g.widths.length = g.offset.toNat + g.unitLength := by
  rw [fieldStart, List.take_length]
  rfl

theorem fieldStart_le (g : Geometry) (i : Nat) :
    g.fieldStart i ≤ g.offset.toNat + g.unitLength := by
  have split : total UInt8.toNat (g.widths.take i) + total UInt8.toNat (g.widths.drop i) =
      g.unitLength := by
    rw [← total_append, List.take_append_drop]
    rfl
  unfold fieldStart
  omega

end Geometry

namespace Signal

/-- The axis is the view of field `i` alone, in the place of the vector. -/
structure ShowsField (axis d : Signal) (i : Nat) (width : UInt8) : Prop where
  address : axis.address = d.address
  field : axis.geometry.widths = [width]
  units : axis.geometry.units = 1
  start : axis.geometry.offset.toNat = d.geometry.fieldStart i
  signed : axis.geometry.signed = d.geometry.signed

/-- Every field has an axis, in the order of the fields, and there are no other axes. -/
structure HasEveryAxis (d : Signal) : Prop where
  count : d.axes.length = d.geometry.widths.length
  shown : ∀ (i : Nat) (width : UInt8), d.geometry.widths[i]? = some width →
    ∃ axis, d.axes[i]? = some axis ∧ axis.ShowsField d i width

namespace Made

variable {d : Signal}

/-- A field that ends inside the frame has an axis. -/
theorem axis_of_inside (made : d.Made) (vector : d.kind = .vector) (valid : d.geometry.Valid)
    {i : Nat} {width : UInt8} (field : d.geometry.widths[i]? = some width)
    (inside : d.geometry.fieldStart i + width.toNat ≤ d.geometry.frameLength) :
    ∃ axis, d.axes[i]? = some axis ∧ axis.ShowsField d i width := by
  have start : (UInt8.ofNat (d.geometry.fieldStart i)).toNat = d.geometry.fieldStart i := by
    have short := valid.2.1
    rw [UInt8.toNat_ofNat']
    omega
  have axis := getElem?_axes made.withAxes_eq vector valid i
  rw [field, Option.bind_some, if_pos inside] at axis
  exact ⟨_, axis, rfl, rfl, rfl, start, rfl⟩

theorem no_axis_of_beyond (made : d.Made) (vector : d.kind = .vector) (valid : d.geometry.Valid)
    {i : Nat} {width : UInt8} (field : d.geometry.widths[i]? = some width)
    (beyond : d.geometry.frameLength < d.geometry.fieldStart i + width.toNat) :
    d.axes[i]? = none := by
  rw [getElem?_axes made.withAxes_eq vector valid, field, Option.bind_some,
    if_neg (Nat.not_le.mpr beyond)]

theorem hasEveryAxis_of_inside (made : d.Made) (vector : d.kind = .vector)
    (valid : d.geometry.Valid)
    (inside : ∀ (i : Nat) (width : UInt8), d.geometry.widths[i]? = some width →
      d.geometry.fieldStart i + width.toNat ≤ d.geometry.frameLength) :
    d.HasEveryAxis := by
  have shown (i : Nat) (width : UInt8) (field : d.geometry.widths[i]? = some width) :=
    made.axis_of_inside vector valid field (inside i width field)
  refine ⟨Nat.le_antisymm ?_ ?_, shown⟩
  · rw [← List.getElem?_eq_none_iff, getElem?_axes made.withAxes_eq vector valid,
      List.getElem?_eq_none (Nat.le_refl _)]
    rfl
  · apply Nat.le_of_not_lt
    intro fewer
    obtain ⟨axis, some, -⟩ := shown _ _ (List.getElem?_eq_getElem fewer)
    rw [List.getElem?_eq_none (Nat.le_refl _)] at some
    contradiction

/-- The last field ends where the vector does. -/
theorem inside_of_hasEveryAxis (made : d.Made) (vector : d.kind = .vector)
    (valid : d.geometry.Valid) (every : d.HasEveryAxis) (nonempty : d.geometry.widths ≠ []) :
    d.geometry.offset.toNat + d.geometry.unitLength ≤ d.geometry.frameLength := by
  obtain ⟨before, last, widths⟩ := (List.eq_nil_or_concat d.geometry.widths).resolve_left nonempty
  have field : d.geometry.widths[before.length]? = some last := by
    rw [widths, List.concat_eq_append, List.getElem?_concat_length]
  have length : before.length + 1 = d.geometry.widths.length := by
    rw [widths, List.length_concat]
  have ends := Geometry.fieldStart_succ field
  rw [length, Geometry.fieldStart_length] at ends
  apply Nat.le_of_not_lt
  intro beyond
  obtain ⟨axis, some, -⟩ := every.shown _ _ field
  rw [made.no_axis_of_beyond vector valid field (ends ▸ beyond)] at some
  contradiction

/-- A vector has an axis for every field exactly if it ends inside a frame of its own length, and so
always if it starts at zero. Whatever its fields, those that end inside the frame have an axis and the
others have none. -/
theorem hasEveryAxis_iff (made : d.Made) (vector : d.kind = .vector) (valid : d.geometry.Valid) :
    (d.HasEveryAxis ↔ d.geometry.widths = [] ∨
      d.geometry.offset.toNat + d.geometry.unitLength ≤ d.geometry.frameLength) ∧
      (d.geometry.offset = 0 → 1 ≤ d.geometry.units → d.HasEveryAxis) ∧
      ∀ (i : Nat) (width : UInt8), d.geometry.widths[i]? = some width →
        (d.geometry.fieldStart i + width.toNat ≤ d.geometry.frameLength →
          ∃ axis, d.axes[i]? = some axis ∧ axis.ShowsField d i width) ∧
        (d.geometry.frameLength < d.geometry.fieldStart i + width.toNat → d.axes[i]? = none) := by
  have all (inside : d.geometry.offset.toNat + d.geometry.unitLength ≤ d.geometry.frameLength) :
      d.HasEveryAxis := by
    apply made.hasEveryAxis_of_inside vector valid
    intro i width field
    rw [← Geometry.fieldStart_succ field]
    exact Nat.le_trans (d.geometry.fieldStart_le _) inside
  refine ⟨⟨?ends, ?every⟩, ?zero, ?fields⟩
  case ends =>
    intro every
    by_cases none : d.geometry.widths = []
    · exact .inl none
    · exact .inr (made.inside_of_hasEveryAxis vector valid every none)
  case every =>
    rintro (none | inside)
    · apply made.hasEveryAxis_of_inside vector valid
      intro i width field
      rw [none] at field
      contradiction
    · exact all inside
  case zero =>
    intro start units
    apply all
    rw [start]
    simpa [Geometry.frameLength] using Nat.le_mul_of_pos_right d.geometry.unitLength units
  case fields =>
    intro i width field
    exact ⟨made.axis_of_inside vector valid field, made.no_axis_of_beyond vector valid field⟩

end Made

/-- Two units of uneven fields, the first of which starts at the sixth byte. -/
def doubleVector : Signal :=
  root .vector ⟨ModuleId.sensorFusion, 7, noId⟩
    { widths := [1, 2, 4], units := 2, offset := 5, signed := false }

theorem Made.hasEveryAxis_iff_double : doubleVector.Made ∧ doubleVector.kind = .vector ∧
    doubleVector.geometry.Valid ∧ doubleVector.HasEveryAxis := by
  have made : doubleVector.Made := .root ..
  exact ⟨made, rfl, by decide, (made.hasEveryAxis_iff rfl (by decide)).1.mpr (.inr (by decide))⟩

/-- A vector of three components that starts at the third byte. -/
def shiftedTriple : Signal :=
  root .vector ⟨ModuleId.accelerometer, 4, noId⟩
    { widths := [2, 2, 2], units := 1, offset := 2, signed := true }

/-- Its last component has no axis, although its geometry was accepted. -/
theorem Made.last_axis_missing : shiftedTriple.Made ∧ shiftedTriple.kind = .vector ∧
    Geometry.make [2, 2, 2] 1 2 true = .ok shiftedTriple.geometry ∧
    1 ≤ shiftedTriple.geometry.units ∧ shiftedTriple.axes[2]? = none ∧
    ¬ shiftedTriple.HasEveryAxis :=
  ⟨.root .., rfl, rfl, by decide, rfl, fun every => absurd every.count (by decide)⟩

end Signal

end SensorHost
