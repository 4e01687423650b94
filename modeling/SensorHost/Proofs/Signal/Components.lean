import SensorHost.Proofs.LittleEndian
import SensorHost.Proofs.Operator.Frames
import SensorHost.Signal.Decoding

/-!
# What the components of a vector read

A vector walks through its fields one after the other, from where it starts in the frame. A
component is a signal of its own, with its own offset, kind and scale. Both read the same number from
every payload (`Signal.Made.component_reads`), whatever became of the vector since it was made: the
axes of a signal are always the views of its present frame, in its present place and with its present
scale.
-/

namespace SensorHost

/-! ## Signals that can be made -/

namespace Signal

/-- The signals that can be made: by a constructor, as the output or the state of a processor, or
from another one by a new scale, a new id, or a new place. -/
inductive Made : Signal → Prop
  | root (kind : Kind) (address : Address) (geometry : Geometry) : Made (root kind address geometry)
  | uint {address : Address} {width : UInt8} {s : Signal} : uint address width = .ok s → Made s
  | int {address : Address} {width : UInt8} {s : Signal} : int address width = .ok s → Made s
  | float {address : Address} {width : UInt8} {signed : Bool} {scale : Float32} {s : Signal} :
    float address width signed scale = .ok s → Made s
  | vector {address : Address} {components width : UInt8} {scale : Float32} {s : Signal} :
    vector address components width scale = .ok s → Made s
  | array (feed : Option Signal) (address : Address) (geometry : Geometry) (members : List Signal) :
    Made (array feed address geometry members)
  | derived (kind : Kind) (feed : Signal) (address : Address) (geometry : Geometry) :
    Made (derived kind feed address geometry)
  | persisted (kind : Kind) (address : Address) (geometry : Geometry) (scale : Float32) :
    Made (persisted kind address geometry scale)
  | output {op : Operator} {input : Signal} {p : Product} : op.product input = .ok p → Made p.output
  | state {op : Operator} {input s : Signal} {p : Product} : op.product input = .ok p →
    s ∈ p.state → Made s
  | withScale {s : Signal} (scale : Float32) : Made s → Made (s.withScale scale)
  | withId {s : Signal} (id : UInt8) : Made s → Made (s.withId id)
  | reparent {s : Signal} (feed : Signal) (address : Address) (geometry : Geometry) : Made s →
    Made (s.reparent feed address geometry)

theorem axisViews_withId (frame : Geometry) (address : Address) (scale : Float32)
    (offset id : UInt8) (widths : List UInt8) :
    axisViews frame (address.withId id) scale offset widths =
      (axisViews frame address scale offset widths).map fun axis =>
        { axis with address := axis.address.withId id } := by
  induction widths generalizing offset with
  | nil => rfl
  | cons width rest ih =>
      unfold axisViews
      cases frame.view offset [width] with
      | ok view =>
          simp only [List.map_cons]
          rw [ih]
      | error fault =>
          simp only
          rw [ih]

/-- Signals at different ids have the same scale. -/
theorem scale_withId (s : Signal) (id : UInt8) : (s.withId id).scale = s.scale := by
  obtain ⟨_, _, _, ownScale, feed, _, _⟩ := s
  cases ownScale with
  | some own => rfl
  | none => cases feed <;> rfl

theorem withAxes_withId {s : Signal} (own : s.withAxes = s) (id : UInt8) :
    (s.withId id).withAxes = s.withId id := by
  have axes : s.axes = s.withAxes.axes := by rw [own]
  have scale := s.scale_withId id
  unfold withAxes at axes ⊢
  rw [scale]
  cases kind : s.kind with
  | vector =>
      simp only [kind] at axes
      simp only [withId, kind, axisViews_withId, axes]
  | _ =>
      simp only [kind] at axes
      simp only [withId, kind, axes, List.map_nil]

theorem withAxes_array (feed : Option Signal) (address : Address) (geometry : Geometry)
    (members : List Signal) :
    (array feed address geometry members).withAxes = array feed address geometry members := rfl

/-- The axes of a signal are the views of its own frame. -/
theorem Made.withAxes_eq {s : Signal} (made : s.Made) : s.withAxes = s := by
  induction made with
  | root | derived | persisted => exact withAxes_withAxes _
  | uint accepted | int accepted | float accepted =>
      obtain ⟨_, -, eq⟩ := bind_eq_ok accepted
      obtain rfl := Except.ok.inj eq
      exact withAxes_withAxes _
  | vector accepted =>
      unfold Signal.vector at accepted
      split at accepted
      · obtain ⟨_, -, eq⟩ := bind_eq_ok accepted
        obtain rfl := Except.ok.inj eq
        exact withAxes_withAxes _
      · contradiction
  | array => exact withAxes_array ..
  | output produced => exact (Operator.follows_product _ _ _ produced).output.axes
  | state produced kept =>
      obtain ⟨_, follows, -⟩ := (Operator.follows_product _ _ _ produced).state_of_mem kept
      exact follows.axes
  | withScale | reparent => exact withAxes_withAxes _
  | withId id _ own => exact withAxes_withId own id

end Signal

/-! ## Reading one field -/

/-- An unsigned number of at most seven bytes is far from the sign bit of 64 bits. -/
theorem widen_unsigned (data : Frame) {width : Nat} (narrow : width ≤ 7) :
    widen data width false = LittleEndian.unsigned (data.take (min width 8)) := by
  have short : (data.take (min width 8)).length ≤ 7 := by
    rw [List.length_take]
    omega
  have bound : LittleEndian.unsigned (data.take (min width 8)) < 256 ^ 7 :=
    Nat.lt_of_lt_of_le (LittleEndian.unsigned_lt _) (Nat.pow_le_pow_right (by decide) short)
  have high : (LittleEndian.unsigned (data.take (min width 8)) : Int) * 2 < UInt64.size := by
    rw [UInt64.size]
    omega
  rw [widen, if_neg Bool.false_ne_true]
  exact Int.bmod_eq_of_le_mul_two (by omega) high

namespace Signal

/-- Each component of a vector is read where the fields before it end. -/
theorem getElem?_componentsOf (signed : Bool) (scale : Float32) (widths : List UInt8) (data : Frame)
    (i : Nat) :
    (componentsOf signed scale widths data)[i]? = widths[i]?.map fun width =>
      Single.ofInt (widen (data.drop (total UInt8.toNat (widths.take i))) width.toNat signed) /
        scale := by
  induction widths generalizing data i with
  | nil => rfl
  | cons width rest ih =>
      cases i with
      | zero => rfl
      | succ i =>
          rw [componentsOf, List.getElem?_cons_succ, ih, List.getElem?_cons_succ,
            List.take_succ_cons, total_cons, List.drop_drop]

theorem readingOf_vector {s : Signal} (vector : s.kind = .vector) (data : Frame) :
    s.readingOf data =
      .vector (componentsOf s.geometry.signed s.scale s.geometry.widths data) := by
  obtain ⟨kind, _, _, _, _, _, _⟩ := s
  obtain rfl : kind = .vector := vector
  rw [readingOf]

/-- The view of a field reads what the vector reads there, unless the field may have a number that
only 64 bits without a sign can hold. -/
theorem readingOf_axisView {frame : Geometry} {width : UInt8}
    (narrow : frame.signed = true ∨ width.toNat ≤ 7) (address : Address) (scale : Float32)
    (offset : UInt8) (data : Frame) :
    (axisView frame address scale offset width).readingOf data =
      .real (Single.ofInt (widen data width.toNat frame.signed) / scale) := by
  cases signed : frame.signed with
  | true =>
      simp only [axisView, signed, if_true, readingOf]
      rfl
  | false =>
      have narrow : width.toNat ≤ 7 := by
        rw [signed] at narrow
        exact narrow.resolve_left Bool.false_ne_true
      rw [widen_unsigned data narrow]
      simp only [axisView, signed, readingOf]
      rfl

/-- A component of a vector reads the same number from a payload as the vector does in its field. -/
theorem Made.component_reads {d c : Signal} (made : d.Made) (vector : d.kind = .vector)
    (valid : d.geometry.Valid) {i : Nat} (component : d.axes[i]? = some c)
    (narrow : d.geometry.signed = true ∨ ∀ width ∈ d.geometry.widths[i]?, width.toNat ≤ 7)
    (payload : Frame) :
    ∃ x components, c.reading payload false = .real x ∧
      d.reading payload false = .vector components ∧ components[i]? = some x := by
  rw [getElem?_axes made.withAxes_eq vector valid] at component
  obtain ⟨width, field, view⟩ := Option.bind_eq_some_iff.mp component
  split at view
  · rename_i inside
    obtain rfl := Option.some.inj view
    have narrow : d.geometry.signed = true ∨ width.toNat ≤ 7 := narrow.imp_right (· width field)
    have start : (UInt8.ofNat (d.geometry.fieldStart i)).toNat = d.geometry.fieldStart i := by
      have short := valid.2.1
      rw [UInt8.toNat_ofNat']
      omega
    refine ⟨_, _, readingOf_axisView narrow .., readingOf_vector vector _, ?_⟩
    have same : (axisView d.geometry d.address d.scale (UInt8.ofNat (d.geometry.fieldStart i))
        width).positioned payload false =
          (d.positioned payload false).drop (total UInt8.toNat (d.geometry.widths.take i)) := by
      show payload.drop (UInt8.ofNat (d.geometry.fieldStart i)).toNat =
        (payload.drop d.geometry.offset.toNat).drop _
      rw [start, List.drop_drop]
      rfl
    rw [getElem?_componentsOf, field, Option.map_some, same]
  · contradiction

/-- Three fields of different widths, the first of which is the third byte of the frame. The last
one would end beyond the frame. -/
def unevenVector : Signal :=
  ((root .vector ⟨ModuleId.sensorFusion, 7, noId⟩
    { widths := [1, 2, 4], units := 1, offset := 2, signed := false }).withScale 16).withId 5

/-- The second of these fields, of which the payload lacks a byte. -/
theorem Made.component_reads_uneven : ∃ c x components, unevenVector.Made ∧
    unevenVector.kind = .vector ∧ unevenVector.geometry.Valid ∧ unevenVector.axes.length = 2 ∧
    unevenVector.axes[1]? = some c ∧ c.reading [0, 0, 7, 200] false = .real x ∧
    unevenVector.reading [0, 0, 7, 200] false = .vector components ∧ components[1]? = some x := by
  have made : unevenVector.Made := .withId 5 (.withScale 16 (.root ..))
  have narrow : ∀ width ∈ unevenVector.geometry.widths[1]?, width.toNat ≤ 7 := by
    rintro _ ⟨rfl⟩
    decide
  obtain ⟨x, components, one, all, same⟩ :=
    made.component_reads rfl (by decide) rfl (.inr narrow) [0, 0, 7, 200]
  exact ⟨_, x, components, made, rfl, by decide, rfl, rfl, one, all, same⟩

end Signal

end SensorHost
