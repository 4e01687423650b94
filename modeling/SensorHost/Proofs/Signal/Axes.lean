import SensorHost.Proofs.Geometry
import SensorHost.Proofs.Success
import SensorHost.Signal.Basic

/-!
# Axes of vectors

An axis is a view of one field of a vector's frame. It lies in the same place, is a valid frame
whatever the vector's is, and has the sign of the vector (`Signal.IsAxis`). The axis of a field
starts where the fields before it end, and only the fields that end inside the frame have one
(`Signal.getElem?_axes`).
-/

namespace SensorHost

/-- A view is checked like any other geometry, and has the sign of its frame. -/
theorem Geometry.make_of_view {g v : Geometry} {offset : UInt8} {widths : List UInt8}
    (h : g.view offset widths = .ok v) : make widths 1 offset g.signed = .ok v := by
  obtain ⟨checked, made, inside⟩ := bind_eq_ok h
  split at inside
  · contradiction
  · obtain rfl : checked = v := Except.ok.inj inside
    exact made

namespace Signal

/-- What every axis of a signal has of it. -/
structure IsAxis (axis s : Signal) : Prop where
  address : axis.address = s.address
  kind : axis.kind = if s.geometry.signed then .sfloat else .ufloat
  view : ∃ offset width, s.geometry.view offset [width] = .ok axis.geometry

namespace IsAxis

variable {axis s : Signal}

theorem valid (h : axis.IsAxis s) : axis.geometry.Valid := by
  obtain ⟨_, _, view⟩ := h.view
  exact Geometry.valid_of_make (Geometry.make_of_view view)

theorem signed (h : axis.IsAxis s) : axis.geometry.signed = s.geometry.signed := by
  obtain ⟨_, _, view⟩ := h.view
  rw [Geometry.eq_of_make (Geometry.make_of_view view)]

end IsAxis

theorem isAxis_of_mem_axisViews {s axis : Signal} {scale : Float32} {offset : UInt8}
    {widths : List UInt8} (mem : axis ∈ axisViews s.geometry s.address scale offset widths) :
    axis.IsAxis s := by
  induction widths generalizing offset with
  | nil => nomatch mem
  | cons width widths ih =>
      unfold axisViews at mem
      simp only at mem
      split at mem
      · rename_i view
        rcases List.mem_cons.mp mem with rfl | later
        · exact ⟨rfl, rfl, offset, width, view⟩
        · exact ih later
      · exact ih mem

theorem isAxis_of_mem_withAxes {s axis : Signal} (mem : axis ∈ s.withAxes.axes) :
    axis.IsAxis s := by
  unfold withAxes at mem
  cases kind : s.kind with
  | vector =>
      simp only [kind] at mem
      exact isAxis_of_mem_axisViews mem
  | _ =>
      simp only [kind] at mem
      nomatch mem

/-- The axes of a signal are in its own place. -/
theorem address_of_mem_withAxes {s axis : Signal} (mem : axis ∈ s.withAxes.axes) :
    axis.address = s.address :=
  (isAxis_of_mem_withAxes mem).address

/-- The scale of a signal does not come from its axes. -/
theorem scale_withAxes (s : Signal) : s.withAxes.scale = s.scale := by
  obtain ⟨_, _, _, ownScale, feed, _, _⟩ := s
  cases ownScale with
  | some own => simp only [withAxes, scale]
  | none => cases feed <;> simp only [withAxes, scale]

theorem withAxes_withAxes (s : Signal) : s.withAxes.withAxes = s.withAxes := by
  have same := s.scale_withAxes
  unfold withAxes at same ⊢
  simp only [same]

/-- The view of one field of a frame. -/
def axisView (frame : Geometry) (address : Address) (scale : Float32) (offset width : UInt8) :
    Signal where
  kind := if frame.signed then .sfloat else .ufloat
  address := address
  geometry := { widths := [width], units := 1, offset, signed := frame.signed }
  ownScale := some scale
  feed := none
  axes := []
  members := []

variable {frame : Geometry} {address : Address} {scale : Float32} {offset : UInt8}
  {widths : List UInt8}

/-- Nothing is seen beyond the end of a frame. -/
theorem axisViews_eq_nil (beyond : frame.frameLength < offset.toNat) :
    axisViews frame address scale offset widths = [] := by
  induction widths generalizing offset with
  | nil => rfl
  | cons width rest ih =>
      have next : frame.frameLength <
          (UInt8.ofNat (min (offset.toNat + width.toNat) 255)).toNat := by
        have := offset.toNat_lt
        rw [UInt8.toNat_ofNat']
        omega
      unfold axisViews
      simp only
      split
      · rename_i view
        obtain ⟨checked, made, inside⟩ := bind_eq_ok view
        split at inside
        · contradiction
        · omega
      · exact ih next

/-- The views of fields are the views of those that end inside the frame, each one starting where
the fields before it end. -/
theorem getElem?_axisViews (nonzero : 0 ∉ widths)
    (short : offset.toNat + total UInt8.toNat widths ≤ 255) (i : Nat) :
    (axisViews frame address scale offset widths)[i]? = widths[i]?.bind fun width =>
      let start := offset.toNat + total UInt8.toNat (widths.take i)
      if start + width.toNat ≤ frame.frameLength then
        some (axisView frame address scale (UInt8.ofNat start) width)
      else none := by
  induction widths generalizing offset i with
  | nil => rfl
  | cons width rest ih =>
      rw [List.mem_cons, not_or] at nonzero
      rw [total_cons] at short
      have next : (UInt8.ofNat (min (offset.toNat + width.toNat) 255)).toNat =
          offset.toNat + width.toNat := by
        rw [UInt8.toNat_ofNat']
        omega
      unfold axisViews
      rw [Geometry.view_singleton (Ne.symm nonzero.1) (by omega)]
      by_cases fits : offset.toNat + width.toNat ≤ frame.frameLength
      · simp only [if_pos fits]
        cases i with
        | zero => simp [fits, axisView]
        | succ i =>
            rw [List.getElem?_cons_succ, ih nonzero.2 (by omega), next]
            simp [Nat.add_assoc]
      · -- What follows a field that ends beyond the frame does so as well.
        simp only [if_neg fits]
        rw [axisViews_eq_nil (by omega)]
        cases i with
        | zero => simp [fits]
        | succ i =>
            rw [List.getElem?_nil, List.getElem?_cons_succ, List.take_succ_cons]
            cases rest[i]? with
            | none => rfl
            | some later =>
                have far : ¬ offset.toNat + total UInt8.toNat (width :: rest.take i) + later.toNat ≤
                    frame.frameLength := by
                  rw [total_cons]
                  omega
                rw [Option.bind_some]
                exact (if_neg far).symm

end Signal

/-- Where a field of a view starts in the frame. -/
def Geometry.fieldStart (g : Geometry) (i : Nat) : Nat :=
  g.offset.toNat + total UInt8.toNat (g.widths.take i)

/-- The axes of a vector that has its own ones. -/
theorem Signal.getElem?_axes {s : Signal} (own : s.withAxes = s) (vector : s.kind = .vector)
    (valid : s.geometry.Valid) (i : Nat) :
    s.axes[i]? = s.geometry.widths[i]?.bind fun width =>
      if s.geometry.fieldStart i + width.toNat ≤ s.geometry.frameLength then
        some (axisView s.geometry s.address s.scale (UInt8.ofNat (s.geometry.fieldStart i)) width)
      else none := by
  obtain ⟨nonzero, -, short⟩ := valid
  have axes : s.axes =
      axisViews s.geometry s.address s.scale s.geometry.offset s.geometry.widths := by
    calc s.axes = s.withAxes.axes := by rw [own]
      _ = _ := by simp only [withAxes, vector]
  rw [axes]
  exact getElem?_axisViews nonzero short i

end SensorHost
