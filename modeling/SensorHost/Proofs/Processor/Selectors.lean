import SensorHost.Proofs.Processor.Lineage
import SensorHost.Proofs.Signal.Axes

/-!
# What selectors tell apart

The byte that selects the input frame of a processor keeps three bits of the length and five of the
offset. So whether it names one view of a vector or several depends on the number of the components
and on their width: a component is taken for the whole vector exactly if its byte is that of the
whole vector (`Signal.viewFor_of_vector`).
-/

namespace SensorHost

/-! ## Selectors -/

namespace Geometry

/-- The length that the selector keeps, less one. -/
def keptLength (g : Geometry) : Nat := (min g.frameLength 255 - 1) % 8

theorem toNat_selector (g : Geometry) :
    g.selector.toNat = g.keptLength * 32 + g.offset.toNat % 32 := by
  have length : (UInt8.ofNat (min g.frameLength 255 - 1)).toNat % 2 ^ 3 = g.keptLength := by
    rw [UInt8.toNat_ofNat_of_lt' (by omega : min g.frameLength 255 - 1 < 256)]
    rfl
  have offset : (g.offset &&& 0x1f).toNat = g.offset.toNat % 32 := by
    rw [← Operator.slot_zero, Operator.toNat_slot 5 rfl (by decide) (by decide)]
    exact Nat.mul_one _
  have below : (g.offset &&& 0x1f).toNat < 32 := by
    rw [offset]
    exact Nat.mod_lt _ (by decide)
  calc g.selector.toNat
      = ((g.offset &&& 0x1f) ||| Operator.slot (UInt8.ofNat (min g.frameLength 255 - 1)) 0x7 5).toNat :=
        congrArg UInt8.toNat (UInt8.or_comm ..)
    _ = (UInt8.ofNat (min g.frameLength 255 - 1)).toNat % 2 ^ 3 * 32 + (g.offset &&& 0x1f).toNat :=
        Operator.toNat_or_slot below 3 rfl (by decide) (by decide)
    _ = g.keptLength * 32 + g.offset.toNat % 32 := by rw [length, offset]

/-- Two frames have the same selector if both numbers agree that it keeps. -/
theorem selector_eq_iff {g g' : Geometry} :
    g.selector = g'.selector ↔
      g.keptLength = g'.keptLength ∧ g.offset.toNat % 32 = g'.offset.toNat % 32 := by
  rw [← UInt8.toNat_inj, toNat_selector, toNat_selector]
  omega

end Geometry

/-! ## Vectors and their components -/

namespace Signal

/-- The frame of a vector. -/
def vectorFrame (components width : UInt8) : Geometry where
  widths := List.replicate components.toNat width
  units := 1
  offset := 0
  signed := true

variable {address : Address} {components width : UInt8} {scale : Float32} {root : Signal}

theorem frameLength_vectorFrame (components width : UInt8) :
    (vectorFrame components width).frameLength = components.toNat * width.toNat := by
  simp [Geometry.frameLength, Geometry.unitLength, vectorFrame, total_replicate]

/-- What a vector that was accepted consists of. -/
structure IsVector (root : Signal) (components width : UInt8) : Prop where
  count : components = 2 ∨ components = 3
  kind : root.kind = .vector
  geometry : root.geometry = vectorFrame components width
  valid : root.geometry.Valid
  own : root.withAxes = root

theorem isVector_of_vector (made : vector address components width scale = .ok root) :
    root.IsVector components width := by
  unfold vector at made
  by_cases count : components = 2 ∨ components = 3
  · simp only [if_pos count] at made
    obtain ⟨g, accepted, eq⟩ := bind_eq_ok made
    obtain rfl := Except.ok.inj eq
    have frame : g = vectorFrame components width := Geometry.eq_of_make accepted
    exact ⟨count, rfl, frame, Geometry.valid_of_make accepted, withAxes_withAxes _⟩
  · simp only [if_neg count] at made
    contradiction

namespace IsVector

variable (h : root.IsVector components width)
include h

theorem fits : components.toNat * width.toNat ≤ 255 := by
  obtain ⟨-, short, -⟩ := h.valid
  rw [h.geometry, frameLength_vectorFrame] at short
  exact short

theorem width_pos : 0 < width.toNat := by
  obtain ⟨nonzero, -, -⟩ := h.valid
  rw [h.geometry] at nonzero
  rcases h.count with rfl | rfl <;>
    · have : ¬ 0 = width := fun zero => nonzero (zero ▸ List.mem_cons_self)
      have : width.toNat ≠ 0 := fun zero => this (UInt8.toNat_inj.mp zero.symm)
      omega

theorem getElem?_axes (i : Nat) :
    root.axes[i]? = if i < components.toNat then
      some (axisView root.geometry root.address root.scale (UInt8.ofNat (i * width.toNat)) width)
    else none := by
  rw [Signal.getElem?_axes h.own h.kind h.valid]
  have frame := frameLength_vectorFrame components width
  by_cases bound : i < components.toNat
  · have start : root.geometry.fieldStart i = i * width.toNat := by
      have least : min i components.toNat = i := by omega
      simp [Geometry.fieldStart, h.geometry, vectorFrame, List.take_replicate, total_replicate,
        least]
    have inside : i * width.toNat + width.toNat ≤ components.toNat * width.toNat := by
      rw [← Nat.succ_mul]
      exact Nat.mul_le_mul_right _ bound
    have field : root.geometry.widths[i]? = some width := by
      simp [h.geometry, vectorFrame, bound]
    have length : root.geometry.frameLength = components.toNat * width.toNat := by
      rw [h.geometry, frame]
    rw [field, Option.bind_some, start, length, if_pos inside, if_pos bound]
  · have field : root.geometry.widths[i]? = none := by
      simp [h.geometry, vectorFrame, bound]
    rw [field, Option.bind_none, if_neg bound]

theorem lt_of_axis {i : Nat} {axis : Signal} (found : root.axes[i]? = some axis) :
    i < components.toNat := by
  rw [h.getElem?_axes] at found
  by_cases bound : i < components.toNat
  · exact bound
  · rw [if_neg bound] at found
    contradiction

theorem length_axes : root.axes.length = components.toNat := by
  apply Nat.le_antisymm
  · apply Nat.le_of_not_lt
    intro more
    exact Nat.lt_irrefl _ (h.lt_of_axis (List.getElem?_eq_getElem more))
  · apply Nat.le_of_not_lt
    intro fewer
    have none := h.getElem?_axes root.axes.length
    rw [List.getElem?_eq_none (Nat.le_refl _), if_pos fewer] at none
    contradiction

/-- What the selectors of the components keep. -/
theorem kept_of_axis {i : Nat} {axis : Signal} (found : root.axes[i]? = some axis) :
    axis.geometry.keptLength = (width.toNat - 1) % 8 ∧
      axis.geometry.offset.toNat % 32 = i * width.toNat % 32 := by
  have bound := h.lt_of_axis found
  have start : i * width.toNat ≤ components.toNat * width.toNat :=
    Nat.mul_le_mul_right _ (Nat.le_of_lt bound)
  have fits := h.fits
  have narrow : width.toNat < 256 := width.toNat_lt
  rw [h.getElem?_axes, if_pos bound] at found
  obtain rfl := Option.some.inj found
  constructor
  · have length : min width.toNat 255 = width.toNat := by omega
    simp [axisView, Geometry.keptLength, Geometry.frameLength, Geometry.unitLength, length]
  · have kept : (UInt8.ofNat (i * width.toNat)).toNat = i * width.toNat := by
      rw [UInt8.toNat_ofNat']
      omega
    simp only [axisView, kept]

/-- What the selector of the whole vector keeps. -/
theorem kept_root : root.geometry.keptLength = (components.toNat * width.toNat - 1) % 8 ∧
    root.geometry.offset.toNat % 32 = 0 := by
  have fits := h.fits
  rw [h.geometry]
  refine ⟨?_, rfl⟩
  rw [Geometry.keptLength, frameLength_vectorFrame, Nat.min_eq_left fits]

/-- A component is selected by the byte of the whole vector if the other components fill whole
blocks of eight bytes, and those before it whole blocks of 32. -/
theorem selector_eq_whole_iff {i : Nat} {axis : Signal} (found : root.axes[i]? = some axis) :
    axis.geometry.selector = root.geometry.selector ↔
      (components.toNat - 1) * width.toNat % 8 = 0 ∧ i * width.toNat % 32 = 0 := by
  obtain ⟨length, offset⟩ := h.kept_of_axis found
  obtain ⟨whole, start⟩ := h.kept_root
  have pos := h.width_pos
  rw [Geometry.selector_eq_iff, length, offset, whole, start]
  rcases h.count with rfl | rfl
  · simp only [UInt8.reduceToNat]
    omega
  · simp only [UInt8.reduceToNat]
    omega

/-- Two components with one selector have that of the whole vector. -/
theorem selector_eq_whole_of_eq {i j : Nat} {axis other : Signal}
    (found : root.axes[i]? = some axis) (earlier : root.axes[j]? = some other) (before : j < i)
    (same : other.geometry.selector = axis.geometry.selector) :
    axis.geometry.selector = root.geometry.selector := by
  obtain ⟨-, offset⟩ := h.kept_of_axis found
  obtain ⟨-, offset'⟩ := h.kept_of_axis earlier
  have bound := h.lt_of_axis found
  obtain ⟨-, starts⟩ := Geometry.selector_eq_iff.mp same
  rw [offset, offset'] at starts
  rw [h.selector_eq_whole_iff found]
  rcases h.count with rfl | rfl
  · simp only [UInt8.reduceToNat] at bound ⊢
    obtain ⟨rfl, rfl⟩ : i = 1 ∧ j = 0 := by omega
    omega
  · simp only [UInt8.reduceToNat] at bound ⊢
    obtain ⟨rfl, rfl⟩ | ⟨rfl, rfl⟩ | ⟨rfl, rfl⟩ :
        (i = 1 ∧ j = 0) ∨ (i = 2 ∧ j = 0) ∨ (i = 2 ∧ j = 1) := by omega
    all_goals omega

/-- A component is recovered from its selector unless that names the whole vector. -/
theorem viewFor_axis {i : Nat} {axis : Signal} (found : root.axes[i]? = some axis) :
    root.viewFor axis.geometry.selector =
      if (components.toNat - 1) * width.toNat % 8 = 0 ∧ i * width.toNat % 32 = 0 then root
      else axis := by
  unfold viewFor
  by_cases hidden : axis.geometry.selector = root.geometry.selector
  · rw [if_pos hidden, if_pos ((h.selector_eq_whole_iff found).mp hidden)]
  · rw [if_neg hidden, if_neg (mt (h.selector_eq_whole_iff found).mpr hidden)]
    obtain ⟨bound, here⟩ := List.getElem?_eq_some_iff.mp found
    have first : root.axes.find? (fun a => a.geometry.selector = axis.geometry.selector) =
        some axis := by
      rw [List.find?_eq_some_iff_getElem]
      refine ⟨by simp, i, bound, here, ?_⟩
      intro j before
      have earlier := List.getElem?_eq_getElem (Nat.lt_trans before bound)
      simp only [Bool.not_eq_true', decide_eq_false_iff_not]
      exact fun same => hidden (h.selector_eq_whole_of_eq found earlier before same)
    rw [first, Option.getD_some]

/-- A component is not the whole vector. -/
theorem ne_of_axis {i : Nat} {axis : Signal} (found : root.axes[i]? = some axis) : axis ≠ root := by
  rintro rfl
  have isAxis : axis.IsAxis axis := by
    apply isAxis_of_mem_withAxes
    rw [h.own]
    exact List.mem_of_getElem? found
  have kind := isAxis.kind
  rw [h.kind] at kind
  split at kind <;> contradiction

end IsVector

end Signal

/-! ## Chains that are fed by a component -/

/-- A chain is rebuilt with the view as its input that the selector of its first hop names. -/
theorem Roster.input_of_rebuild {root : Signal} {first : Hop} {rest : List Hop} {r r' : Roster}
    {ps : List Processor} (rebuilt : r.rebuild (first :: rest) root = (.ok ps, r')) :
    ∃ p later, ps = p :: later ∧ p.input = root.viewFor first.selector := by
  obtain ⟨-, rebuilt⟩ := rebuild_cons_eq_ok.mp rebuilt
  obtain ⟨operator, product, later, -, -, -, rfl⟩ := rebuildFrom_cons_eq_ok.mp rebuilt
  exact ⟨_, later, rfl, rfl⟩

namespace Signal

variable {address : Address} {components width : UInt8} {scale : Float32} {root : Signal}

/-- The selector of the component `i` is that of the whole vector: the other components fill whole
blocks of eight bytes, and those before it whole blocks of 32. -/
def Indistinct (components width : UInt8) (i : Nat) : Prop :=
  (components.toNat - 1) * width.toNat % 8 = 0 ∧ i * width.toNat % 32 = 0

instance (components width : UInt8) (i : Nat) : Decidable (Indistinct components width i) :=
  inferInstanceAs (Decidable (_ ∧ _))

/-- The whole vector is recovered from its selector. So is every component that has a selector of
its own, and the whole vector is taken for each other one. A chain that a component feeds is rebuilt
with the same view as its input. -/
theorem viewFor_of_vector (made : vector address components width scale = .ok root) :
    root.viewFor root.geometry.selector = root ∧ root.axes.length = components.toNat ∧
      ∀ i axis, root.axes[i]? = some axis → axis ≠ root ∧
        root.viewFor axis.geometry.selector =
          (if Indistinct components width i then root else axis) ∧
        ∀ first rest r ps r', Roster.rebuild (first :: rest) root r = (.ok ps, r') →
          first.selector = axis.geometry.selector → ∃ p later, ps = p :: later ∧
            p.input = if Indistinct components width i then root else axis := by
  have h := isVector_of_vector made
  refine ⟨if_pos rfl, h.length_axes, ?_⟩
  intro i axis found
  have view : root.viewFor axis.geometry.selector =
      if Indistinct components width i then root else axis := h.viewFor_axis found
  refine ⟨h.ne_of_axis found, view, ?_⟩
  intro first rest r ps r' rebuilt same
  obtain ⟨p, later, rfl, input⟩ := Roster.input_of_rebuild rebuilt
  exact ⟨p, later, rfl, by rw [input, same, view]⟩

/-- A hop that reads `axis` of a signal at the address of the accelerometer. -/
def delayOf (axis : Signal) : Hop where
  id := 0
  source := ⟨ModuleId.accelerometer, 4, noId⟩
  selector := axis.geometry.selector
  operator := (Operator.delay 2).encode axis axis

/-- Each component of three numbers of two bytes is recovered, and a processor that is fed by the
second one is rebuilt so. -/
theorem viewFor_of_vector_short : ∃ root axis p r',
    vector ⟨ModuleId.accelerometer, 4, noId⟩ 3 2 1000 = .ok root ∧ root.axes[1]? = some axis ∧
      (∀ (i : Nat) view, root.axes[i]? = some view → root.viewFor view.geometry.selector = view) ∧
      Roster.empty.rebuild [delayOf axis] root = (.ok [p], r') ∧ p.input = axis := by
  have made : vector ⟨ModuleId.accelerometer, 4, noId⟩ 3 2 1000 = .ok _ := rfl
  obtain ⟨-, -, views⟩ := viewFor_of_vector made
  have clear (i : Nat) : ¬ Indistinct 3 2 i := fun hidden => absurd hidden.1 (by decide)
  refine ⟨_, _, _, _, rfl, rfl, ?_, rfl, ?_⟩
  · intro i view found
    obtain ⟨-, same, -⟩ := views i view found
    rw [same, if_neg (clear i)]
  · obtain ⟨-, -, fed⟩ := views 1 _ rfl
    obtain ⟨p, later, same, input⟩ := fed (delayOf _) [] .empty _ _ rfl rfl
    obtain ⟨rfl, -⟩ := List.cons.inj same
    rw [input, if_neg (clear 1)]

/-- The first of three numbers of four bytes is taken for all three. -/
theorem first_axis_not_recovered : ∃ root axis p r',
    vector ⟨ModuleId.accelerometer, 4, noId⟩ 3 4 1000 = .ok root ∧ root.axes[0]? = some axis ∧
      root.viewFor axis.geometry.selector ≠ axis ∧
      Roster.empty.rebuild [delayOf axis] root = (.ok [p], r') ∧ p.input ≠ axis := by
  refine ⟨_, _, _, _, rfl, rfl, ?_, rfl, ?_⟩
  · intro same
    exact absurd (congrArg Signal.kind same) (by decide)
  · intro same
    exact absurd (congrArg Signal.kind same) (by decide)

end Signal

end SensorHost
