import SensorHost.Geometry

/-!
# Geometries that were accepted

`Geometry.make` returns what it was given or nothing. What is made of a geometry by the copies that
change one attribute follows from that.
-/

namespace SensorHost.Geometry

theorem eq_of_make {widths : List UInt8} {units offset : UInt8} {signed : Bool} {g : Geometry}
    (h : make widths units offset signed = .ok g) : g = { widths, units, offset, signed } := by
  unfold make at h
  simp only at h
  split at h
  · contradiction
  · split at h
    · contradiction
    · split at h
      · contradiction
      · exact (Except.ok.inj h).symm

theorem signed_of_resized {g resized : Geometry} {width : UInt8}
    (h : g.resized width = .ok resized) : resized.signed = g.signed := by
  rw [eq_of_make h]

theorem signed_of_scalar {width : UInt8} {signed : Bool} {g : Geometry}
    (h : scalar width signed = .ok g) : g.signed = signed := by
  rw [eq_of_make h]

/-- A view of one field is refused only where it ends beyond the frame. -/
theorem view_singleton {g : Geometry} {offset width : UInt8} (nonzero : width ≠ 0)
    (short : offset.toNat + width.toNat ≤ 255) :
    g.view offset [width] =
      if offset.toNat + width.toNat ≤ g.frameLength then
        .ok { widths := [width], units := 1, offset, signed := g.signed }
      else .error (.viewOutOfBounds offset.toNat width.toNat g.frameLength) := by
  have made : make [width] 1 offset g.signed =
      .ok { widths := [width], units := 1, offset, signed := g.signed } := by
    have length : ¬ 255 < width.toNat := by omega
    have inside : ¬ 255 < offset.toNat + width.toNat := by omega
    simp [make, frameLength, unitLength, nonzero.symm, length, inside]
  unfold view
  rw [made]
  by_cases fits : offset.toNat + width.toNat ≤ g.frameLength
  · rw [if_pos fits]
    simp [unitLength, bind, Except.bind, pure, Except.pure, Nat.not_lt.mpr fits]
  · rw [if_neg fits]
    simp [unitLength, bind, Except.bind, Nat.lt_of_not_le fits, throw, throwThe, MonadExceptOf.throw]

end SensorHost.Geometry
