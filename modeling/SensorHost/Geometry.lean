import SensorHost.Number.Total

/-!
# Frame geometry

How the bytes of a data frame are laid out: the width of each field of one unit, how many units
follow each other, where a view of the frame starts inside it, and whether the fields are
signed. A frame's length travels in one byte, so `Geometry.make` refuses what would not fit;
`Geometry.valid_of_make` says that everything it accepts is `Geometry.Valid`.

The board resets the offset of every frame that it derives from another. So do the copies here
that change one attribute (`resized`, `withSign`, `repeated`).
-/

namespace SensorHost

/-- Why a geometry is refused. -/
inductive GeometryFault where
  /-- A length of a frame, or the end of a view, that exceeds one byte. -/
  | frameTooLong (length : Nat)
  /-- A view that ends beyond the frame it looks at. -/
  | viewOutOfBounds (offset unitLength frameLength : Nat)
  /-- A field without bytes. -/
  | zeroWidthField
  /-- A vector that has neither two nor three components. -/
  | componentCount (count : UInt8)
deriving DecidableEq, Repr

namespace GeometryFault

def message : GeometryFault → String
  | frameTooLong length => s!"frame length {length} does not fit in a single byte"
  | viewOutOfBounds offset unitLength frameLength =>
    s!"view at offset {offset} with unit length {unitLength} exceeds frame length {frameLength}"
  | zeroWidthField => "field width must be non-zero"
  | componentCount count => s!"vector needs 2 or 3 components, got {count}"

end GeometryFault

/-- The layout of a data frame. -/
structure Geometry where
  /-- The width of each field of one unit, in bytes. -/
  widths : List UInt8
  /-- How many units the frame holds. -/
  units : UInt8
  /-- Where the view starts inside its frame. -/
  offset : UInt8
  signed : Bool
deriving DecidableEq, Repr, Inhabited

namespace Geometry

/-- The bytes of one unit. -/
def unitLength (g : Geometry) : Nat := total UInt8.toNat g.widths

/-- The bytes of the whole frame. -/
def frameLength (g : Geometry) : Nat := g.unitLength * g.units.toNat

/-- The width of the first field, zero where there is none. -/
def firstWidth (g : Geometry) : UInt8 := g.widths.head?.getD 0

/-- Every field has bytes, and both the frame and the end of the view fit in one byte. -/
def Valid (g : Geometry) : Prop :=
  0 ∉ g.widths ∧ g.frameLength ≤ 255 ∧ g.offset.toNat + g.unitLength ≤ 255

instance (g : Geometry) : Decidable g.Valid := by
  unfold Valid; infer_instance

/-- The geometry with the given attributes, if it is valid. -/
def make (widths : List UInt8) (units offset : UInt8) (signed : Bool) :
    Except GeometryFault Geometry :=
  let g : Geometry := { widths, units, offset, signed }
  if 0 ∈ widths then .error .zeroWidthField
  else if 255 < g.frameLength then .error (.frameTooLong g.frameLength)
  else if 255 < offset.toNat + g.unitLength then
    .error (.frameTooLong (offset.toNat + g.unitLength))
  else .ok g

/-- One field in one unit at offset zero. -/
def scalar (width : UInt8) (signed : Bool) : Except GeometryFault Geometry :=
  make [width] 1 0 signed

/-- A frame without fields, such as an opaque buffer. -/
def empty : Geometry := { widths := [], units := 0, offset := 0, signed := false }

/-- A view of one unit, starting at `offset`, over a frame of this geometry. -/
def view (g : Geometry) (offset : UInt8) (widths : List UInt8) : Except GeometryFault Geometry := do
  let v ← make widths 1 offset g.signed
  if g.frameLength < offset.toNat + v.unitLength then
    throw (.viewOutOfBounds offset.toNat v.unitLength g.frameLength)
  return v

/-- The same frame viewed from its start. -/
def fromStart (g : Geometry) : Geometry := { g with offset := 0 }

/-- Every field resized to `width`. -/
def resized (g : Geometry) (width : UInt8) : Except GeometryFault Geometry :=
  make (List.replicate g.widths.length width) g.units 0 g.signed

/-- The sign of the fields replaced. -/
def withSign (g : Geometry) (signed : Bool) : Geometry := { g with offset := 0, signed }

/-- The number of units replaced. -/
def repeated (g : Geometry) (units : UInt8) : Except GeometryFault Geometry :=
  make g.widths units 0 g.signed

/-- The byte that tells a processor which part of its input frame to read: the length less
one in the top three bits, the offset in the other five. -/
def selector (g : Geometry) : UInt8 :=
  (UInt8.ofNat (min g.frameLength 255 - 1) &&& 0x7) <<< 5 ||| (g.offset &&& 0x1f)

theorem valid_of_make {widths : List UInt8} {units offset : UInt8} {signed : Bool} {g : Geometry}
    (h : make widths units offset signed = .ok g) : g.Valid := by
  unfold make at h
  simp only at h
  split at h
  · contradiction
  · rename_i nonzero
    split at h
    · contradiction
    · split at h
      · contradiction
      · cases h
        refine ⟨nonzero, by simpa using ‹¬ 255 < _›, ?_⟩
        simpa using ‹¬ 255 < offset.toNat + _›

end Geometry

end SensorHost
