import SensorHost.Fault
import SensorHost.Number.Single

/-!
# Signals

A signal is the host's description of one data frame that the board can produce: where it comes
from, how its bytes are laid out, and what they mean. Signals form a tree. The output of a
processor holds the signal that feeds it (`feed`), from which an unscaled output takes its
scale; a vector holds one view of its frame per component (`axes`), so that a single component
can be routed on its own; a bundle holds the signals that its frame joins (`members`).
-/

namespace SensorHost

/-- What the bytes of a signal mean. -/
inductive Kind where
  | uint
  | int
  /-- A byte that is zero or not. -/
  | bool
  /-- An unsigned fixed-point number. -/
  | ufloat
  /-- A signed fixed-point number. -/
  | sfloat
  | bytes
  /-- Two or three fixed-point components. -/
  | vector
  /-- The frames of several signals, one after the other. -/
  | array
deriving DecidableEq, Repr, Inhabited

namespace Kind

def name : Kind → String
  | uint => "uint"
  | int => "int"
  | bool => "bool"
  | ufloat => "ufloat"
  | sfloat => "sfloat"
  | bytes => "bytes"
  | vector => "vector"
  | array => "array"

/-- The kind of these values once they are signed. -/
def toSigned : Kind → Kind
  | uint => int
  | ufloat => sfloat
  | kind => kind

/-- The kind of these values once they are unsigned. -/
def toUnsigned : Kind → Kind
  | int => uint
  | sfloat => ufloat
  | kind => kind

/-- Whether values are divided by a scale. -/
def isScaled : Kind → Bool
  | ufloat | sfloat | vector => true
  | _ => false

end Kind

/-- The host's description of a data frame. -/
structure Signal where
  kind : Kind
  address : Address
  geometry : Geometry
  /-- The scale set on this signal itself; without one it has the scale of `feed`. -/
  ownScale : Option Float32
  /-- The signal that the processor behind this one is fed by. -/
  feed : Option Signal
  /-- The views of the single fields of a vector. -/
  axes : List Signal
  /-- The signals whose frames follow each other in an array. -/
  members : List Signal
deriving Inhabited

namespace Signal

/-- Firmware units per host unit. -/
def scale : Signal → Float32
  | ⟨_, _, _, some own, _, _, _⟩ => own
  | ⟨_, _, _, none, some feed, _, _⟩ => feed.scale
  | ⟨_, _, _, none, none, _, _⟩ => 1.0

/-- The number of signals that this one goes back to. -/
def depth : Signal → Nat
  | ⟨_, _, _, _, none, _, _⟩ => 0
  | ⟨_, _, _, _, some feed, _, _⟩ => feed.depth + 1

/-! ## The components of a vector -/

/-- The views of the given fields, the first starting at `offset`. A view that its frame does
not hold is left out. -/
def axisViews (frame : Geometry) (address : Address) (scale : Float32) :
    UInt8 → List UInt8 → List Signal
  | _, [] => []
  | offset, width :: widths =>
    let next := UInt8.ofNat (min (offset.toNat + width.toNat) 255)
    match frame.view offset [width] with
    | .ok geometry =>
      { kind := if frame.signed then .sfloat else .ufloat
        address, geometry
        ownScale := some scale
        feed := none, axes := [], members := [] } :: axisViews frame address scale next widths
    | .error _ => axisViews frame address scale next widths

/-- The signal with one axis per field if it is a vector, and with none otherwise. -/
def withAxes (s : Signal) : Signal :=
  { s with
    axes := match s.kind with
      | .vector => axisViews s.geometry s.address s.scale s.geometry.offset s.geometry.widths
      | _ => [] }

/-! ## Making signals -/

/-- A signal that nothing feeds. -/
def root (kind : Kind) (address : Address) (geometry : Geometry) : Signal :=
  { kind, address, geometry, ownScale := none, feed := none, axes := [], members := [] : Signal }.withAxes

/-- The same signal with a scale of its own. -/
def withScale (s : Signal) (scale : Float32) : Signal :=
  { s with ownScale := some scale : Signal }.withAxes

/-- An unsigned integer of `width` bytes. -/
def uint (address : Address) (width : UInt8) : Except GeometryFault Signal := do
  return root .uint address (← Geometry.scalar width false)

/-- A signed integer of `width` bytes. -/
def int (address : Address) (width : UInt8) : Except GeometryFault Signal := do
  return root .int address (← Geometry.scalar width true)

/-- A fixed-point number of `width` bytes. -/
def float (address : Address) (width : UInt8) (signed : Bool) (scale : Float32) :
    Except GeometryFault Signal := do
  let geometry ← Geometry.scalar width signed
  return (root (if signed then .sfloat else .ufloat) address geometry).withScale scale

/-- A signed vector of `components` fields of `width` bytes each. -/
def vector (address : Address) (components width : UInt8) (scale : Float32) :
    Except GeometryFault Signal := do
  unless components = 2 ∨ components = 3 do
    throw (.componentCount components)
  let geometry ← Geometry.make (List.replicate components.toNat width) 1 0 true
  return (root .vector address geometry).withScale scale

/-- A frame that joins the frames of `members`. -/
def array (feed : Option Signal) (address : Address) (geometry : Geometry)
    (members : List Signal) : Signal :=
  { root .array address geometry with feed, members }

/-- A signal of another kind fed by `feed`. -/
def derived (kind : Kind) (feed : Signal) (address : Address) (geometry : Geometry) : Signal :=
  { kind, address, geometry
    ownScale := none, feed := some feed, axes := [], members := [] : Signal }.withAxes

/-- The same kind of signal in another place, fed by `feed`. -/
def reparent (s feed : Signal) (address : Address) (geometry : Geometry) : Signal :=
  { kind := s.kind, address, geometry
    ownScale := none, feed := some feed, axes := [], members := s.members : Signal }.withAxes

/-- The state that a processor keeps. -/
def persisted (kind : Kind) (address : Address) (geometry : Geometry) (scale : Float32) : Signal :=
  (root kind address geometry).withScale scale

/-- The same signal at the id that the board assigned. -/
def withId (s : Signal) (id : UInt8) : Signal :=
  { s with
    address := s.address.withId id
    axes := s.axes.map fun axis => { axis with address := axis.address.withId id } }

/-- Whether the signal comes from one of many registers. -/
def isIndexed (s : Signal) : Bool := s.address.isIndexed

/-! ## Equality

Two signals are the same when every part of them is; `decEq` decides it. `sameValue` compares
their numbers as numbers, so that a zero equals its negative and nothing equals what is not a
number. -/

mutual

def decEq : (a b : Signal) → Decidable (a = b)
  | ⟨k, a, g, o, u, xs, ms⟩, ⟨k', a', g', o', u', xs', ms'⟩ =>
    match decEqOption u u', decEqList xs xs', decEqList ms ms' with
    | .isTrue hu, .isTrue hx, .isTrue hm =>
      if h : k = k' ∧ a = a' ∧ g = g' ∧ o = o' then
        .isTrue (by obtain ⟨rfl, rfl, rfl, rfl⟩ := h; subst hu hx hm; rfl)
      else .isFalse (by intro e; cases e; exact h ⟨rfl, rfl, rfl, rfl⟩)
    | .isFalse hu, _, _ => .isFalse (by intro e; cases e; exact hu rfl)
    | _, .isFalse hx, _ => .isFalse (by intro e; cases e; exact hx rfl)
    | _, _, .isFalse hm => .isFalse (by intro e; cases e; exact hm rfl)

def decEqOption : (a b : Option Signal) → Decidable (a = b)
  | none, none => .isTrue rfl
  | some a, some b =>
    match decEq a b with
    | .isTrue h => .isTrue (h ▸ rfl)
    | .isFalse h => .isFalse (by intro e; cases e; exact h rfl)
  | none, some _ => .isFalse nofun
  | some _, none => .isFalse nofun

def decEqList : (a b : List Signal) → Decidable (a = b)
  | [], [] => .isTrue rfl
  | a :: as, b :: bs =>
    match decEq a b, decEqList as bs with
    | .isTrue h, .isTrue hs => .isTrue (h ▸ hs ▸ rfl)
    | .isFalse h, _ => .isFalse (by intro e; cases e; exact h rfl)
    | _, .isFalse hs => .isFalse (by intro e; cases e; exact hs rfl)
  | [], _ :: _ => .isFalse nofun
  | _ :: _, [] => .isFalse nofun

end

instance : DecidableEq Signal := decEq

mutual

def sameValue : Signal → Signal → Bool
  | ⟨k, a, g, o, u, xs, ms⟩, ⟨k', a', g', o', u', xs', ms'⟩ =>
    k == k' && a == a' && g == g' && o == o' && sameValueOption u u' && sameValueList xs xs'
      && sameValueList ms ms'

def sameValueOption : Option Signal → Option Signal → Bool
  | none, none => true
  | some a, some b => sameValue a b
  | _, _ => false

def sameValueList : List Signal → List Signal → Bool
  | [], [] => true
  | a :: as, b :: bs => sameValue a b && sameValueList as bs
  | _, _ => false

end

end Signal

end SensorHost
