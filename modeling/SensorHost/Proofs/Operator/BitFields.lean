import Mathlib.Data.List.Forall2
import SensorHost.Proofs.Operator.Codec
import SensorHost.Proofs.Processor.Selectors
import SensorHost.Proofs.Signal.Ranges

/-!
# Numbers in the bits of a byte

Operator bytes are rows of bit fields. A field tells a number, or the number less one where it is a
width, a length or a count and never zero. `Operator.rows` tells the fields of every operator in
natural numbers, where nothing is cut and nothing wraps. `TellsRow` says of a byte and a row that the
byte is exactly that: every number of the row is one of a byte, nothing is taken off that is not
there, the fields do not overlap, and each of them is read back.

Numbers of fields and lengths come from the geometry of the input, and a valid geometry has no more
fields than bytes. So all operator bytes of an accepted operator are told, and so are the selector and
the ranges of a valid signal (`Operator.fields_told`).
-/

namespace SensorHost

/-- A number in some bits of a byte. -/
structure BitField where
  number : Nat
  /-- What is taken off the number before it is told. -/
  less : Nat
  bits : Nat
  /-- The place of the lowest bit. -/
  position : Nat

namespace BitField

/-- The field of a number that is told as it is. -/
def plain (number bits position : Nat) : BitField := ⟨number, 0, bits, position⟩

/-- The field of a number that is told less one. -/
def lessOne (number bits position : Nat) : BitField := ⟨number, 1, bits, position⟩

/-- What is told, cut to the bits that there are. -/
def kept (f : BitField) : Nat := (f.number - f.less) % 2 ^ f.bits

/-- What the field adds to its byte. -/
def weight (f : BitField) : Nat := f.kept * 2 ^ f.position

/-- The first bit above the field. -/
def top (f : BitField) : Nat := f.position + f.bits

/-- A row of a single field that fills the byte. -/
def whole (number : Nat) : List BitField := [plain number 8 0]

/-- The rows of bytes that stand for themselves. -/
def spelled (bytes : Frame) : List (List BitField) := bytes.map fun b => whole b.toNat

end BitField

/-- The byte tells the numbers of the row, from the lowest bits to the highest. -/
structure TellsRow (byte : UInt8) (row : List BitField) : Prop where
  /-- Every number is one of a byte, and no more is taken off it than it has. -/
  exact : ∀ f ∈ row, f.less ≤ f.number ∧ f.number ≤ 255
  apart : row.Pairwise fun f g => f.top ≤ g.position
  inside : ∀ f ∈ row, f.top ≤ 8
  sum : byte.toNat = total BitField.weight row
  readBack : ∀ f ∈ row, byte.toNat / 2 ^ f.position % 2 ^ f.bits = f.kept

namespace BitField

/-! ## Rows in order -/

/-- The fields lie one above the other from bit `start` on, and hold numbers of a byte. -/
def Stacked : Nat → List BitField → Prop
  | start, [] => start ≤ 8
  | start, f :: rest =>
    start ≤ f.position ∧ 0 < f.bits ∧ f.less ≤ f.number ∧ f.number ≤ 255 ∧ Stacked f.top rest

variable {f : BitField} {row : List BitField} {start : Nat}

theorem kept_lt (f : BitField) : f.kept < 2 ^ f.bits := Nat.mod_lt _ (Nat.two_pow_pos _)

theorem add_weight_lt {below : Nat} (beneath : below < 2 ^ f.position) :
    below + f.weight < 2 ^ f.top :=
  calc below + f.weight
      < 2 ^ f.position + f.weight := Nat.add_lt_add_right beneath _
    _ = (f.kept + 1) * 2 ^ f.position := by rw [weight, Nat.add_comm, Nat.succ_mul]
    _ ≤ 2 ^ f.bits * 2 ^ f.position := Nat.mul_le_mul_right _ f.kept_lt
    _ = 2 ^ f.top := by rw [top, Nat.add_comm, Nat.pow_add]

namespace Stacked

theorem start_le (h : Stacked start row) : start ≤ 8 := by
  induction row generalizing start with
  | nil => exact h
  | cons f rest ih =>
      obtain ⟨low, -, -, -, above⟩ := h
      have := ih above
      rw [top] at this
      omega

theorem top_le (h : Stacked start row) : ∀ f ∈ row, f.top ≤ 8 := by
  induction row generalizing start with
  | nil => exact nofun
  | cons f rest ih =>
      obtain ⟨-, -, -, -, above⟩ := h
      exact List.forall_mem_cons.mpr ⟨above.start_le, ih above⟩

theorem le_position (h : Stacked start row) : ∀ f ∈ row, start ≤ f.position := by
  induction row generalizing start with
  | nil => exact nofun
  | cons f rest ih =>
      obtain ⟨low, -, -, -, above⟩ := h
      refine List.forall_mem_cons.mpr ⟨low, fun g mem => ?_⟩
      have := ih above g mem
      rw [top] at this
      omega

theorem apart (h : Stacked start row) : row.Pairwise fun f g => f.top ≤ g.position := by
  induction row generalizing start with
  | nil => exact .nil
  | cons f rest ih =>
      obtain ⟨-, -, -, -, above⟩ := h
      exact List.pairwise_cons.mpr ⟨above.le_position, ih above⟩

theorem exact (h : Stacked start row) : ∀ f ∈ row, f.less ≤ f.number ∧ f.number ≤ 255 := by
  induction row generalizing start with
  | nil => exact nofun
  | cons f rest ih =>
      obtain ⟨-, -, some, small, above⟩ := h
      exact List.forall_mem_cons.mpr ⟨⟨some, small⟩, ih above⟩

/-- A row has no bits below the one at which it starts. -/
theorem dvd_weight (h : Stacked start row) : 2 ^ start ∣ total weight row := by
  induction row generalizing start with
  | nil => exact Nat.dvd_zero _
  | cons f rest ih =>
      obtain ⟨low, -, -, -, above⟩ := h
      have own : 2 ^ start ∣ f.weight :=
        Nat.dvd_trans (Nat.pow_dvd_pow 2 low) (Nat.dvd_mul_left ..)
      have others : 2 ^ start ∣ 2 ^ f.top := Nat.pow_dvd_pow 2 (Nat.le_add_right_of_le low)
      exact Nat.dvd_add own (Nat.dvd_trans others (ih above))

/-- What lies below a row does not change what is read in it. -/
theorem read_add (h : Stacked start row) {below : Nat} (low : below < 2 ^ start) :
    ∀ f ∈ row, (below + total weight row) / 2 ^ f.position % 2 ^ f.bits = f.kept := by
  induction row generalizing start below with
  | nil => exact nofun
  | cons f rest ih =>
      obtain ⟨first, -, -, -, above⟩ := h
      have beneath : below < 2 ^ f.position :=
        Nat.lt_of_lt_of_le low (Nat.pow_le_pow_right (by decide) first)
      rw [total_cons, ← Nat.add_assoc]
      refine List.forall_mem_cons.mpr ⟨?own, ih above (add_weight_lt beneath)⟩
      case own =>
        -- All that lies above the field is a multiple of what would be its next bit.
        obtain ⟨more, eq⟩ := above.dvd_weight
        have shifted : below + f.weight + total weight rest =
            below + 2 ^ f.position * (f.kept + 2 ^ f.bits * more) := by
          rw [eq, weight, top, Nat.pow_add, Nat.mul_add, Nat.mul_comm f.kept, Nat.mul_assoc,
            Nat.add_assoc]
        rw [shifted, Nat.add_mul_div_left _ _ (Nat.two_pow_pos _), Nat.div_eq_of_lt beneath,
          Nat.zero_add, Nat.add_mul_mod_self_left, Nat.mod_eq_of_lt f.kept_lt]

theorem tellsRow (h : Stacked 0 row) {byte : UInt8} (sum : byte.toNat = total weight row) :
    TellsRow byte row where
  exact := h.exact
  apart := h.apart
  inside := h.top_le
  sum := sum
  readBack := by
    have read := h.read_add (show 0 < 2 ^ 0 by decide)
    rw [Nat.zero_add] at read
    rwa [sum]

end Stacked

/-! ## Rows of slots -/

/-- The slot of a flag byte that holds the field. -/
def slot (f : BitField) : UInt8 :=
  Operator.slot (UInt8.ofNat f.number - UInt8.ofNat f.less) (UInt8.ofNat (2 ^ f.bits - 1))
    (UInt8.ofNat f.position)

/-- The byte that is made of the slots of a row. -/
def byteOf (row : List BitField) : UInt8 := row.foldl (fun byte f => byte ||| f.slot) 0

theorem toNat_or_slot (wide : 0 < f.bits) (some : f.less ≤ f.number) (small : f.number ≤ 255)
    (inside : f.top ≤ 8) {below : UInt8} (beneath : below.toNat < 2 ^ f.position) :
    (below ||| f.slot).toNat = below.toNat + f.weight := by
  rw [top] at inside
  have byte (n : Nat) (fits : n ≤ 255) : (UInt8.ofNat n).toNat = n :=
    UInt8.toNat_ofNat_of_lt' (Nat.lt_succ_of_le fits)
  have power : 2 ^ f.bits ≤ 2 ^ 8 := Nat.pow_le_pow_right (by decide) (by omega)
  have place : (UInt8.ofNat f.position).toNat = f.position := byte _ (by omega)
  have mask : (UInt8.ofNat (2 ^ f.bits - 1)).toNat = 2 ^ f.bits - 1 := byte _ (by omega)
  have told : (UInt8.ofNat f.number - UInt8.ofNat f.less).toNat = f.number - f.less := by
    have order : UInt8.ofNat f.less ≤ UInt8.ofNat f.number := by
      rw [UInt8.le_iff_toNat_le, byte _ small, byte _ (Nat.le_trans some small)]
      exact some
    rw [UInt8.toNat_sub_of_le _ _ order, byte _ small, byte _ (Nat.le_trans some small)]
  rw [slot, Operator.toNat_or_slot (by rwa [place]) f.bits mask (by rw [place]; omega)
    (by rw [place]; omega), told, place, Nat.add_comm]
  rfl

theorem toNat_foldl_slot (h : Stacked start row) {below : UInt8} (low : below.toNat < 2 ^ start) :
    (row.foldl (fun byte f => byte ||| f.slot) below).toNat = below.toNat + total weight row := by
  induction row generalizing start below with
  | nil => rfl
  | cons f rest ih =>
      have inside : f.top ≤ 8 := h.top_le f List.mem_cons_self
      obtain ⟨first, wide, some, small, above⟩ := h
      have beneath : below.toNat < 2 ^ f.position :=
        Nat.lt_of_lt_of_le low (Nat.pow_le_pow_right (by decide) first)
      have filled := toNat_or_slot wide some small inside beneath
      rw [List.foldl_cons, ih above (by rw [filled]; exact add_weight_lt beneath), filled,
        total_cons, Nat.add_assoc]

/-- The slots of a row do not disturb each other. -/
theorem tellsRow_byteOf (h : Stacked 0 row) : TellsRow (byteOf row) row :=
  h.tellsRow ((toNat_foldl_slot h (by decide)).trans (Nat.zero_add _))

theorem byteOf_cons (f : BitField) (row : List BitField) :
    byteOf (f :: row) = row.foldl (fun byte g => byte ||| g.slot) f.slot := by
  rw [byteOf, List.foldl_cons, UInt8.zero_or]

theorem slot_plain (number bits position : Nat) :
    (plain number bits position).slot =
      Operator.slot (UInt8.ofNat number) (UInt8.ofNat (2 ^ bits - 1)) (UInt8.ofNat position) := by
  rw [slot, plain, show UInt8.ofNat 0 = 0 from rfl, UInt8.sub_zero]

theorem slot_lessOne (number bits position : Nat) :
    (lessOne number bits position).slot =
      Operator.slot (UInt8.ofNat number - 1) (UInt8.ofNat (2 ^ bits - 1)) (UInt8.ofNat position) :=
  rfl

/-- A slot that fills the byte lets everything through. -/
theorem slot_full (b : UInt8) : Operator.slot b 0xff 0 = b := by
  rw [Operator.slot_zero, show (0xff : UInt8) = -1 from rfl, UInt8.and_neg_one]

theorem byteOf_whole (number : Nat) : byteOf (whole number) = UInt8.ofNat number := by
  rw [whole, byteOf_cons, slot_plain]
  exact slot_full _

theorem stacked_whole {number : Nat} (fits : number ≤ 255) : Stacked 0 (whole number) :=
  ⟨Nat.le_refl 0, Nat.zero_lt_succ 7, Nat.zero_le number, fits, Nat.le_refl 8⟩

theorem stacked_byte (b : UInt8) : Stacked 0 (whole b.toNat) :=
  stacked_whole (Nat.le_of_lt_succ b.toNat_lt)

theorem map_byteOf_spelled (bytes : Frame) : (spelled bytes).map byteOf = bytes := by
  have own (b : UInt8) : byteOf (whole b.toNat) = b := by rw [byteOf_whole, UInt8.ofNat_toNat]
  rw [spelled, List.map_map]
  exact (List.map_congr_left fun b _ => own b).trans (List.map_id bytes)

theorem stacked_spelled (bytes : Frame) : ∀ row ∈ spelled bytes, Stacked 0 row :=
  List.forall_mem_map.mpr fun b _ => stacked_byte b

end BitField

/-! ## Numbers of a valid geometry -/

namespace Geometry

variable {g : Geometry}

/-- There are no more fields than bytes, since every field has one. -/
theorem length_le_unitLength (nonzero : 0 ∉ g.widths) : g.widths.length ≤ g.unitLength := by
  obtain ⟨widths, _, _, _⟩ := g
  show widths.length ≤ total UInt8.toNat widths
  replace nonzero : 0 ∉ widths := nonzero
  induction widths with
  | nil => exact Nat.le_refl 0
  | cons width rest ih =>
      obtain ⟨first, others⟩ := not_or.mp (mt List.mem_cons.mpr nonzero)
      have some : width.toNat ≠ 0 := fun zero => first (UInt8.toNat_inj.mp zero.symm)
      have := ih others
      rw [List.length_cons, total_cons]
      omega

theorem fields_le (valid : g.Valid) : g.widths.length ≤ 255 := by
  have := length_le_unitLength valid.1
  have := valid.2.2
  omega

/-- The fields of all units are no more than the bytes of the frame, unless there is none. -/
theorem values_le (valid : g.Valid) : max g.widths.length 1 * max g.units.toNat 1 ≤ 255 := by
  obtain ⟨nonzero, frame, -⟩ := id valid
  have fields := length_le_unitLength nonzero
  have units := g.units.toNat_lt
  rcases Nat.eq_zero_or_pos g.widths.length with none | some
  · rw [none, Nat.max_eq_right (Nat.zero_le 1), Nat.one_mul]
    omega
  rcases Nat.eq_zero_or_pos g.units.toNat with none | several
  · have := fields_le valid
    rw [none, Nat.max_eq_right (Nat.zero_le 1), Nat.mul_one]
    omega
  · rw [Nat.max_eq_left some, Nat.max_eq_left several]
    exact Nat.le_trans (Nat.mul_le_mul_right _ fields) frame

theorem toNat_lengthByte (valid : g.Valid) :
    (Operator.lengthByte g).toNat = max g.frameLength 1 := by
  have short := valid.2.1
  rw [Operator.lengthByte, UInt8.toNat_ofNat', Nat.min_eq_left short]
  omega

theorem toNat_widthByte (g : Geometry) :
    (Operator.widthByte g).toNat = max g.firstWidth.toNat 1 := by
  have larger : (Operator.widthByte g).toNat =
      if g.firstWidth.toNat ≤ 1 then 1 else g.firstWidth.toNat :=
    apply_ite UInt8.toNat ..
  rw [larger]
  split <;> omega

/-- The fields of the byte that selects a part of a frame. An empty frame counts as one of one byte. -/
def selectorRow (g : Geometry) : List BitField :=
  [.plain g.offset.toNat 5 0, .lessOne (max g.frameLength 1) 3 5]

theorem tellsRow_selector {g : Geometry} (valid : g.Valid) : TellsRow g.selector g.selectorRow := by
  have short := valid.2.1
  have offset : g.offset.toNat ≤ 255 := Nat.le_of_lt_succ g.offset.toNat_lt
  have stacked : BitField.Stacked 0 g.selectorRow := by
    simp only [selectorRow, BitField.Stacked, BitField.plain, BitField.lessOne, BitField.top]
    omega
  refine stacked.tellsRow ?_
  have length : min g.frameLength 255 - 1 = max g.frameLength 1 - 1 := by omega
  rw [toNat_selector, keptLength, length]
  simp [selectorRow, BitField.weight, BitField.kept, BitField.plain, BitField.lessOne, Nat.add_comm]

end Geometry

/-! ## The bytes of every operator -/

namespace Operator

open BitField

/-- The fields of the bytes behind the operator's code. An empty frame counts as one of one byte, and a
frame without fields as one with a field of one byte. -/
def rows (op : Operator) (input output : Signal) : List (List BitField) :=
  let g := input.geometry
  let frame := max g.frameLength 1
  let width := max g.firstWidth.toNat 1
  let fields := max g.widths.length 1
  let signed := g.signed.toNat
  match op with
  | .passthrough mode count =>
    whole mode.toByte.toNat :: spelled (LittleEndian.encode 2 count.toNat)
  | .accumulate counting outputWidth =>
    [[lessOne outputWidth.toNat 2 0, lessOne frame 2 2, plain counting.toNat 1 4]]
  | .average samples highPass =>
    [[lessOne width 2 0, lessOne width 2 2, lessOne (fields * max g.units.toNat 1) 2 4,
        plain signed 1 6, plain highPass.toNat 1 7],
      whole samples.toNat]
  | .delay samples => [[lessOne frame 4 0], whole samples.toNat]
  | .time mode period =>
    [lessOne frame 3 0, plain mode.toByte.toNat 1 3] ::
      spelled (LittleEndian.encode 4 period.toNat)
  | .buffer => [[lessOne frame 5 0]]
  | .math mathOp operand everyField =>
    let (boardOp, boardOperand) := mathOp.onBoard input operand
    [[lessOne (max output.geometry.firstWidth.toNat 1) 2 0, lessOne width 2 2,
        plain output.geometry.signed.toNat 1 4],
      whole boardOp.toByte.toNat]
      ++ spelled (LittleEndian.encode 4 boardOperand)
      ++ [if everyField then [lessOne fields 8 0] else whole 0]
  | .pulse mode level pulseWidth =>
    [[lessOne frame 8 0], whole 0, whole mode.toByte.toNat]
      ++ spelled (LittleEndian.encode 4 (input.toWire level))
      ++ spelled (LittleEndian.encode 2 pulseWidth.toNat)
  | .compareOne comparison reference =>
    [whole signed, whole comparison.toByte.toNat, whole 0]
      ++ spelled (LittleEndian.encode 4 (input.toWire reference))
  | .compareMany comparison reported references =>
    [plain signed 1 0, lessOne width 2 1, plain comparison.toByte.toNat 3 3,
        plain reported.toByte.toNat 2 6] ::
      spelled (references.flatMap fun reference => input.toWireBytes reference width)
  | .threshold mode boundary hysteresis =>
    [lessOne frame 2 0, plain signed 1 2, plain mode.toByte.toNat 2 3] ::
      (spelled (LittleEndian.encode 4 (input.toWire boundary))
        ++ spelled (LittleEndian.encode 2 (input.toWire hysteresis)))
  | .differential mode distance =>
    [lessOne frame 2 0, plain signed 1 2, plain mode.toByte.toNat 2 3] ::
      spelled (LittleEndian.encode 4 (input.toWire distance))
  | .packer count => [[lessOne frame 5 0], [lessOne count.toNat 5 0]]
  | .accounter mode length =>
    [[plain mode.toByte.toNat 2 0, lessOne length.toNat 2 4], whole accounterPrescale.toNat]
  | .fuser sources => whole sources.length :: spelled (sources.map (·.id))
  | .combine mode =>
    [[lessOne width 2 0, lessOne width 2 2, lessOne fields 2 4, plain signed 1 6],
      whole mode.toByte.toNat]

theorem toNat_toUInt8 (b : Bool) : b.toNat = b.toUInt8.toNat := by cases b <;> rfl

section

variable {op : Operator} {input : Signal} (output : Signal) (valid : input.geometry.Valid)
include valid

attribute [local simp] map_byteOf_spelled byteOf_whole byteOf_cons slot_plain slot_lessOne slot_full
  toNat_toUInt8

/-- The bytes behind the code are made of the slots of their rows. -/
theorem tail_encode : (op.encode input output).tail = (op.rows input output).map byteOf := by
  have frame := Geometry.toNat_lengthByte valid
  have width := Geometry.toNat_widthByte input.geometry
  have outputWidth := Geometry.toNat_widthByte output.geometry
  cases op with
  | average samples highPass =>
      simp [encode, rows, ← width, Nat.min_eq_left (Geometry.values_le valid)]
  | math op operand every =>
      have fields : UInt8.ofNat (max input.geometry.widths.length 1 - 1) =
          UInt8.ofNat (max input.geometry.widths.length 1) - 1 := by
        obtain ⟨above, eq⟩ : ∃ n, max input.geometry.widths.length 1 = n + 1 :=
          ⟨max input.geometry.widths.length 1 - 1, by omega⟩
        rw [eq, Nat.add_sub_cancel, UInt8.ofNat_add]
        exact (UInt8.add_sub_cancel ..).symm
      cases every <;> simp [encode, rows, ← width, ← outputWidth, fields]
  | _ => simp [encode, rows, ← frame, ← width]

end

/-- The numbers of an accepted operator fit in their rows. -/
theorem stacked_rows {op : Operator} {input : Signal} (output : Signal)
    (valid : input.geometry.Valid) (fits : op.Fits)
    (countable : ∀ sources, op = .fuser sources → sources.length ≤ 255) :
    ∀ row ∈ op.rows input output, Stacked 0 row := by
  have byte (b : UInt8) : b.toNat ≤ 255 := Nat.le_of_lt_succ b.toNat_lt
  have bit (b : Bool) : b.toNat ≤ 255 := Nat.le_trans (Bool.toNat_le b) (by decide)
  have least (n : Nat) : 1 ≤ max n 1 := Nat.le_max_right n 1
  have width (w : UInt8) : max w.toNat 1 ≤ 255 := Nat.max_le.mpr ⟨byte w, by decide⟩
  have frame : max input.geometry.frameLength 1 ≤ 255 := Nat.max_le.mpr ⟨valid.2.1, by decide⟩
  have fields : max input.geometry.widths.length 1 ≤ 255 :=
    Nat.max_le.mpr ⟨Geometry.fields_le valid, by decide⟩
  have values := Geometry.values_le valid
  have value : 1 ≤ max input.geometry.widths.length 1 * max input.geometry.units.toNat 1 :=
    Nat.mul_pos (least _) (least _)
  have spelled (bytes : Frame) : (∀ row ∈ BitField.spelled bytes, Stacked 0 row) ↔ True :=
    iff_true_intro (stacked_spelled bytes)
  cases op with
  | accumulate counting width =>
      have low : 1 ≤ width.toNat := fits.1
      simp [rows, Stacked, lessOne, plain, top, byte, bit, frame, least, low]
  | packer count =>
      have low : 1 ≤ count.toNat := fits.1
      simp [rows, Stacked, lessOne, top, byte, frame, least, low]
  | accounter mode length =>
      have low : 1 ≤ length.toNat := fits.1
      simp [rows, Stacked, lessOne, plain, top, whole, byte, low]
  | fuser sources =>
      have short := countable sources rfl
      simp [rows, Stacked, plain, top, whole, spelled, short]
  | math op operand every =>
      cases every <;>
        simp [rows, or_imp, forall_and, spelled, Stacked, lessOne, plain, top, whole, byte, bit,
          width, fields, least]
  | _ =>
      simp [rows, or_imp, forall_and, spelled, Stacked, lessOne, plain, top, whole, byte, bit, width,
        frame, fields, values, value, least]

/-- All bytes behind the code of an accepted operator are told, whatever its output, and so is the
selector of a valid signal. Its ranges keep their place and their length. -/
theorem fields_told {op : Operator} {input : Signal} {p : Product} (valid : input.geometry.Valid)
    (accepted : op.product input = .ok p)
    (countable : ∀ sources, op = .fuser sources → sources.length ≤ 255) :
    (∀ output : Signal,
      List.Forall₂ TellsRow (op.encode input output).tail (op.rows input output)) ∧
    ∀ s : Signal, s.geometry.Valid →
      TellsRow s.geometry.selector s.geometry.selectorRow ∧
      (∀ offset length r, s.range offset length = .ok r →
        (r.offset.toNat : Int) = offset ∧ (r.length.toNat : Int) = length) ∧
      s.wholeRange.offset.toNat = s.geometry.offset.toNat ∧
      s.wholeRange.length.toNat = s.geometry.unitLength := by
  refine ⟨fun output => ?told, fun s valid => ⟨Geometry.tellsRow_selector valid, ?part, ?whole⟩⟩
  case told =>
    rw [tail_encode output valid, List.forall₂_map_left_iff, List.forall₂_same]
    intro row mem
    exact tellsRow_byteOf (stacked_rows output valid (fits_of_product accepted) countable row mem)
  case part =>
    intro offset length r accepted
    obtain ⟨⟨start, some, -⟩, -, sameStart, sameLength⟩ := Signal.range_eq_ok valid accepted
    rw [sameStart, sameLength]
    exact ⟨Int.toNat_of_nonneg start, Int.toNat_of_nonneg some⟩
  case whole =>
    have inside := valid.2.2
    exact ⟨rfl, UInt8.toNat_ofNat_of_lt' (show s.geometry.unitLength < 256 by omega)⟩

/-- The average of a vector tells the width of its components, their number and their sign, and its
selector tells six bytes. -/
theorem fields_told_average :
    let v : Signal := .root .vector ⟨3, 4, 255⟩ ⟨[2, 2, 2], 1, 0, true⟩
    v.geometry.Valid ∧ ∃ p, (average 4 true).product v = .ok p ∧
      (average 4 true).rows v p.output =
        [[lessOne 2 2 0, lessOne 2 2 2, lessOne 3 2 4, plain 1 1 6, plain 1 1 7], whole 4] ∧
      List.Forall₂ TellsRow ((average 4 true).encode v p.output).tail
        ((average 4 true).rows v p.output) ∧
      v.geometry.selectorRow = [plain 0 5 0, lessOne 6 3 5] ∧
      TellsRow v.geometry.selector v.geometry.selectorRow := by
  intro v
  have valid : v.geometry.Valid := by decide
  have accepted : (average 4 true).product v = .ok _ := rfl
  obtain ⟨bytes, signals⟩ := fields_told valid accepted fun _ => nofun
  exact ⟨valid, _, rfl, rfl, bytes _, rfl, (signals v valid).1⟩

end Operator

end SensorHost
