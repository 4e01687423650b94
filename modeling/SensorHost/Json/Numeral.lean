import SensorHost.Number.Shortest
import SensorHost.Number.Single

/-!
# Numerals

The numbers of a JSON text as they are written. A numeral without fraction and exponent is an
integer if its digits fit into 64 bits; any other is read as a double. Digits beyond the 64 bits
of the significand count for their place only, and the double is the significand multiplied or
divided by a power of ten, which is exact only where the significand and the power are. A numeral
that exceeds the doubles has no value.

A single is written with the shortest digits that read back, positionally if its first digit has
a place between `10 ^ -6` and `10 ^ 12`, and with an exponent otherwise.
-/

namespace SensorHost.Json

/-- A number as it is written. -/
structure Numeral where
  negative : Bool
  /-- The digits before the point; there is at least one. -/
  whole : List Char
  /-- The digits after the point. -/
  fraction : List Char
  exponent : Option Int
deriving DecidableEq, Repr

namespace Numeral

/-! ## Writing -/

def exponentText : Option Int → String
  | none => ""
  | some e => (if e < 0 then "e-" else "e+") ++ toString e.natAbs

def text (n : Numeral) : String :=
  (if n.negative then "-" else "") ++ String.ofList n.whole
    ++ (if n.fraction.isEmpty then "" else "." ++ String.ofList n.fraction)
    ++ exponentText n.exponent

def ofNat (n : Nat) : Numeral := ⟨false, Nat.toDigits 10 n, [], none⟩

/-- The places of the first digit for which a single is written positionally. -/
def isPositional (place : Int) : Bool := -6 ≤ place && place ≤ 12

/-- Digits of which the first has this place; at least one digit is written on each side of a
point. -/
def ofDigits (negative : Bool) (digits : List Char) (place : Int) : Numeral :=
  if !isPositional place then
    ⟨negative, digits.take 1, digits.drop 1, some place⟩
  else if place < 0 then
    ⟨negative, ['0'], List.replicate (-place - 1).toNat '0' ++ digits, none⟩
  else
    let count := place.toNat + 1
    let whole := digits.take count ++ List.replicate (count - digits.length) '0'
    ⟨negative, whole, if digits.length ≤ count then ['0'] else digits.drop count, none⟩

/-- The numeral of a finite single. -/
def ofSingle (x : Float32) : Numeral :=
  let negative := 0x80000000 ≤ x.toBits.toNat
  if x == 0 then ofDigits negative ['0'] 0
  else
    let shortest := Single.shortest x
    let digits := Nat.toDigits 10 shortest.digits
    ofDigits negative digits (digits.length - 1 + shortest.exponent)

/-! ## Reading values -/

def digitValue (c : Char) : Nat := c.toNat - '0'.toNat

/-- Appends digits to a significand as long as it fits into 64 bits, and gives the number of
digits that are left over. -/
def absorb : Nat → List Char → Nat × Nat
  | significand, [] => (significand, 0)
  | significand, c :: rest =>
    let next := significand * 10 + digitValue c
    if next < UInt64.size then absorb next rest else (significand, rest.length + 1)

/-- The integer that a numeral writes. There is no negative zero among the integers. -/
def int? (n : Numeral) : Option Int :=
  match n.fraction, n.exponent, absorb 0 n.whole with
  | [], none, (magnitude, 0) =>
    if !n.negative then some magnitude
    else if 0 < magnitude ∧ magnitude ≤ 0x8000000000000000 then some (-magnitude)
    else none
  | _, _, _ => none

/-- The natural number below a bound that a numeral writes. -/
def nat? (bound : Nat) (n : Numeral) : Option Nat :=
  match n.int? with
  | some (.ofNat k) => if k < bound then some k else none
  | _ => none

/-- The double nearest to a power of ten. -/
def powerOfTen (n : Nat) : Float := Float.ofScientific 1 false n

/-- The greatest power of ten that a double can hold. -/
def greatestPower : Nat := 308

/-- A number times a power of ten, unless it exceeds the doubles. A small power is applied in
steps, and a few of them leave nothing of any number. -/
def scaled? : Nat → Float → Int → Option Float
  | 0, _, _ => some 0
  | steps + 1, x, exponent =>
    if exponent.natAbs ≤ greatestPower then
      if 0 ≤ exponent then
        let y := x * powerOfTen exponent.natAbs
        if y.isInf then none else some y
      else some (x / powerOfTen exponent.natAbs)
    else if x == 0 then some x
    else if 0 ≤ exponent then none
    else scaled? steps (x / powerOfTen greatestPower) (exponent + greatestPower)

/-- The double that a numeral writes. -/
def double? (n : Numeral) : Option Float :=
  let (significand, skipped) := absorb 0 n.whole
  let (significand, left) := absorb significand n.fraction
  let places : Int := n.fraction.length - left
  let exponent : Int := skipped - places + n.exponent.getD 0
  (scaled? 5 (UInt64.ofNat significand).toFloat exponent).map fun x => if n.negative then -x else x

/-- The single that a numeral writes: an integer is rounded once, any other number first to a
double. -/
def single? (n : Numeral) : Option Float32 :=
  match n.int? with
  | some k => some (Single.ofInt k)
  | none => n.double?.map Single.ofDouble

end Numeral

end SensorHost.Json
