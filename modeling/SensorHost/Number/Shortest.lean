/-!
# Shortest decimals

A binary number with a limited significand stands for every rational that rounds to it, which is
an interval around its value. The decimal to write for it is the shortest one inside the
interval: the multiple of the largest power of ten that falls into it, and of two such multiples
the nearer to the value, the even one if both are as near.

Everything is exact arithmetic on natural numbers.
-/

namespace SensorHost

/-- The number `digits · 10 ^ exponent`. -/
structure Decimal where
  digits : Nat
  exponent : Int
deriving DecidableEq, Repr

/-- The rationals that round to a positive binary number: from `low` to `high`, in units of
`2 ^ exponent`. -/
structure RoundingCell where
  low : Nat
  value : Nat
  high : Nat
  exponent : Int
  /-- Whether the ends belong to the cell. -/
  closed : Bool
deriving DecidableEq, Repr

namespace RoundingCell

/-- The cell of the number `significand · 2 ^ exponent`, in quarters of its last place. Below a
power of two the numbers lie twice as close. -/
def ofParts (significand : Nat) (exponent : Int) (closeBelow : Bool) : RoundingCell where
  low := 4 * significand - (if closeBelow then 1 else 2)
  value := 4 * significand
  high := 4 * significand + 2
  exponent := exponent - 2
  closed := significand % 2 = 0

/-- The cell of a single other than zero, taken without its sign. -/
def ofSingle (x : Float32) : RoundingCell :=
  let bits := x.toBits.toNat % 0x80000000
  let field := bits / 0x800000
  let fraction := bits % 0x800000
  ofParts (if field = 0 then fraction else 0x800000 + fraction) ((max field 1 : Nat) - 150)
    (fraction = 0 && 1 < field)

/-- The multiple of `10 ^ e` in the cell that is nearest to its value. -/
def multiple? (c : RoundingCell) (e : Int) : Option Nat :=
  -- A unit of the cell and a step of the grid, in the same measure.
  let unit := Nat.pow 2 c.exponent.toNat * Nat.pow 10 (-e).toNat
  let step := Nat.pow 2 (-c.exponent).toNat * Nat.pow 10 e.toNat
  let inside (n : Nat) : Bool :=
    if c.closed then c.low * unit ≤ n * step && n * step ≤ c.high * unit
    else c.low * unit < n * step && n * step < c.high * unit
  let value := c.value * unit
  let below := value / step
  let above := below + 1
  match inside below, inside above with
  | true, true =>
    let toBelow := value - below * step
    let toAbove := above * step - value
    if toBelow < toAbove then some below
    else if toAbove < toBelow then some above
    else some (if below % 2 = 0 then below else above)
  | true, false => some below
  | false, true => some above
  | false, false => none

/-- The first of `count` powers of ten, from `10 ^ e` downwards, with a multiple in the cell. -/
def search (c : RoundingCell) : Nat → Int → Decimal
  | 0, _ => ⟨0, 0⟩
  | count + 1, e =>
    match c.multiple? e with
    | some digits => ⟨digits, e⟩
    | none => search c count (e - 1)

end RoundingCell

namespace Single

/-- The shortest decimal for a single other than zero, taken without its sign. No single exceeds
`10 ^ 39`, and a cell is never narrower than `10 ^ -46`. -/
def shortest (x : Float32) : Decimal := (RoundingCell.ofSingle x).search 86 39

end Single

end SensorHost
