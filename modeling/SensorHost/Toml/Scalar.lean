import SensorHost.Toml.Item

/-!
# Numbers, dates and times

The values that are written without quotes or brackets. Such a value ends where the run of
characters ends that can stand in one, so the run is taken first and then read as a whole.

Integers are held to 64 bits. A real that is too large for a double is refused.
-/

namespace SensorHost.Toml

/-- Characters that can stand in a value without quotes. -/
def isScalarChar (c : Char) : Bool :=
  c.isAlphanum || c = '_' || c = '+' || c = '-' || c = '.' || c = ':'

/-! ## Digits -/

/-- The digits of a number without the marks between them; a mark stands between two digits. -/
def plainDigits? (isDigit : Char → Bool) : List Char → Option (List Char)
  | [] => none
  | [c] => if isDigit c then some [c] else none
  | c :: '_' :: rest =>
    if isDigit c then (plainDigits? isDigit rest).map (c :: ·) else none
  | c :: rest => if isDigit c then (plainDigits? isDigit rest).map (c :: ·) else none

/-- The value of a digit up to `f`. -/
def digitValue (c : Char) : Nat :=
  if c.isDigit then c.toNat - '0'.toNat
  else if c.isLower then c.toNat - 'a'.toNat + 10
  else c.toNat - 'A'.toNat + 10

def isHexDigit (c : Char) : Bool :=
  c.isDigit || ('a' ≤ c && c ≤ 'f') || ('A' ≤ c && c ≤ 'F')

/-- The number that digits spell. -/
def ofDigits (base : Nat) (digits : List Char) : Nat :=
  digits.foldl (fun n c => n * base + digitValue c) 0

/-- The digits of a decimal number, which starts with a zero only if it is zero. -/
def decimal? (cs : List Char) : Option (List Char) :=
  match plainDigits? Char.isDigit cs with
  | some ('0' :: _ :: _) => none
  | digits => digits

/-- Whether a number is negative, and its characters after the sign. -/
def splitSign : List Char → Bool × List Char
  | '-' :: rest => (true, rest)
  | '+' :: rest => (false, rest)
  | cs => (false, cs)

/-! ## Integers -/

/-- The integer that a run spells, of any size. -/
def unboundedInteger? : List Char → Option Int
  | '0' :: 'x' :: rest => (plainDigits? isHexDigit rest).map fun ds => (ofDigits 16 ds : Int)
  | '0' :: 'o' :: rest =>
    (plainDigits? (fun c => '0' ≤ c && c ≤ '7') rest).map fun ds => (ofDigits 8 ds : Int)
  | '0' :: 'b' :: rest =>
    (plainDigits? (fun c => c = '0' || c = '1') rest).map fun ds => (ofDigits 2 ds : Int)
  | cs =>
    let (negative, digits) := splitSign cs
    (decimal? digits).map fun ds =>
      if negative then -(ofDigits 10 ds : Int) else (ofDigits 10 ds : Int)

/-- The least and the greatest integer of a document. -/
def minInteger : Int := -0x8000000000000000

def maxInteger : Int := 0x7fffffffffffffff

/-- The integer that a run spells. -/
def integer? (cs : List Char) : Option Int :=
  (unboundedInteger? cs).filter fun n => minInteger ≤ n ∧ n ≤ maxInteger

/-! ## Reals -/

/-- Whether the positive number `digits · 10 ^ exponent` is too large for a double, once it is
rounded to the nearest. -/
def exceedsDouble (digits : List Char) (exponent : Int) : Bool :=
  let m := ofDigits 10 digits
  let limit := (Nat.pow 2 54 - 1) * Nat.pow 2 970
  let size : Int := (Nat.toDigits 10 m).length + exponent
  if m = 0 ∨ size < 300 then false
  else if size > 320 then true
  else if 0 ≤ exponent then limit ≤ m * Nat.pow 10 exponent.toNat
  else limit * Nat.pow 10 (-exponent).toNat ≤ m

/-- The exponent after its letter, if these characters are one. -/
def exponent? (cs : List Char) : Option Int :=
  let (negative, digits) := splitSign cs
  (plainDigits? Char.isDigit digits).map fun ds =>
    if negative then -(ofDigits 10 ds : Int) else (ofDigits 10 ds : Int)

/-- The digits, the number of places after the point and the exponent of an unsigned real. -/
def realParts? (cs : List Char) : Option (List Char × Nat × Int) := do
  let isPart (c : Char) : Bool := c.isDigit || c = '_'
  let whole ← decimal? (cs.takeWhile isPart)
  let exponentOf : List Char → Option Int
    | 'e' :: rest => exponent? rest
    | 'E' :: rest => exponent? rest
    | _ => none
  match cs.dropWhile isPart with
  | '.' :: rest =>
    let places ← plainDigits? Char.isDigit (rest.takeWhile isPart)
    let exponent ← match rest.dropWhile isPart with
      | [] => some 0
      | tail => exponentOf tail
    return (whole ++ places, places.length, exponent)
  | tail => return (whole, 0, ← exponentOf tail)

/-- Whether a run spells a real. -/
def isReal (cs : List Char) : Bool :=
  let (negative, rest) := splitSign cs
  if rest = ['i', 'n', 'f'] ∨ rest = ['n', 'a', 'n'] then true
  else
    match realParts? rest with
    | none => false
    | some (digits, places, exponent) => negative || !exceedsDouble digits (exponent - places)

/-! ## Dates and times -/

/-- A number of two digits between two bounds. -/
def pairWithin (low high : Nat) (a b : Char) : Bool :=
  a.isDigit && b.isDigit && low ≤ ofDigits 10 [a, b] && ofDigits 10 [a, b] ≤ high

/-- The days of a month, of February in leap years one more. -/
def daysOfMonth (year month : Nat) : Nat :=
  if month = 2 then
    if year % 4 = 0 ∧ (year % 100 ≠ 0 ∨ year % 400 = 0) then 29 else 28
  else if month = 4 ∨ month = 6 ∨ month = 9 ∨ month = 11 then 30
  else 31

/-- What follows a date. -/
def afterDate? : List Char → Option (List Char)
  | y₁ :: y₂ :: y₃ :: y₄ :: '-' :: m₁ :: m₂ :: '-' :: d₁ :: d₂ :: rest =>
    let year := ofDigits 10 [y₁, y₂, y₃, y₄]
    let month := ofDigits 10 [m₁, m₂]
    if [y₁, y₂, y₃, y₄].all Char.isDigit && pairWithin 1 12 m₁ m₂
        && pairWithin 1 (daysOfMonth year month) d₁ d₂ then some rest
    else none
  | _ => none

/-- What follows a time of day. -/
def afterClock? : List Char → Option (List Char)
  | h₁ :: h₂ :: ':' :: m₁ :: m₂ :: ':' :: s₁ :: s₂ :: rest =>
    if pairWithin 0 23 h₁ h₂ && pairWithin 0 59 m₁ m₂ && pairWithin 0 60 s₁ s₂ then
      match rest with
      | '.' :: fraction =>
        if (fraction.takeWhile Char.isDigit).isEmpty then none
        else some (fraction.dropWhile Char.isDigit)
      | rest => some rest
    else none
  | _ => none

/-- Whether these characters are an offset from universal time, or nothing. -/
def isOffset : List Char → Bool
  | [] | ['Z'] | ['z'] => true
  | [sign, h₁, h₂, ':', m₁, m₂] =>
    (sign = '+' || sign = '-') && pairWithin 0 23 h₁ h₂ && pairWithin 0 59 m₁ m₂
  | _ => false

/-- Whether a run spells a date, a time, or a date and a time. -/
def isMoment (cs : List Char) : Bool :=
  match afterDate? cs with
  | some [] => true
  | some (mark :: clock) =>
    (mark = 'T' || mark = 't' || mark = ' ') && (afterClock? clock).any isOffset
  | none => afterClock? cs = some []

/-! ## Any of them -/

/-- The value that a run spells. -/
def scalar? (cs : List Char) : Option Item :=
  if cs = ['t', 'r', 'u', 'e'] then some (.boolean true)
  else if cs = ['f', 'a', 'l', 's', 'e'] then some (.boolean false)
  else
    match integer? cs with
    | some n => some (.integer n)
    | none =>
      if isReal cs then some (.real (String.ofList cs))
      else if isMoment cs then some (.moment (String.ofList cs))
      else none

/-- Reads a value without quotes. A time may follow its date after a blank. -/
def readScalar? (cs : List Char) : Option (Item × List Char) := do
  let run := cs.takeWhile isScalarChar
  let rest := cs.dropWhile isScalarChar
  match afterDate? run, rest with
  | some [], ' ' :: after =>
    let clock := after.takeWhile isScalarChar
    if clock.isEmpty then return (.moment (String.ofList run), rest)
    return (← scalar? (run ++ ' ' :: clock), after.dropWhile isScalarChar)
  | _, _ => return (← scalar? run, rest)

end SensorHost.Toml
