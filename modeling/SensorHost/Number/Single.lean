/-!
# Single precision numbers at the wire

Scales, operands and decoded fixed-point values are IEEE-754 single precision numbers. Sums and
products of them are those of `Float32`; this module adds the passages between such a number
and the integers that travel in frames, and the narrowing of a double.
-/

namespace SensorHost.Single

/-- The single nearest to an integer, a tie going to the even significand. -/
def ofInt (n : Int) : Float32 :=
  .ofModel (.ofInt n)

/-- The integer part, held to the range of 64-bit integers; zero for what is not a number. -/
def toInt64 (x : Float32) : Int :=
  x.toModel.toInt64.toInt

/-- The integer part, held to the range of 32-bit integers; zero for what is not a number. -/
def toInt32 (x : Float32) : Int :=
  x.toModel.toInt32.toInt

open Float.Model in
/-- The single nearest to a double, a tie going to the even significand. -/
def ofDouble (x : Float) : Float32 :=
  .ofModel <| .pack <|
    match x.toModel.unpack with
    | .finite sign mantissa exponent _ => UnpackedFloat.round Format.binary32 sign mantissa exponent
    | other => other

end SensorHost.Single
