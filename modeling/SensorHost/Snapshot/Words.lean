import SensorHost.Operator.Basic

/-!
# Words of a snapshot

The words by which a snapshot names kinds, modes and operations.
-/

namespace SensorHost

def Kind.words : List (Kind × String) :=
  [(uint, "Uint"), (int, "Int"), (bool, "Bool"), (ufloat, "UFloat"), (sfloat, "SFloat"),
   (bytes, "Bytes"), (vector, "Vector"), (array, "Array")]

def PassthroughMode.words : List (PassthroughMode × String) :=
  [(all, "All"), (conditional, "Conditional"), (count, "Count")]

def TimeMode.words : List (TimeMode × String) :=
  [(absolute, "Absolute"), (differential, "Differential")]

def MathOp.words : List (MathOp × String) :=
  [(add, "Add"), (multiply, "Multiply"), (divide, "Divide"), (modulus, "Modulus"),
   (exponent, "Exponent"), (sqrt, "Sqrt"), (leftShift, "LeftShift"), (rightShift, "RightShift"),
   (subtract, "Subtract"), (absValue, "AbsValue"), (constant, "Constant")]

def PulseMode.words : List (PulseMode × String) :=
  [(width, "Width"), (area, "Area"), (peak, "Peak"), (onDetect, "OnDetect")]

def ComparisonOp.words : List (ComparisonOp × String) :=
  [(eq, "Eq"), (neq, "Neq"), (lt, "Lt"), (lte, "Lte"), (gt, "Gt"), (gte, "Gte")]

def ComparisonOutput.words : List (ComparisonOutput × String) :=
  [(absolute, "Absolute"), (reference, "Reference"), (zone, "Zone"), (passFail, "PassFail")]

def ThresholdMode.words : List (ThresholdMode × String) :=
  [(absolute, "Absolute"), (binary, "Binary")]

def DifferentialMode.words : List (DifferentialMode × String) :=
  [(absolute, "Absolute"), (difference, "Difference"), (binary, "Binary")]

def AccounterMode.words : List (AccounterMode × String) := [(count, "Count"), (time, "Time")]

def CombineMode.words : List (CombineMode × String) := [(rms, "Rms"), (rss, "Rss")]

end SensorHost
