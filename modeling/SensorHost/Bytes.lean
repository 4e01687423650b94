/-!
# Bytes and frames

Traffic with a board is a sequence of frames, and a frame is a list of bytes. This module
holds what every layer needs of them: the hexadecimal texts that messages quote, and the
little-endian reading and writing of integers.

`LittleEndian.encode_length` says that a written integer has exactly the width asked for, and
`LittleEndian.unsigned_lt` that `n` bytes read back as a number below `256 ^ n`.
-/

namespace SensorHost

/-- One message to or from the board. -/
abbrev Frame := List UInt8

namespace Hex

/-- A byte as two lower-case hexadecimal digits. -/
def byte (b : UInt8) : String :=
  String.ofList [Nat.digitChar (b.toNat / 16), Nat.digitChar (b.toNat % 16)]

/-- The bytes of a frame run together, as in `0902ff`. -/
def compact (frame : Frame) : String :=
  String.join (frame.map byte)

/-- The bytes of a frame separated by dashes, as in `09-02-ff`. -/
def dashed (frame : Frame) : String :=
  "-".intercalate (frame.map byte)

/-- The bytes of a frame as a bracketed list, as in `[09, 02, ff]`. -/
def listing (frame : Frame) : String :=
  "[" ++ ", ".intercalate (frame.map byte) ++ "]"

end Hex

namespace LittleEndian

/-- The lowest `width` bytes of an integer in two's complement, lowest byte first. -/
def encode : Nat → Int → Frame
  | 0, _ => []
  | width + 1, value => UInt8.ofNat (value % 256).toNat :: encode width (value / 256)

/-- The number that bytes spell, lowest byte first. -/
def unsigned : Frame → Nat
  | [] => 0
  | b :: rest => b.toNat + 256 * unsigned rest

/-- The top bit of the last byte, which is the sign of a two's complement number. -/
def isNegative (bytes : Frame) : Bool :=
  bytes.getLast?.any (128 ≤ ·.toNat)

/-- The two's complement number that bytes spell, lowest byte first. -/
def signed (bytes : Frame) : Int :=
  if isNegative bytes then unsigned bytes - Nat.pow 256 bytes.length else unsigned bytes

theorem encode_length (width : Nat) (value : Int) : (encode width value).length = width := by
  induction width generalizing value with
  | zero => rfl
  | succ n ih => simp [encode, ih]

theorem unsigned_lt (bytes : Frame) : unsigned bytes < Nat.pow 256 bytes.length := by
  induction bytes with
  | nil => simp [unsigned]
  | cons b rest ih =>
    have hb : b.toNat < 256 := UInt8.toNat_lt b
    have step : Nat.pow 256 (rest.length + 1) = Nat.pow 256 rest.length * 256 := rfl
    simp only [unsigned, List.length_cons]
    omega

end LittleEndian

end SensorHost
