/-!
# Runtimes

A runtime lets requests and calls sleep. It is told when a sleep begins and how long it is to be, and
it decides when the sleep ends. All that may be relied on is that a sleep ends when its time is over
if it is not longer than `Runtime.longestSleep` (`Runtime.Punctual`). Times are in milliseconds.
-/

namespace SensorHost

/-- What lets requests and calls sleep. -/
structure Runtime where
  /-- The moment at which a sleep ends, from the moment at which it begins and its length. -/
  wakes : Nat → Nat → Nat

namespace Runtime

/-- The longest sleep that runtimes promise to keep, a little more than two years. -/
def longestSleep : Nat := 68719476734

/-- Every sleep that is not too long ends when its time is over. -/
def Punctual (r : Runtime) : Prop :=
  ∀ now length, length ≤ longestSleep → r.wakes now length = now + length

/-- What is known of the end of a sleep. -/
structure Ends (r : Runtime) (now length moment : Nat) : Prop where
  wakes : r.wakes now length = moment
  onTime : length ≤ longestSleep → moment = now + length

theorem Punctual.ends {r : Runtime} (h : r.Punctual) (now length : Nat) :
    r.Ends now length (r.wakes now length) :=
  ⟨rfl, h now length⟩

/-- The runtime of a clock that is moved by hand. A sleep of more nanoseconds than 63 bits tell ends
after thirty years of 365 days instead. -/
def virtual : Runtime :=
  ⟨fun now length => if length ≤ 9223372036854 then now + length else now + 946080000000⟩

theorem virtual_punctual : virtual.Punctual := by
  intro now length short
  have told : length ≤ 9223372036854 := Nat.le_trans short (by decide)
  show (if length ≤ 9223372036854 then now + length else now + 946080000000) = now + length
  rw [if_pos told]

end Runtime

end SensorHost
