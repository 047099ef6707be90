/-!
# Ticks

A generator counts time in ticks of a millisecond or of a second, from an origin that the offset
moves: the tick of a clock reading is the shifted time divided by the length of a tick, rounded
towards the past, and negative before the origin. `exactTick` is that number; `tick` is the same
as a 64-bit word, with what lies outside the word's range moved to its nearest end.

`millisUntil` answers how long it is until a tick begins, and is zero once it has begun.
-/

namespace Snowflake

/-- The length of a tick (`Resolution`). -/
inductive Resolution where
  | millisecond
  | second
  deriving DecidableEq, Repr, Inhabited

namespace Resolution

/-- Milliseconds in a tick (`Resolution::millis_per_tick`). -/
def millisPerTick : Resolution → Nat
  | .millisecond => 1
  | .second => 1000

/-- The name of a resolution, as it is stored and logged. -/
def label : Resolution → String
  | .millisecond => "Millisecond"
  | .second => "Second"

/-- The seconds from the origin of ticks to 1970 in new settings: the origin is the start of
2017 (`DEFAULT_TIMESTAMP_OFFSET`). -/
def defaultOffset : Int64 := -1483228800

/-- The number nearest to `n` that fits a signed 64-bit word. -/
def saturate (n : Int) : Int64 :=
  Int64.ofInt (max Int64.minValue.toInt (min Int64.maxValue.toInt n))

/-- Milliseconds since the origin. -/
def shifted (millis : UInt64) (offset : Int64) : Int := millis.toNat + offset.toInt * 1000

/-- The tick of a reading, however large. -/
def exactTick (r : Resolution) (millis : UInt64) (offset : Int64) : Int :=
  shifted millis offset / r.millisPerTick

/-- **The tick of a reading** (`Resolution::tick`). -/
def tick (r : Resolution) (millis : UInt64) (offset : Int64) : Int64 :=
  saturate (r.exactTick millis offset)

/-- **Milliseconds from a reading until a tick begins**, at most what a word holds
(`Resolution::millis_until`). -/
def millisUntil (r : Resolution) (tick millis : UInt64) (offset : Int64) : UInt64 :=
  UInt64.ofNat
    (min (UInt64.size - 1) (tick.toNat * r.millisPerTick - shifted millis offset).toNat)

end Resolution

end Snowflake
