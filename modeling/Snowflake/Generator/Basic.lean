import Snowflake.Resolution
import Snowflake.Slot

/-!
# What is fixed about a generator

A generator is made with an id, an origin of time, a length of tick and a rule for a tick that is
used up. None of these change afterwards; what changes is the last slot, which is kept apart. The
two together are what `GeneratorConfig::build_with_clock` returns.
-/

namespace Snowflake

/-- The fixed part of a generator. -/
structure Generator where
  /-- What its identifiers carry in their generator field. -/
  generatorId : UInt16
  /-- Seconds added to the clock before ticks are counted (`timestamp_offset`). -/
  offset : Int64
  /-- The length of a tick. -/
  resolution : Resolution
  /-- Wait for the next tick when the current one is used up (`wait_on_overflow`). -/
  waits : Bool
  deriving DecidableEq, Repr

namespace Generator

/-- The current tick. -/
def tick (g : Generator) (millis : UInt64) : Int64 := g.resolution.tick millis g.offset

/-- How long to sleep when the tick of `last` is used up: until the next tick, and never less
than a millisecond (`Generator::sleep_until_after`). A last tick that fits its field has a next
one among the words. -/
def pause (g : Generator) (last : Slot) (millis : UInt64) : UInt64 :=
  max 1 (g.resolution.millisUntil (last.tick + 1) millis g.offset)

end Generator

end Snowflake
