import Snowflake.Generator.Basic

/-!
# Trace events

What a generator reports while it works. Each event has a level, a message and named values, all
written as text; entering a call is a span and has neither message nor values.
-/

namespace Snowflake

/-- How much an event matters. -/
inductive Level where
  | trace
  | debug
  | warn
  deriving DecidableEq, Repr

/-- The name of a level. -/
def Level.label : Level → String
  | .trace => "TRACE"
  | .debug => "DEBUG"
  | .warn => "WARN"

/-- Something that a generator reports. -/
inductive Event where
  /-- A generator was built, with this seed. -/
  | built (generator : Generator) (seed : Slot)
  /-- A call was entered. -/
  | entered
  /-- The tick is used up and the call begins to wait. -/
  | waiting (tick : UInt64)
  /-- The clock reads an earlier tick than the last one issued. -/
  | movedBackwards (now : Int64) (last : UInt64)
  /-- The clock reads past the timestamp field. -/
  | exhausted (error : Error)
  deriving DecidableEq, Repr

namespace Event

/-- The level of an event. -/
def level : Event → Level
  | .built .. => .debug
  | .entered => .trace
  | .waiting _ => .trace
  | .movedBackwards .. => .warn
  | .exhausted _ => .warn

/-- The message of an event; entering a call has none. -/
def message? : Event → Option String
  | .built .. => some "built generator"
  | .entered => none
  | .waiting _ => some "sequence exhausted, waiting"
  | .movedBackwards .. => some "clock moved backwards"
  | .exhausted _ => some "timestamp field exhausted"

/-- The named values of an event, as text. -/
def fields : Event → List (String × String)
  | .built generator seed =>
    [("generator_id", toString generator.generatorId),
      ("timestamp_offset", toString generator.offset),
      ("resolution", generator.resolution.label),
      ("wait_sequence", if generator.waits then "true" else "false"),
      ("timestamp_last", toString seed.tick),
      ("sequence", toString seed.sequence)]
  | .entered => []
  | .waiting tick => [("tick", toString tick)]
  | .movedBackwards now last => [("now", toString now), ("last", toString last)]
  | .exhausted error => [("error", error.message)]

end Event

end Snowflake
