/-!
# Clocks

A clock is a machine that is read and slept on. `Clock σ` says what a `TimeSource` looks like from
a generator: `read` gives milliseconds since 1970 or a fault, `sleep` lets a number of milliseconds
pass, `startCall` marks the start of a call that may read several times, and `patience` bounds the
readings that one call takes. A fault is a reading that panics, and a call that takes it ends there.

The clocks here live in virtual time, which only moves when it is told to or slept on:

* `Script`: readings fixed in advance. The last one stays; a gap is a fault; a call that reads
  more than `Script.limit` times finds the clock stalled.
* `WallClock`: the time of day in nanoseconds, which may be set back. Before 1970 it reads zero.
* `MonotonicClock`: an anchor plus the milliseconds since the clock was made, as its ticker has
  published them. The wall clock does not enter. A sum that no word holds is a fault.

`Source` is one of the three.
-/

namespace Snowflake

/-- How reading a clock can fail. -/
inductive Clock.Fault where
  /-- There is no reading. -/
  | failed
  /-- One call has read too often. -/
  | stalled
  /-- The reading does not fit the word. -/
  | overflow
  deriving DecidableEq, Repr

/-- The wording of a clock's failure. -/
def Clock.Fault.message : Clock.Fault → String
  | .failed => "clock failed"
  | .stalled => "clock stalled"
  | .overflow => "attempt to add with overflow"

/-- A clock with states in `σ`. -/
class Clock (σ : Type) where
  /-- A call begins. -/
  startCall : σ → σ
  /-- Take a reading in milliseconds (`TimeSource::current_millis`). -/
  read : σ → Except Clock.Fault UInt64 × σ
  /-- Let some milliseconds pass. -/
  sleep : UInt64 → σ → σ
  /-- More readings than a call that began here will take. -/
  patience : σ → Nat

/-! ## Readings fixed in advance -/

/-- A queue of readings. -/
structure Script where
  /-- The readings to come; `none` is a fault. -/
  queue : List (Option UInt64)
  /-- Readings taken since the call began. -/
  taken : Nat
  deriving Repr

namespace Script

/-- The readings that one call may take. -/
def limit : Nat := 50

/-- The queue after its front is taken: the last reading stays. -/
def rest : List (Option UInt64) → List (Option UInt64)
  | _ :: next :: more => next :: more
  | queue => queue

/-- Take the front of the queue. -/
def read (script : Script) : Except Clock.Fault UInt64 × Script :=
  let after := ⟨rest script.queue, script.taken + 1⟩
  if limit ≤ script.taken then (.error .stalled, after)
  else
    match script.queue.head? with
    | some (some millis) => (.ok millis, after)
    | _ => (.error .failed, after)

instance : Clock Script where
  startCall script := { script with taken := 0 }
  read := read
  sleep _ script := script
  patience _ := limit + 1

end Script

/-! ## Virtual time -/

/-- Nanoseconds in a millisecond. -/
def nanosPerMilli : Nat := 1000000

/-- The time of day, as `SystemClock` reads it. -/
structure WallClock where
  /-- Nanoseconds since 1970. -/
  nanos : Int
  deriving DecidableEq, Repr

namespace WallClock

/-- Whole milliseconds since 1970, as a word; zero before. -/
def millis (clock : WallClock) : UInt64 := UInt64.ofNat (clock.nanos.toNat / nanosPerMilli)

/-- Let time pass, or set the clock. -/
def move (clock : WallClock) (nanos : Int) : WallClock := ⟨clock.nanos + nanos⟩

instance : Clock WallClock where
  startCall := id
  read clock := (.ok clock.millis, clock)
  sleep millis clock := clock.move (millis.toNat * nanosPerMilli : Nat)
  patience clock := (-clock.nanos).toNat / nanosPerMilli + 4

end WallClock

/-- Time since the clock was made, on top of an anchor (`MonotonicClock`). -/
structure MonotonicClock where
  /-- The reading at the start, in milliseconds. -/
  anchor : UInt64
  /-- Nanoseconds since the start. -/
  elapsed : Nat
  /-- The most milliseconds that the ticker has published: the counter that clones share. -/
  published : UInt64
  deriving DecidableEq, Repr

namespace MonotonicClock

/-- A clock that starts at the anchor, whatever that is (`MonotonicClock::with_anchor`). -/
def start (anchor : UInt64) : MonotonicClock := ⟨anchor, 0, 0⟩

/-- The anchor and what was published, as a word. -/
def millis (clock : MonotonicClock) : UInt64 := clock.anchor + clock.published

/-- **The reading** (`MonotonicClock::current_millis`): the sum, if the word holds it. The
addition is a checked one. -/
def reading (clock : MonotonicClock) : Except Clock.Fault UInt64 :=
  if clock.anchor.toNat + clock.published.toNat < UInt64.size then .ok clock.millis
  else .error .overflow

/-- The ticker publishes what it measured, unless more is published already. -/
def publish (clock : MonotonicClock) (measured : UInt64) : MonotonicClock :=
  { clock with published := max clock.published measured }

/-- Let time pass; the ticker keeps up. -/
def pass (clock : MonotonicClock) (nanos : Nat) : MonotonicClock :=
  { clock with elapsed := clock.elapsed + nanos }.publish
    (UInt64.ofNat ((clock.elapsed + nanos) / nanosPerMilli))

instance : Clock MonotonicClock where
  startCall := id
  read clock := (clock.reading, clock)
  sleep millis clock := clock.pass (millis.toNat * nanosPerMilli)
  patience _ := 4

end MonotonicClock

/-! ## Any of them -/

/-- A clock of one of the three kinds. -/
inductive Source where
  | script (script : Script)
  | wall (clock : WallClock)
  | monotonic (clock : MonotonicClock)
  deriving Repr

namespace Source

/-- A call begins. -/
def startCall : Source → Source
  | .script clock => .script (Clock.startCall clock)
  | .wall clock => .wall (Clock.startCall clock)
  | .monotonic clock => .monotonic (Clock.startCall clock)

/-- Take a reading. -/
def read : Source → Except Clock.Fault UInt64 × Source
  | .script clock => (Clock.read clock).map id .script
  | .wall clock => (Clock.read clock).map id .wall
  | .monotonic clock => (Clock.read clock).map id .monotonic

/-- Let some milliseconds pass. -/
def sleep (millis : UInt64) : Source → Source
  | .script clock => .script (Clock.sleep millis clock)
  | .wall clock => .wall (Clock.sleep millis clock)
  | .monotonic clock => .monotonic (Clock.sleep millis clock)

/-- A bound on the readings of one call. -/
def patience : Source → Nat
  | .script clock => Clock.patience clock
  | .wall clock => Clock.patience clock
  | .monotonic clock => Clock.patience clock

instance : Clock Source := ⟨startCall, read, sleep, patience⟩

/-- Replace the readings of a script. -/
def load (queue : List (Option UInt64)) : Source → Source
  | .script clock => .script { clock with queue }
  | source => source

/-- Let nanoseconds of virtual time pass. -/
def pass (nanos : Nat) : Source → Source
  | .wall clock => .wall (clock.move nanos)
  | .monotonic clock => .monotonic (clock.pass nanos)
  | source => source

/-- Set the time of day by a number of nanoseconds. Only the wall clock shows it. -/
def stepWall (nanos : Int) : Source → Source
  | .wall clock => .wall (clock.move nanos)
  | source => source

end Source

end Snowflake
