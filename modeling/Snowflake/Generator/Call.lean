import Snowflake.Clock
import Snowflake.Event

/-!
# Calls

A call is one of `Generator::next`. `Generator.attempt` is the body of its loop: it decides what
one clock reading leads to, a slot, a wait or a refusal. A call takes readings until one of them is
not a wait, and sleeps in between; `Generator.next` is the whole call, with the readings and sleeps
it took, the events it reported and the last slot after it. Only a call that issues moves the last
slot.

A `Cell` holds the last slot behind a lock, as the mutex of a generator does. A call holds the lock
from its first reading to its end, and a clock that fails in between poisons the cell: from then on
every call is refused and no reading is taken.
-/

namespace Snowflake

/-- What one reading leads to. -/
inductive Attempt where
  /-- The next slot is given out. -/
  | issue (slot : Slot)
  /-- Sleep and read again. -/
  | wait (millis : UInt64)
  /-- The call fails, with what it reports. -/
  | refuse (error : Error) (reports : List Event)
  deriving DecidableEq, Repr

/-- How a call ends. -/
inductive Outcome where
  /-- With an identifier. -/
  | issued (id : Id)
  /-- With an error. -/
  | refused (error : Error)
  /-- The clock failed. -/
  | faulted (fault : Clock.Fault)
  /-- Not at all, within the patience of its clock. -/
  | unfinished
  deriving DecidableEq, Repr

/-- A call: how it ended and what it did on the way. -/
structure Call where
  outcome : Outcome
  /-- Number of clock readings. -/
  readings : Nat
  /-- Milliseconds of each sleep. -/
  sleeps : List UInt64
  events : List Event
  deriving DecidableEq, Repr

namespace Call

/-- A call that ends without a reading. -/
def immediate (outcome : Outcome) : Call := ⟨outcome, 0, [], []⟩

/-- A call that ends with one reading. -/
def single (outcome : Outcome) (events : List Event) : Call := ⟨outcome, 1, [], events⟩

/-- The call that reads, reports, sleeps and then goes on as `rest`. -/
def resume (events : List Event) (millis : UInt64) (rest : Call) : Call :=
  ⟨rest.outcome, rest.readings + 1, millis :: rest.sleeps, events ++ rest.events⟩

/-- The identifier that a call issued. -/
def id? (call : Call) : Option Id :=
  match call.outcome with
  | .issued id => some id
  | _ => none

/-- Everything a call reports, from entering it. -/
def log (call : Call) : List Event := .entered :: call.events

end Call

namespace Generator

/-- **What one reading leads to** after the slot `last`. -/
def attempt (g : Generator) (last : Slot) (millis : UInt64) : Attempt :=
  let now := g.tick millis
  match last.advance now with
  | .next slot => .issue slot
  | .exhausted =>
    if g.waits then .wait (g.pause last millis)
    else .refuse (.sequenceOverflow last.tick last.sequence) []
  | .behind => .refuse (.clockRegression now last.tick) [.movedBackwards now last.tick]
  | .beyond tick => .refuse (.timestampOverflow tick) [.exhausted (.timestampOverflow tick)]

variable {σ : Type} [Clock σ]

/-- The loop of `Generator::next`: read until there is an answer, at most `patience` times. `waited`
tells whether the call has slept before; only the first sleep is reported. -/
def await (g : Generator) (last : Slot) (waited : Bool) : Nat → σ → Call × Slot × σ
  | 0, clock => (.immediate .unfinished, last, clock)
  | patience + 1, clock =>
    match Clock.read clock with
    | (.error fault, clock) => (.single (.faulted fault) [], last, clock)
    | (.ok millis, clock) =>
      match g.attempt last millis with
      | .issue slot => (.single (.issued (slot.toId g.generatorId)) [], slot, clock)
      | .refuse error reports => (.single (.refused error) reports, last, clock)
      | .wait pause =>
        let (rest, slot, clock) := g.await last true patience (Clock.sleep pause clock)
        (rest.resume (if waited then [] else [.waiting last.tick]) pause, slot, clock)

/-- **One call** after the slot `last`: the call, the last slot after it and the clock. -/
def next (g : Generator) (last : Slot) (clock : σ) : Call × Slot × σ :=
  let clock := Clock.startCall clock
  g.await last false (Clock.patience clock) clock

end Generator

/-! ## Behind a lock -/

/-- The last slot behind a lock: the `state` that a generator shares with its clones. -/
structure Cell where
  last : Slot
  /-- A call failed while it held the lock. -/
  poisoned : Bool
  deriving DecidableEq, Repr

namespace Cell

/-- A cell with its first last slot. -/
def new (seed : Slot) : Cell := ⟨seed, false⟩

/-- **The last slot**, unless the lock is poisoned (`Generator::checkpoint`). -/
def checkpoint (cell : Cell) : Except Error Slot :=
  if cell.poisoned then .error .lockPoisoned else .ok cell.last

/-- **One call** under the lock (`Generator::next`). -/
def next {σ : Type} [Clock σ] (cell : Cell) (g : Generator) (clock : σ) : Call × Cell × σ :=
  if cell.poisoned then (.immediate (.refused .lockPoisoned), cell, clock)
  else
    let (call, last, clock) := g.next cell.last clock
    let poisoned :=
      match call.outcome with
      | .faulted _ => true
      | _ => false
    (call, ⟨last, poisoned⟩, clock)

end Cell

end Snowflake
