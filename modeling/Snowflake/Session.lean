import Snowflake.Generator.Call
import Snowflake.Settings

/-!
# Sessions

A session is any number of generators that read one clock. Every generator is a handle: its fixed
part and the cell that holds its last slot. Building makes a new cell. A clone shares the cell of
the generator it was made from, so that each goes on where the other stopped and both are refused
once the cell is poisoned. Resuming builds a separate generator from the checkpoint of another.

Handles are numbered from zero in the order in which they were made.
-/

namespace Snowflake

/-- A generator in a session. -/
structure Handle where
  /-- The fixed part. -/
  generator : Generator
  /-- The number of its cell. -/
  cell : Nat
  deriving DecidableEq, Repr

/-- Generators on one clock. -/
structure Session (σ : Type) where
  clock : σ
  cells : List Cell
  handles : List Handle

/-- What a generator tells of itself. -/
structure Info where
  generator : Generator
  /-- Its checkpoint, or why there is none. -/
  checkpoint : Except Error Slot

namespace Session

variable {σ : Type}

/-- No generators yet. -/
def start (clock : σ) : Session σ := ⟨clock, [], []⟩

/-! ## Looking -/

/-- A handle and the cell it leads to. -/
def find? (s : Session σ) (g : Nat) : Option (Handle × Cell) := do
  let handle ← s.handles[g]?
  let cell ← s.cells[handle.cell]?
  return (handle, cell)

/-- The checkpoint of a generator. -/
def checkpoint? (s : Session σ) (g : Nat) : Option (Except Error Slot) :=
  (s.find? g).map fun (_, cell) => cell.checkpoint

/-- What a generator tells of itself. -/
def info? (s : Session σ) (g : Nat) : Option Info :=
  (s.find? g).map fun (handle, cell) => ⟨handle.generator, cell.checkpoint⟩

/-! ## Making generators -/

/-- **Build a generator** with a cell of its own. On failure nothing is added. Events come with
either. -/
def build (s : Session σ) (settings : Settings) : Except Error (Session σ) × List Event :=
  match settings.construct with
  | (.error error, events) => (.error error, events)
  | (.ok (generator, seed), events) =>
    (.ok { s with
      cells := s.cells ++ [.new seed]
      handles := s.handles ++ [⟨generator, s.cells.length⟩] }, events)

/-- **Clone a generator**: the clone shares the cell. -/
def clone (s : Session σ) (g : Nat) : Option (Session σ) :=
  s.handles[g]?.map fun handle => { s with handles := s.handles ++ [handle] }

/-- **Resume a generator** from the checkpoint of another. -/
def resume (s : Session σ) (g : Nat) (settings : Settings) :
    Option (Except Error (Session σ) × List Event) :=
  (s.checkpoint? g).map fun
    | .error error => (.error error, [])
    | .ok slot => s.build (settings.change (.resumeFrom slot))

/-! ## Calling generators -/

variable [Clock σ]

/-- **One call** of a generator. -/
def next (s : Session σ) (g : Nat) : Option (Call × Session σ) :=
  (s.find? g).map fun (handle, cell) =>
    let (call, cell, clock) := cell.next handle.generator s.clock
    (call, { s with clock, cells := s.cells.set handle.cell cell })

/-- A number of calls, one after the other, whatever they give. -/
def times (s : Session σ) (g : Nat) : Nat → Option (List Call × Session σ)
  | 0 => some ([], s)
  | n + 1 => do
    let (call, s) ← s.next g
    let (calls, s) ← s.times g n
    return (call :: calls, s)

/-- Calls until one does not issue, or a number of them have. -/
def burst (s : Session σ) (g : Nat) : Nat → Option (List Call × Session σ)
  | 0 => some ([], s)
  | n + 1 => do
    let (call, s) ← s.next g
    match call.id? with
    | none => return ([call], s)
    | some _ =>
      let (calls, s) ← s.burst g n
      return (call :: calls, s)

/-- The calls of several callers, one caller after the other. -/
def crowd (s : Session σ) (g each : Nat) : Nat → Option (List (List Call) × Session σ)
  | 0 => some ([], s)
  | callers + 1 => do
    let (calls, s) ← s.times g each
    let (others, s) ← s.crowd g each callers
    return (calls :: others, s)

/-- Read the clock without calling a generator. -/
def readClock (s : Session σ) : Except Clock.Fault UInt64 × Session σ :=
  let (reading, clock) := Clock.read (Clock.startCall s.clock)
  (reading, { s with clock })

end Session

/-! ## Summaries of calls -/

namespace Call

/-- The identifiers that calls issued, in their order. -/
def ids (calls : List Call) : List Id := calls.filterMap id?

/-- The outcomes that are no identifier, in their order. -/
def failures (calls : List Call) : List Outcome :=
  calls.filterMap fun call =>
    match call.outcome with
    | .issued _ => none
    | outcome => some outcome

end Call

namespace Id

/-- Each identifier is above the one before it. -/
def rising : List Id → Bool
  | a :: b :: rest => decide (a.bits < b.bits) && rising (b :: rest)
  | _ => true

end Id

end Snowflake
