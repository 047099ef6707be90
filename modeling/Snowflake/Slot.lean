import Snowflake.Id

/-!
# Slots

A slot is a place on the time line: a tick and a sequence number in it. A generator remembers the
last slot it gave out, which is also all that has to be saved to resume it.

`advance` compares the current tick with the last slot. A later tick begins at sequence zero, the
same tick goes on to the next sequence number while there is one, and an earlier tick gives
nothing. The current tick is a signed word and the last one an unsigned one, so that one of them is
cast in each comparison. `check` sees to it that no slot is taken over whose tick has more than the
42 bits of its field, and there the casts lose nothing.
-/

namespace Snowflake

/-- A tick and a number in it: the `State` of a generator, and the `Checkpoint` that is taken of
it. -/
structure Slot where
  /-- The tick, `timestamp_last` of a checkpoint. -/
  tick : UInt64
  sequence : UInt16
  deriving DecidableEq, Repr, Inhabited

/-- What the current tick allows after the last slot: `Advance`, with the error that
`State::advance` returns beside it as a case of its own. -/
inductive Advance where
  /-- The next slot. -/
  | next (slot : Slot)
  /-- The tick is used up. -/
  | exhausted
  /-- The tick is earlier than the last one used. -/
  | behind
  /-- The tick lies past the timestamp field. -/
  | beyond (tick : UInt64)
  deriving DecidableEq, Repr

namespace Slot

/-- The identifier of a slot (`State::to_id`). -/
def toId (slot : Slot) (generatorId : UInt16) : Id :=
  Id.pack slot.tick slot.sequence generatorId

/-- **The slot after `last` at tick `now`** (`State::advance`). Ticks are compared as signed words.
A last tick that fits its field is the same number as one, and a tick after it is the same number
as an unsigned one. -/
def advance (last : Slot) (now : Int64) : Advance :=
  if last.tick.toInt64 < now then
    let tick := now.toUInt64
    if Layout.maxTimestamp < tick then .beyond tick else .next ⟨tick, 0⟩
  else if now = last.tick.toInt64 then
    if last.sequence < Layout.maxSequence then .next ⟨last.tick, last.sequence + 1⟩
    else .exhausted
  else .behind

/-- A slot fits the fields of an identifier; the tick is looked at first, as in
`GeneratorConfig::build_with_clock`. -/
def check (slot : Slot) : Except Error Unit := do
  Id.checkTimestamp slot.tick
  Id.checkSequence slot.sequence

end Slot

end Snowflake
