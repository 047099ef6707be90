import Snowflake.Event

/-!
# Settings

Settings collect what a generator is made from, as `GeneratorConfig` does. `new` accepts the
generator id or refuses it; the changes that follow overwrite what they name and check nothing;
`build` checks the seed, tick first, and gives the generator with it.

Only `new` checks the generator id. Settings that come from elsewhere, such as stored ones, keep
whatever id they have.
-/

namespace Snowflake

/-- What a generator is made from (`GeneratorConfig`). -/
structure Settings where
  /-- What identifiers carry in their generator field. -/
  generatorId : UInt16
  /-- Seconds added to the clock before ticks are counted. -/
  offset : Int64
  /-- The slot that counts as given out already (`timestamp_last` and `sequence`). -/
  seed : Slot
  /-- Wait for the next tick when the current one is used up. -/
  waits : Bool
  /-- The length of a tick. -/
  resolution : Resolution
  deriving DecidableEq, Repr

/-- One change to settings, by one of the methods of `GeneratorConfig` that hand it on changed. -/
inductive Change where
  /-- By `timestamp_offset`. -/
  | offset (seconds : Int64)
  /-- By `timestamp_last`. -/
  | lastTick (tick : UInt64)
  /-- By `sequence`. -/
  | lastSequence (sequence : UInt16)
  /-- By `resume_from`. -/
  | resumeFrom (slot : Slot)
  /-- By `resolution`. -/
  | resolution (resolution : Resolution)
  /-- By `timestamp_in_seconds`. -/
  | inSeconds
  /-- By `timestamp_in_millisecond`. -/
  | inMilliseconds
  /-- By `wait_sequence`. -/
  | wait
  /-- By `not_wait_sequence`. -/
  | noWait
  deriving DecidableEq, Repr

namespace Settings

/-- **New settings**, for a generator id that is given out (`GeneratorConfig::new`). -/
def new (generatorId : UInt16) : Except Error Settings := do
  Id.checkGeneratorId generatorId
  return ⟨generatorId, Resolution.defaultOffset, ⟨0, 0⟩, true, .millisecond⟩

/-- The settings after one change. -/
def change (settings : Settings) : Change → Settings
  | .offset seconds => { settings with offset := seconds }
  | .lastTick tick => { settings with seed := { settings.seed with tick } }
  | .lastSequence sequence => { settings with seed := { settings.seed with sequence } }
  | .resumeFrom slot => { settings with seed := slot }
  | .resolution resolution => { settings with resolution }
  | .inSeconds => { settings with resolution := .second }
  | .inMilliseconds => { settings with resolution := .millisecond }
  | .wait => { settings with waits := true }
  | .noWait => { settings with waits := false }

/-- The settings after a list of changes. -/
def changes (settings : Settings) (list : List Change) : Settings := list.foldl change settings

/-- The settings before a list of changes and after each of them. -/
def history (settings : Settings) : List Change → List Settings
  | [] => [settings]
  | first :: rest => settings :: (settings.change first).history rest

/-- Ticks are seconds. -/
def isInSeconds (settings : Settings) : Bool := settings.resolution == .second

/-- The fixed part of the generator that the settings describe. -/
def generator (settings : Settings) : Generator :=
  ⟨settings.generatorId, settings.offset, settings.resolution, settings.waits⟩

/-- Build a generator (`GeneratorConfig::build_with_clock`), with what that reports: one event if
the seed fits the fields of an identifier, none if it does not. The generator id is not looked
at. -/
def construct (settings : Settings) : Except Error (Generator × Slot) × List Event :=
  match settings.seed.check with
  | .error error => (.error error, [])
  | .ok () => (.ok (settings.generator, settings.seed), [.built settings.generator settings.seed])

/-- **The generator and its seed**, if the seed fits. -/
def build (settings : Settings) : Except Error (Generator × Slot) := settings.construct.1

end Settings

end Snowflake
