import Snowflake.Id.Text
import Snowflake.Json.Codec
import Snowflake.Settings

/-!
# Stored forms

How identifiers, slots, resolutions and settings are kept as JSON.

An identifier is stored as its integer. A row of other data may hold it either as an integer
(`integerRow`) or as text (`textRow`). A slot is stored as a checkpoint, a resolution by name, and
settings with all their fields. What is read only has to fit the words of the type: settings keep
a generator id that `Settings.new` would refuse, and a seed that building will refuse.
-/

namespace Snowflake

open Json

/-! ## Identifiers -/

/-- Identifiers as integers. -/
def Id.integerCodec : Codec Id := word64.iso Id.mk Id.bits

/-- What an identifier as text is read from. -/
def Id.textRule : Found → Except Mismatch Id
  | .string text =>
    match Id.ofText text with
    | .error error => .error (.rejected error.message)
    | .ok id => .ok id
  | found => .error (.invalidType found "an 11 character URL-safe base64 string")

/-- Identifiers as text. -/
def Id.textCodec : Codec Id := scalar (fun id => .string (some id.toText)) Id.textRule

/-- A row with an identifier. -/
def rowCodec (name : String) (codec : Codec Id) : Codec Id :=
  (record name (.cons "event_id" codec .nil)).iso (fun (id, ()) => id) fun id => (id, ())

/-- **A row that holds an identifier as an integer.** -/
def integerRow : Codec Id := rowCodec "IntegerRow" Id.integerCodec

/-- **A row that holds an identifier as text.** -/
def textRow : Codec Id := rowCodec "TextRow" Id.textCodec

/-! ## Slots -/

/-- **Slots, as checkpoints.** -/
def Slot.codec : Codec Slot :=
  (record "Checkpoint" (.cons "timestamp_last" word64 (.cons "sequence" word16 .nil))).iso
    (fun (tick, sequence, ()) => ⟨tick, sequence⟩) fun slot => (slot.tick, slot.sequence, ())

/-! ## Resolutions -/

namespace Resolution

/-- The resolution of a name. -/
def ofLabel (name : String) : Except Mismatch Resolution :=
  if name = millisecond.label then .ok .millisecond
  else if name = second.label then .ok .second
  else .error (.unknownVariant name [millisecond.label, second.label])

/-- Read a resolution from the left: its name, or an object with its name for a key and null for
a value. An unknown name is refused before what follows it is looked at. What has a key that is no
string is no JSON. -/
def read : List Token → Except Failure (Resolution × List Token)
  | .string (some name) :: rest =>
    match ofLabel name with
    | .error cause => .error (.mismatch cause)
    | .ok r => .ok (r, rest)
  | .openObject :: .string (some name) :: list =>
    match ofLabel name, list with
    | .error cause, _ => .error (.mismatch cause)
    | .ok r, .colon :: list =>
      match unit.read list with
      | .error failure => .error failure
      | .ok ((), .closeObject :: rest) => .ok (r, rest)
      | .ok _ => .error .malformed
    | .ok _, _ => .error .malformed
  | _ => .error .malformed

/-- Read a resolution from a value. -/
def ofValue : Value → Except Mismatch Resolution
  | .string name => ofLabel name
  | .object [(name, content)] =>
    match ofLabel name with
    | .error cause => .error cause
    | .ok r =>
      match unit.ofValue content with
      | .error cause => .error cause
      | .ok () => .ok r
  | .object _ => .error (.invalidValue .map "map with a single key")
  | value => .error (.invalidType value.found "string or map")

/-- **Resolutions, by name.** -/
def codec : Codec Resolution where
  write r := [.string (some r.label)]
  read := read
  ofValue := ofValue

end Resolution

/-! ## Settings -/

/-- **Settings, with all their fields.** -/
def Settings.codec : Codec Settings :=
  (record "GeneratorConfig"
    (.cons "generator_id" word16
      (.cons "timestamp_offset" int64
        (.cons "timestamp_last" word64
          (.cons "sequence" word16
            (.cons "wait_sequence" boolean
              (.cons "resolution" Resolution.codec .nil))))))).iso
    (fun (generatorId, offset, tick, sequence, waits, resolution, ()) =>
      ⟨generatorId, offset, ⟨tick, sequence⟩, waits, resolution⟩)
    fun s => (s.generatorId, s.offset, s.seed.tick, s.seed.sequence, s.waits, s.resolution, ())

end Snowflake
