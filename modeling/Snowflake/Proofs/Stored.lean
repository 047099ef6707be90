import Snowflake.Proofs.Id.Text
import Snowflake.Proofs.Json.Codec
import Snowflake.Stored

/-!
# What is stored is read back

Every stored form loses nothing: identifiers, bare or in a row, as integers or as text; slots;
resolutions; and settings, with all values their words can have and not only those that building
accepts. So a generator built from settings that were stored, or resumed from a slot that was
stored, is the one that the original would have given.

All of them are put together from lawful codecs. Two bring a law of their own: an identifier as
text, which is read back because its text is, and a resolution, which is a name.

Results:
* `Id.lawful_textCodec`, `Resolution.lawful_codec`, `lawful_rowCodec`, `Slot.lawful_codec`,
  `Settings.lawful_codec`: the laws of the stored forms.
* **`stored_lossless`**: whatever is stored is read back.
-/

namespace Snowflake

open Json

theorem Id.lawful_integerCodec : Id.integerCodec.Lawful 0 :=
  lawful_word64.iso fun _ => rfl

theorem Id.lawful_textCodec : Id.textCodec.Lawful 0 := by
  refine lawful_scalar (fun id => .string id.toText) (fun _ => .string _) (fun _ => trivial)
    fun id => ?_
  simp only [Value.found, Id.textRule, Id.ofText_toText]

theorem lawful_rowCodec (name : String) {codec : Codec Id} (h : codec.Lawful 0) :
    (rowCodec name codec).Lawful 1 := by
  refine (lawful_record name ?_).iso fun _ => rfl
  exact ⟨h, List.not_mem_nil, trivial⟩

theorem Slot.lawful_codec : Slot.codec.Lawful 1 := by
  refine (lawful_record "Checkpoint" ?_).iso fun _ => rfl
  exact ⟨lawful_word64, by decide, lawful_word16, by decide, trivial⟩

theorem Resolution.ofLabel_label (r : Resolution) : Resolution.ofLabel r.label = .ok r := by
  cases r <;> rfl

theorem Resolution.lawful_codec : Resolution.codec.Lawful 0 where
  scans r := Scans.single trivial
  read r rest := by
    simp only [Resolution.codec, List.singleton_append, Resolution.read, Resolution.ofLabel_label]
  spells r :=
    ⟨.string r.label, (Token.IsValue.string r.label).spells, Resolution.ofLabel_label r⟩

theorem Settings.lawful_codec : Settings.codec.Lawful 1 := by
  refine (lawful_record "GeneratorConfig" ?_).iso fun _ => rfl
  exact ⟨lawful_word16, by decide, lawful_int64, by decide, lawful_word64, by decide,
    lawful_word16, by decide, lawful_boolean, by decide, Resolution.lawful_codec, by decide,
    trivial⟩

theorem Settings.lossless_codec : Settings.codec.Lossless :=
  Settings.lawful_codec.lossless (by decide)

/-- **Whatever is stored is read back**, in one pass or by way of a value: identifiers as
integers, identifiers in a row as integers and as text, slots, resolutions and settings. -/
theorem stored_lossless :
    Id.integerCodec.Lossless ∧ integerRow.Lossless ∧ textRow.Lossless ∧ Slot.codec.Lossless ∧
      Resolution.codec.Lossless ∧ Settings.codec.Lossless := by
  have hbare : 0 ≤ maxDepth := by decide
  have hrecord : 1 ≤ maxDepth := by decide
  exact ⟨Id.lawful_integerCodec.lossless hbare,
    (lawful_rowCodec "IntegerRow" Id.lawful_integerCodec).lossless hrecord,
    (lawful_rowCodec "TextRow" Id.lawful_textCodec).lossless hrecord,
    Slot.lawful_codec.lossless hrecord,
    Resolution.lawful_codec.lossless hbare,
    Settings.lossless_codec⟩

end Snowflake
