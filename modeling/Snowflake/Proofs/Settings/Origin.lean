import Snowflake.Stored
import Snowflake.Proofs.Id.Layout

/-!
# Where settings come from

Settings are made by `Settings.new`, which checks the generator id, or they are read from a stored
form, which takes any id that fits the word. No later change touches the id, and building does not
look at it, so that an id which was not checked at the start stays in use.

Results:
* `Settings.generatorId_changes`: changes leave the generator id alone.
* `Settings.Fresh.generatorId_le`: settings that `new` made have a generator id that is given out.
* `Settings.Admitted.generatorId_le`: so do settings that were read with such an id.
-/

namespace Snowflake

namespace Settings

/-! ## Changes -/

theorem generatorId_change (settings : Settings) (c : Change) :
    (settings.change c).generatorId = settings.generatorId := by
  cases c <;> rfl

/-- **Changes leave the generator id alone.** -/
theorem generatorId_changes (settings : Settings) (list : List Change) :
    (settings.changes list).generatorId = settings.generatorId := by
  induction list generalizing settings with
  | nil => rfl
  | cons c list ih => exact (ih (settings.change c)).trans (settings.generatorId_change c)

/-! ## New settings -/

/-- New settings have the generator id they were asked for, and it is given out. -/
theorem generatorId_of_new {id : UInt16} {settings : Settings} (h : new id = .ok settings) :
    settings.generatorId = id ∧ id ≤ Layout.maxGeneratorId := by
  unfold new at h
  cases hc : Id.checkGeneratorId id with
  | error error =>
    rw [hc] at h
    exact absurd h (by simp [bind, Except.bind])
  | ok =>
    rw [hc] at h
    obtain rfl := Except.ok.inj h
    exact ⟨rfl, Id.checkField_toUInt64_eq_ok_iff.mp hc⟩

/-- The settings were made by `new` and changed in any way. -/
def Fresh (settings : Settings) : Prop :=
  ∃ id base list, new id = .ok base ∧ settings = base.changes list

namespace Fresh

variable {settings : Settings}

theorem generatorId_le (h : settings.Fresh) : settings.generatorId ≤ Layout.maxGeneratorId := by
  obtain ⟨id, base, list, hnew, rfl⟩ := h
  obtain ⟨hid, hle⟩ := generatorId_of_new hnew
  rw [generatorId_changes, hid]
  exact hle

end Fresh

/-! ## Stored settings -/

/-- The settings were made by `new`, or one of the two readers took them from a text, and the
generator id in it is one that is given out. The readers do not see to that. -/
inductive Admitted (settings : Settings) : Prop where
  | made (h : settings.Fresh)
  | read {text : String} (h : codec.ofText text = .ok settings)
      (hid : settings.generatorId ≤ Layout.maxGeneratorId)
  | readWhole {text : String} (h : codec.ofWholeText text = .ok settings)
      (hid : settings.generatorId ≤ Layout.maxGeneratorId)

theorem Admitted.generatorId_le {settings : Settings} (h : settings.Admitted) :
    settings.generatorId ≤ Layout.maxGeneratorId := by
  cases h with
  | made h => exact h.generatorId_le
  | read _ hid => exact hid
  | readWhole _ hid => exact hid

end Settings

end Snowflake
