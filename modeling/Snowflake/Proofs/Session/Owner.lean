import Snowflake.Proofs.Id.Canonical
import Snowflake.Proofs.Session.Restart
import Snowflake.Proofs.Settings.Origin
import Snowflake.Proofs.Stored

/-!
# Whose identifiers

What a generator issues tells the low ten bits of its generator id, and of these the layout gives
out eight. With an id that `Settings.new` accepts, all identifiers are canonical and tell who issued
them, so that generators with different ids have none in common. Stored settings may hold any id
that fits the word, and building takes it as it is: past the eight bits no identifier is both
canonical and its generator's own, and two generators may issue the same one.

Results:
* `Life.own_iff`: an identifier is canonical and tells its generator exactly if the generator id is
  one that is given out.
* **`Life.stored_own_iff`**: there are stored settings with any id, and those with an id that is
  given out are as good as new ones.
* `Life.stray_meets_five`: those with another id are not.
-/

namespace Snowflake

namespace Life

variable {σ τ : Type} [Clock σ] [Clock τ] (l : Life σ) (l' : Life τ)

/-- Each identifier of a life is that of a slot that fits. -/
theorem exists_slot : ∀ id ∈ l.ids, ∃ slot : Slot,
    slot.Fits ∧ id = slot.toId l.settings.generatorId := by
  obtain ⟨cell, -, hserves⟩ := l.serves
  exact hserves.exists_slot l.fits

/-- **The identifiers of a life are canonical and its own exactly if its generator id is one that is
given out.** -/
theorem own_iff : ∀ id ∈ l.ids,
    (id.isCanonical = true ∧ id.generatorId = l.settings.generatorId) ↔
      l.settings.generatorId ≤ Layout.maxGeneratorId := by
  intro id hmem
  obtain ⟨slot, hfits, rfl⟩ := l.exists_slot id hmem
  exact Slot.isOwn_toId_iff hfits l.settings.generatorId

/-- Lives with different generator ids that are given out have no identifier in common. -/
theorem apart (h : l.settings.Admitted) (h' : l'.settings.Admitted)
    (hne : l.settings.generatorId ≠ l'.settings.generatorId) : ∀ id ∈ l.ids, id ∉ l'.ids := by
  intro id hmem hmem'
  obtain ⟨-, hown⟩ := (l.own_iff id hmem).mpr h.generatorId_le
  obtain ⟨-, hown'⟩ := (l'.own_iff id hmem').mpr h'.generatorId_le
  exact hne (hown.symm.trans hown')

/-- **Stored settings are as good as new ones if their generator id is one that is given out.** Any
settings with which a generator is built can be stored, and both readers take them back, whatever
their generator id is. Whatever runs the generator goes through, each identifier it issues is
canonical and tells the generator id of the settings exactly if that id is given out. If it is, and
a reader took the settings from a text, no generator with another id issues the same identifier,
whether the settings of that one are new or were read as well. -/
theorem stored_own_iff :
    (Settings.codec.ofText (Settings.codec.toText l.settings) = .ok l.settings ∧
      Settings.codec.ofWholeText (Settings.codec.toText l.settings) = .ok l.settings) ∧
    (∀ id ∈ l.ids, (id.isCanonical = true ∧ id.generatorId = l.settings.generatorId) ↔
      l.settings.generatorId ≤ Layout.maxGeneratorId) ∧
    ∀ text, (Settings.codec.ofText text = .ok l.settings ∨
        Settings.codec.ofWholeText text = .ok l.settings) →
      l.settings.generatorId ≤ Layout.maxGeneratorId → l'.settings.Admitted →
      l.settings.generatorId ≠ l'.settings.generatorId → ∀ id ∈ l.ids, id ∉ l'.ids := by
  refine ⟨⟨Settings.lossless_codec.read _, Settings.lossless_codec.readWhole _⟩, l.own_iff,
    fun text h hid h' hne => ?_⟩
  have hadmitted : l.settings.Admitted := by
    rcases h with h | h
    · exact .read h hid
    · exact .readWhole h hid
  exact l.apart l' hadmitted h' hne

/-- Stored settings for generator 5. -/
def fiveText : String :=
  "\x7b\"generator_id\":5,\"timestamp_offset\":0,\"timestamp_last\":0,\"sequence\":0," ++
    "\"wait_sequence\":true,\"resolution\":\"Millisecond\"\x7d"

/-- Generator 5, from stored settings. -/
def five : Life Script := onReadings ⟨5, 0, ⟨0, 0⟩, true, .millisecond⟩ ⟨_, rfl⟩ [7, 7]

/-- Generator 6, from new settings, that counts seconds. -/
def six : Life Script := onReadings ⟨6, 0, ⟨0, 0⟩, true, .second⟩ ⟨_, rfl⟩ [7000, 7000]

theorem stored_own_iff_five :
    five.ids.map Id.slot = [⟨7, 0⟩, ⟨7, 1⟩] ∧ six.ids.map Id.slot = [⟨7, 0⟩, ⟨7, 1⟩] ∧
      (∀ id ∈ five.ids, id.isCanonical = true ∧ id.generatorId = 5) ∧
      ∀ id ∈ five.ids, id ∉ six.ids := by
  have hsix : six.settings.Fresh := ⟨6, _, [.offset 0, .inSeconds], rfl, rfl⟩
  have htext : Settings.codec.toText five.settings = fiveText := by decide +kernel
  obtain ⟨⟨hread, -⟩, hown, hapart⟩ := five.stored_own_iff six
  rw [htext] at hread
  exact ⟨by decide, by decide, fun id hmem => (hown id hmem).mpr (by decide),
    hapart fiveText (.inl hread) (by decide) (.made hsix) (by decide)⟩

/-- Stored settings for generator 1029, which has the low ten bits of 5. -/
def strayText : String :=
  "\x7b\"generator_id\":1029,\"timestamp_offset\":0,\"timestamp_last\":0,\"sequence\":0," ++
    "\"wait_sequence\":true,\"resolution\":\"Millisecond\"\x7d"

/-- Generator 1029. -/
def stray : Life Script := onReadings ⟨1029, 0, ⟨0, 0⟩, true, .millisecond⟩ ⟨_, rfl⟩ [7]

/-- Both readers take the settings, building does too, and the identifier is another generator's. -/
theorem stray_meets_five :
    Settings.codec.ofText strayText = .ok stray.settings ∧
      Settings.codec.ofWholeText strayText = .ok stray.settings ∧
      stray.settings.generatorId ≠ five.settings.generatorId ∧
      ∃ id ∈ stray.ids, id.generatorId ≠ stray.settings.generatorId ∧ id ∈ five.ids := by
  have htext : Settings.codec.toText stray.settings = strayText := by decide +kernel
  rw [← htext]
  exact ⟨Settings.lossless_codec.read _, Settings.lossless_codec.readWhole _, by decide,
    (⟨7, 0⟩ : Slot).toId 5, by decide, by decide, by decide⟩

end Life

end Snowflake
