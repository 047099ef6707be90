import Snowflake.Proofs.Id.Canonical

/-!
# Identifiers and their parts

`ofParts` makes an identifier of three values, and the fields of an identifier are three values
again. Between values that fit (`PartsFit`) and canonical identifiers the two are inverse: what does
not fit is refused, with the first value that does not (`Misfit`), and an identifier that is not
canonical is made of no three values.

Results:
* `Id.ofParts_cases`: three values fit and are packed, or one of them is named.
* **`Id.ofParts_eq_ok_iff`**: an identifier is made of its own fields, if it is canonical, and of
  nothing else.
* `Id.exists_ofParts_iff`, `Id.ofParts_eq_error_iff`: when there is one, and what is wrong if not.
* **`Id.parts_law`**: all of it, with the bounds as numbers.
-/

namespace Snowflake.Id

variable {t : UInt64} {s g : UInt16} {id : Id}

/-- Three values fit the fields of a canonical identifier. -/
structure PartsFit (t : UInt64) (s g : UInt16) : Prop where
  timestamp : t ≤ Layout.maxTimestamp
  sequence : s ≤ Layout.maxSequence
  generatorId : g ≤ Layout.maxGeneratorId

/-- The first of three values that does not fit its field, with the largest one that does. -/
inductive Misfit (t : UInt64) (s g : UInt16) : Error → Prop where
  | timestamp (ht : Layout.maxTimestamp < t) :
      Misfit t s g (.fieldOutOfRange .timestamp t Layout.maxTimestamp)
  | sequence (ht : t ≤ Layout.maxTimestamp) (hs : Layout.maxSequence < s) :
      Misfit t s g (.fieldOutOfRange .sequence s.toUInt64 Layout.maxSequence.toUInt64)
  | generatorId (ht : t ≤ Layout.maxTimestamp) (hs : s ≤ Layout.maxSequence)
      (hg : Layout.maxGeneratorId < g) :
      Misfit t s g (.fieldOutOfRange .generatorId g.toUInt64 Layout.maxGeneratorId.toUInt64)

/-! ## The three checks -/

theorem checkField_of_lt {field : Field} {value max : UInt64} (h : max < value) :
    checkField field value max = .error (.fieldOutOfRange field value max) := by
  unfold checkField
  rw [if_pos h]

theorem checkField_toUInt64_of_lt {field : Field} {value max : UInt16} (h : max < value) :
    checkField field value.toUInt64 max.toUInt64 =
      .error (.fieldOutOfRange field value.toUInt64 max.toUInt64) := by
  apply checkField_of_lt
  rw [UInt64.lt_iff_toNat_lt, UInt16.toNat_toUInt64, UInt16.toNat_toUInt64]
  exact UInt16.lt_iff_toNat_lt.mp h

theorem ofParts_of_fit (h : PartsFit t s g) : ofParts t s g = .ok (pack t s g) := by
  have hslot : Slot.Fits ⟨t, s⟩ := ⟨h.timestamp, h.sequence⟩
  exact ofParts_eq_ok hslot h.generatorId

/-- The checks stop at the first value that does not fit. -/
theorem ofParts_of_misfit {error : Error} (h : Misfit t s g error) :
    ofParts t s g = .error error := by
  unfold ofParts checkTimestamp checkSequence checkGeneratorId
  cases h with
  | timestamp ht =>
    rw [checkField_of_lt ht]
    rfl
  | sequence ht hs =>
    rw [checkField_eq_ok_iff.mpr ht, checkField_toUInt64_of_lt hs]
    rfl
  | generatorId ht hs hg =>
    rw [checkField_eq_ok_iff.mpr ht, checkField_toUInt64_eq_ok_iff.mpr hs,
      checkField_toUInt64_of_lt hg]
    rfl

/-- Three values fit, or one of them is the first that does not. -/
theorem fit_or_misfit (t : UInt64) (s g : UInt16) :
    PartsFit t s g ∨ ∃ error, Misfit t s g error := by
  by_cases ht : t ≤ Layout.maxTimestamp
  · by_cases hs : s ≤ Layout.maxSequence
    · by_cases hg : g ≤ Layout.maxGeneratorId
      · exact .inl ⟨ht, hs, hg⟩
      · exact .inr ⟨_, .generatorId ht hs (UInt16.not_le.mp hg)⟩
    · exact .inr ⟨_, .sequence ht (UInt16.not_le.mp hs)⟩
  · exact .inr ⟨_, .timestamp (UInt64.not_le.mp ht)⟩

/-- **Three values fit and are packed, or the first that does not fit is named.** -/
theorem ofParts_cases (t : UInt64) (s g : UInt16) :
    (PartsFit t s g ∧ ofParts t s g = .ok (pack t s g)) ∨
      ∃ error, Misfit t s g error ∧ ofParts t s g = .error error := by
  rcases fit_or_misfit t s g with h | ⟨error, h⟩
  · exact .inl ⟨h, ofParts_of_fit h⟩
  · exact .inr ⟨error, h, ofParts_of_misfit h⟩

/-! ## There and back -/

theorem exists_ofParts_iff : (∃ id, ofParts t s g = .ok id) ↔ PartsFit t s g := by
  constructor
  · rintro ⟨id, h⟩
    rcases ofParts_cases t s g with ⟨hfit, -⟩ | ⟨error, -, herror⟩
    · exact hfit
    · rw [h] at herror
      exact absurd herror (by simp)
  · exact fun h => ⟨_, ofParts_of_fit h⟩

theorem ofParts_eq_error_iff {error : Error} :
    ofParts t s g = .error error ↔ Misfit t s g error := by
  constructor
  · intro h
    rcases ofParts_cases t s g with ⟨-, hok⟩ | ⟨error', hmisfit, herror⟩
    · rw [h] at hok
      exact absurd hok (by simp)
    · rw [h] at herror
      rw [Except.error.inj herror]
      exact hmisfit
  · exact ofParts_of_misfit

/-- Packed values are read back from the fields. -/
theorem fields_pack (h : PartsFit t s g) :
    (pack t s g).isCanonical = true ∧ (pack t s g).timestamp = t ∧ (pack t s g).sequence = s ∧
      (pack t s g).generatorId = g := by
  have hfits : (⟨t, s⟩ : Slot).Fits := ⟨h.timestamp, h.sequence⟩
  have hslot : (pack t s g).slot = ⟨t, s⟩ := Slot.slot_toId hfits g
  obtain ⟨hcanonical, hown⟩ := (Slot.isOwn_toId_iff hfits g).mpr h.generatorId
  exact ⟨hcanonical, congrArg Slot.tick hslot, congrArg Slot.sequence hslot, hown⟩

/-- **An identifier is made of its own fields, if it is canonical, and of nothing else.** -/
theorem ofParts_eq_ok_iff : ofParts t s g = .ok id ↔
    id.isCanonical = true ∧ id.timestamp = t ∧ id.sequence = s ∧ id.generatorId = g := by
  constructor
  · intro h
    rcases ofParts_cases t s g with ⟨hfit, hok⟩ | ⟨error, -, herror⟩
    · rw [h] at hok
      rw [Except.ok.inj hok]
      exact fields_pack hfit
    · rw [h] at herror
      exact absurd herror (by simp)
  · rintro ⟨hcanonical, rfl, rfl, rfl⟩
    exact ofParts_fields hcanonical

/-- The low byte of a canonical identifier, as a number. -/
theorem toNat_bits_mod (h : id.isCanonical = true) : id.bits.toNat % 256 = id.generatorId.toNat := by
  have hg := (isCanonical_iff.mp h).2
  rw [toNat_generatorId] at hg ⊢
  omega

/-- The bounds of the fields as numbers. -/
theorem partsFit_iff : PartsFit t s g ↔
    t.toNat ≤ 2 ^ 42 - 1 ∧ s.toNat ≤ 2047 ∧ g.toNat ≤ 255 := by
  constructor
  · rintro ⟨ht, hs, hg⟩
    exact ⟨UInt64.le_iff_toNat_le.mp ht, UInt16.le_iff_toNat_le.mp hs, UInt16.le_iff_toNat_le.mp hg⟩
  · rintro ⟨ht, hs, hg⟩
    exact ⟨UInt64.le_iff_toNat_le.mpr ht, UInt16.le_iff_toNat_le.mpr hs,
      UInt16.le_iff_toNat_le.mpr hg⟩

/-- **Making an identifier of parts and reading its fields are inverse on exactly the canonical
identifiers.** Three values make an identifier if they fit, and then it is canonical, its fields are
the three values and its low byte is the generator id; otherwise the first value that does not fit
is named. An identifier is canonical if any three values make it, and also if its own fields do. -/
theorem parts_law (t : UInt64) (s g : UInt16) (id : Id) :
    ((∃ made, ofParts t s g = .ok made) ↔
      t.toNat ≤ 2 ^ 42 - 1 ∧ s.toNat ≤ 2047 ∧ g.toNat ≤ 255) ∧
    (ofParts t s g = .ok id ↔
      id.isCanonical = true ∧ id.timestamp = t ∧ id.sequence = s ∧ id.generatorId = g ∧
        id.bits.toNat % 256 = g.toNat) ∧
    (∀ error, ofParts t s g = .error error ↔ Misfit t s g error) ∧
    (id.isCanonical = true ↔ ∃ t s g, ofParts t s g = .ok id) ∧
    (id.isCanonical = true ↔ ofParts id.timestamp id.sequence id.generatorId = .ok id) := by
  refine ⟨exists_ofParts_iff.trans partsFit_iff, ?_, fun error => ofParts_eq_error_iff, ?_, ?_⟩
  · rw [ofParts_eq_ok_iff]
    constructor
    · rintro ⟨hcanonical, ht, hs, rfl⟩
      exact ⟨hcanonical, ht, hs, rfl, toNat_bits_mod hcanonical⟩
    · rintro ⟨hcanonical, ht, hs, hg, -⟩
      exact ⟨hcanonical, ht, hs, hg⟩
  · constructor
    · exact fun h => ⟨_, _, _, ofParts_fields h⟩
    · rintro ⟨t, s, g, h⟩
      exact (ofParts_eq_ok_iff.mp h).1
  · exact ⟨ofParts_fields, fun h => (ofParts_eq_ok_iff.mp h).1⟩

end Snowflake.Id
