import Mathlib.Data.Nat.Bitwise
import Snowflake.Proofs.Id.Layout

/-!
# Canonical identifiers

Of the ten bits of the generator field eight are given out. An identifier is canonical if the other
two and the top bit are clear. Then its three fields say everything about it, and it can be built
again from them; a generator id of more than eight bits makes identifiers that are not canonical, or
that carry the id of another generator.

Results:
* `Id.isCanonical_iff`: which words are canonical.
* **`Id.ofParts_fields`**: a canonical identifier is built again from its fields.
* **`Slot.isCanonical_toId_iff`**, `Slot.toNat_generatorId_toId`: what the generator id of a slot's
  identifier is, and when the identifier is canonical.
-/

namespace Snowflake

namespace Id

/-! ## The reserved bits -/

theorem and_two_pow_eq_zero_iff (n i : Nat) : n &&& 2 ^ i = 0 ↔ n / 2 ^ i % 2 = 0 := by
  rw [Nat.and_two_pow, Nat.testBit_eq_decide_div_mod_eq]
  by_cases h : n / 2 ^ i % 2 = 1
  · simp [h]
  · simp only [h, decide_false, Bool.toNat_false, Nat.zero_mul, true_iff]
    omega

theorem toNat_generatorId (id : Id) : id.generatorId.toNat = id.bits.toNat % 2 ^ 10 := by
  have h : (id.bits &&& Layout.generatorMask).toNat = id.bits.toNat % 2 ^ 10 := by
    rw [UInt64.toNat_and]
    exact Nat.and_two_pow_sub_one_eq_mod _ 10
  unfold generatorId
  rw [UInt64.toNat_toUInt16, h]
  omega

/-- **A word is canonical if its top bit and the two high bits of its generator field are clear.** -/
theorem isCanonical_iff {id : Id} :
    id.isCanonical = true ↔ id.bits.toNat < 2 ^ 63 ∧ id.generatorId.toNat < 2 ^ 8 := by
  have hlt := id.bits.toNat_lt
  have hmask : Layout.reservedMask.toNat = 2 ^ 63 ||| (2 ^ 9 ||| 2 ^ 8) := by decide
  unfold isCanonical
  rw [beq_iff_eq, ← UInt64.toNat_inj, UInt64.toNat_and, hmask, Nat.and_or_distrib_left,
    Nat.and_or_distrib_left, toNat_generatorId]
  change _ = 0 ↔ _
  rw [Nat.or_eq_zero_iff, Nat.or_eq_zero_iff, and_two_pow_eq_zero_iff, and_two_pow_eq_zero_iff,
    and_two_pow_eq_zero_iff]
  omega

/-- The low byte of a canonical identifier is its generator id. -/
theorem toUInt8_bits {id : Id} (h : id.isCanonical = true) :
    id.bits.toUInt8.toUInt16 = id.generatorId := by
  have hg := (isCanonical_iff.mp h).2
  rw [toNat_generatorId] at hg
  rw [← UInt16.toNat_inj, UInt8.toNat_toUInt16, UInt64.toNat_toUInt8, toNat_generatorId]
  omega

/-! ## Identifiers from their fields -/

/-- Without its top bit a word is the sum of its fields. -/
theorem pack_fields {id : Id} (h : id.bits.toNat < 2 ^ 63) :
    pack id.timestamp id.sequence id.generatorId = id := by
  have hbits : (pack id.timestamp id.sequence id.generatorId).bits = id.bits := by
    apply UInt64.toNat_inj.mp
    rw [toNat_pack, toNat_timestamp, toNat_sequence, toNat_generatorId]
    omega
  cases id
  exact congrArg Id.mk hbits

/-- Fields that fit make an identifier. -/
theorem ofParts_eq_ok {slot : Slot} (h : slot.Fits) {g : UInt16} (hg : g ≤ Layout.maxGeneratorId) :
    ofParts slot.tick slot.sequence g = .ok (slot.toId g) := by
  unfold ofParts checkTimestamp checkSequence checkGeneratorId
  rw [checkField_eq_ok_iff.mpr h.tick, checkField_toUInt64_eq_ok_iff.mpr h.sequence,
    checkField_toUInt64_eq_ok_iff.mpr hg]
  rfl

theorem slot_fits (id : Id) : id.slot.Fits := by
  constructor
  · rw [UInt64.le_iff_toNat_le]
    change id.timestamp.toNat ≤ 4398046511103
    rw [toNat_timestamp]
    omega
  · rw [UInt16.le_iff_toNat_le]
    change id.sequence.toNat ≤ 2047
    rw [toNat_sequence]
    omega

/-- **A canonical identifier is built again from its fields.** -/
theorem ofParts_fields {id : Id} (h : id.isCanonical = true) :
    ofParts id.timestamp id.sequence id.generatorId = .ok id := by
  obtain ⟨hbits, hg⟩ := isCanonical_iff.mp h
  have hmax : id.generatorId ≤ Layout.maxGeneratorId :=
    UInt16.le_iff_toNat_le.mpr (Nat.le_of_lt_succ hg)
  have hpack : id.slot.toId id.generatorId = id := pack_fields hbits
  exact (ofParts_eq_ok id.slot_fits hmax).trans (congrArg _ hpack)

end Id

namespace Slot

/-! ## Identifiers of slots -/

theorem toNat_generatorId_toId {slot : Slot} (h : slot.Fits) (g : UInt16) :
    (slot.toId g).generatorId.toNat = g.toNat % 2 ^ 10 := by
  rw [Id.toNat_generatorId, toNat_toId h]
  omega

theorem isCanonical_toId_iff {slot : Slot} (h : slot.Fits) (g : UInt16) :
    (slot.toId g).isCanonical = true ↔ g.toNat % 2 ^ 10 < 2 ^ 8 := by
  have htick := h.tick_lt
  have hseq := h.sequence_lt
  rw [Id.isCanonical_iff, toNat_generatorId_toId h, toNat_toId h]
  unfold rank
  omega

/-- **The identifier of a slot is canonical and tells its generator if the generator id is one that
is given out**, and only then. -/
theorem isOwn_toId_iff {slot : Slot} (h : slot.Fits) (g : UInt16) :
    ((slot.toId g).isCanonical = true ∧ (slot.toId g).generatorId = g) ↔
      g ≤ Layout.maxGeneratorId := by
  rw [isCanonical_toId_iff h, ← UInt16.toNat_inj, toNat_generatorId_toId h,
    UInt16.le_iff_toNat_le]
  change _ ↔ g.toNat ≤ 255
  omega

end Slot

end Snowflake
