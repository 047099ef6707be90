import Mathlib.Algebra.Group.Nat.Defs
import Snowflake.Slot

/-!
# The word of an identifier as a number

`pack` masks and shifts. Read as a number, the word it gives is a sum of three parts that do not
meet, so that the fields can be read back by dividing, and the order of words is the order of
ticks, then of sequence numbers.

Results:
* `Id.toNat_pack`: the word of three fields as a sum.
* `Slot.check_eq_ok_iff`: the check accepts exactly the slots that fit (`Slot.Fits`).
* **`Slot.slot_toId`**: an identifier gives back the slot it was made from, if that fits.
* **`Slot.toId_lt`**: of two slots that fit, the lower one has the lower identifier, whichever
  generators they are of.
-/

namespace Snowflake

namespace Id

/-! ## Fields in place -/

/-- **The word of three fields as a sum.** Each is cut to its width, and none reaches into the
next. -/
theorem toNat_pack (t : UInt64) (s g : UInt16) :
    (pack t s g).bits.toNat =
      2 ^ 21 * (t.toNat % 2 ^ 42) + (2 ^ 10 * (s.toNat % 2 ^ 11) + g.toNat % 2 ^ 10) := by
  have ht : ((t &&& Layout.timestampMask) <<< Layout.timestampShift.toUInt64).toNat =
      2 ^ 21 * (t.toNat % 2 ^ 42) := by
    have h : t.toNat &&& Layout.timestampMask.toNat = t.toNat % 2 ^ 42 :=
      Nat.and_two_pow_sub_one_eq_mod _ 42
    rw [UInt64.toNat_shiftLeft, UInt64.toNat_and, h, Nat.shiftLeft_eq]
    change (t.toNat % 2 ^ 42 * 2 ^ 21) % 2 ^ 64 = _
    omega
  have hs : ((s.toUInt64 &&& Layout.sequenceMask) <<< Layout.sequenceShift.toUInt64).toNat =
      2 ^ 10 * (s.toNat % 2 ^ 11) := by
    have h : s.toNat &&& Layout.sequenceMask.toNat = s.toNat % 2 ^ 11 :=
      Nat.and_two_pow_sub_one_eq_mod _ 11
    rw [UInt64.toNat_shiftLeft, UInt64.toNat_and, UInt16.toNat_toUInt64, h, Nat.shiftLeft_eq]
    change (s.toNat % 2 ^ 11 * 2 ^ 10) % 2 ^ 64 = _
    omega
  have hg : (g.toUInt64 &&& Layout.generatorMask).toNat = g.toNat % 2 ^ 10 := by
    rw [UInt64.toNat_and, UInt16.toNat_toUInt64]
    exact Nat.and_two_pow_sub_one_eq_mod _ 10
  -- the sum of the two low fields stays below the place of the timestamp
  have hlow : 2 ^ 10 * (s.toNat % 2 ^ 11) + g.toNat % 2 ^ 10 < 2 ^ 21 := by omega
  unfold pack
  rw [UInt64.toNat_or, UInt64.toNat_or, ht, hs, hg, Nat.or_assoc,
    ← Nat.two_pow_add_eq_or_of_lt (Nat.mod_lt _ (by decide)), ← Nat.two_pow_add_eq_or_of_lt hlow]

theorem toNat_timestamp (id : Id) : id.timestamp.toNat = id.bits.toNat / 2 ^ 21 % 2 ^ 42 := by
  unfold timestamp
  rw [UInt64.toNat_and, UInt64.toNat_shiftRight, Nat.shiftRight_eq_div_pow]
  exact Nat.and_two_pow_sub_one_eq_mod _ 42

theorem toNat_sequence (id : Id) : id.sequence.toNat = id.bits.toNat / 2 ^ 10 % 2 ^ 11 := by
  have h : ((id.bits >>> Layout.sequenceShift.toUInt64) &&& Layout.sequenceMask).toNat =
      id.bits.toNat / 2 ^ 10 % 2 ^ 11 := by
    rw [UInt64.toNat_and, UInt64.toNat_shiftRight, Nat.shiftRight_eq_div_pow]
    exact Nat.and_two_pow_sub_one_eq_mod _ 11
  unfold sequence
  rw [UInt64.toNat_toUInt16, h]
  omega

theorem checkField_eq_ok_iff {field : Field} {value max : UInt64} :
    checkField field value max = .ok () ↔ value ≤ max := by
  unfold checkField
  split
  · rename_i h
    simp only [reduceCtorEq, false_iff, UInt64.not_le]
    exact h
  · rename_i h
    simp only [true_iff]
    exact UInt64.not_lt.mp h

/-- Sixteen-bit values are checked as words of 64 bits. -/
theorem checkField_toUInt64_eq_ok_iff {field : Field} {value max : UInt16} :
    checkField field value.toUInt64 max.toUInt64 = .ok () ↔ value ≤ max := by
  rw [checkField_eq_ok_iff, UInt64.le_iff_toNat_le, UInt16.le_iff_toNat_le,
    UInt16.toNat_toUInt64, UInt16.toNat_toUInt64]

/-- The place of an identifier among all slots: its word without the generator field. -/
def rank (id : Id) : Nat := id.bits.toNat / 2 ^ 10

theorem lt_of_rank_lt {a b : Id} (h : a.rank < b.rank) : a.bits < b.bits := by
  unfold rank at h
  rw [UInt64.lt_iff_toNat_lt]
  omega

theorem nodup_of_rise {ids : List Id} (h : ids.Pairwise fun a b => a.bits < b.bits) :
    ids.Nodup := by
  refine h.imp fun hlt heq => ?_
  rw [heq] at hlt
  exact UInt64.lt_irrefl _ hlt

/-- The slot that an identifier tells. -/
def slot (id : Id) : Slot := ⟨id.timestamp, id.sequence⟩

end Id

namespace Slot

/-! ## Slots that fit -/

/-- A slot fits the fields of an identifier. -/
structure Fits (slot : Slot) : Prop where
  tick : slot.tick ≤ Layout.maxTimestamp
  sequence : slot.sequence ≤ Layout.maxSequence

theorem Fits.tick_lt {slot : Slot} (h : slot.Fits) : slot.tick.toNat < 2 ^ 42 := by
  have := UInt64.le_iff_toNat_le.mp h.tick
  change _ ≤ 4398046511103 at this
  omega

theorem Fits.sequence_lt {slot : Slot} (h : slot.Fits) : slot.sequence.toNat < 2 ^ 11 := by
  have := UInt16.le_iff_toNat_le.mp h.sequence
  change _ ≤ 2047 at this
  omega

/-- **The check accepts exactly the slots that fit.** -/
theorem check_eq_ok_iff {slot : Slot} : slot.check = .ok () ↔ slot.Fits := by
  unfold check Id.checkTimestamp Id.checkSequence
  constructor
  · intro h
    cases ht : Id.checkField .timestamp slot.tick Layout.maxTimestamp with
    | error e => rw [ht] at h; exact absurd h (by simp [bind, Except.bind])
    | ok u =>
      rw [ht] at h
      exact ⟨Id.checkField_eq_ok_iff.mp ht, Id.checkField_toUInt64_eq_ok_iff.mp h⟩
  · intro h
    rw [Id.checkField_eq_ok_iff.mpr h.tick]
    exact Id.checkField_toUInt64_eq_ok_iff.mpr h.sequence

/-! ## Slots in order -/

/-- The place of a slot among all slots: tick first, then sequence number. -/
def rank (slot : Slot) : Nat := 2 ^ 11 * slot.tick.toNat + slot.sequence.toNat

theorem toNat_toId {slot : Slot} (h : slot.Fits) (g : UInt16) :
    (slot.toId g).bits.toNat = 2 ^ 10 * slot.rank + g.toNat % 2 ^ 10 := by
  have ht := h.tick_lt
  have hs := h.sequence_lt
  unfold toId rank
  rw [Id.toNat_pack]
  omega

/-- **An identifier gives back the slot it was made from**, if that fits. -/
theorem slot_toId {slot : Slot} (h : slot.Fits) (g : UInt16) : (slot.toId g).slot = slot := by
  have ht := h.tick_lt
  have hs := h.sequence_lt
  have hbits := toNat_toId h g
  unfold rank at hbits
  unfold Id.slot
  have h1 : (slot.toId g).timestamp = slot.tick := by
    apply UInt64.toNat_inj.mp
    rw [Id.toNat_timestamp, hbits]
    omega
  have h2 : (slot.toId g).sequence = slot.sequence := by
    apply UInt16.toNat_inj.mp
    rw [Id.toNat_sequence, hbits]
    omega
  rw [h1, h2]

theorem timestamp_toId {slot : Slot} (h : slot.Fits) (g : UInt16) :
    (slot.toId g).timestamp = slot.tick :=
  congrArg Slot.tick (slot_toId h g)

theorem rank_toId {slot : Slot} (h : slot.Fits) (g : UInt16) : (slot.toId g).rank = slot.rank := by
  unfold Id.rank
  rw [toNat_toId h]
  omega

/-- **The lower slot has the lower identifier**, whichever generators the two are of. -/
theorem toId_lt {a b : Slot} (ha : a.Fits) (hb : b.Fits) (h : a.rank < b.rank) (g g' : UInt16) :
    (a.toId g).bits < (b.toId g').bits := by
  apply Id.lt_of_rank_lt
  rw [rank_toId ha, rank_toId hb]
  exact h

end Slot

end Snowflake
