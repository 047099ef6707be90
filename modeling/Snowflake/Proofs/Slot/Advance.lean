import Snowflake.Proofs.Slot.Trail

/-!
# The answers of `advance`

Which of its four answers `Slot.advance` gives depends on how the tick lies to the one of the last
slot, and on whether that tick has a number left.

`advance` compares words, and casts them back and forth. On a last slot that fits, and that is all a
generator ever holds, the casts lose nothing: the tick of the slot is far below the sign bit, and a
tick after it is not negative. So the comparisons are those of the numbers. Elsewhere they are not:
a last tick from the upper half of the words passes for a negative one.

Results:
* **`Slot.advance_exact`**: on a last slot that fits, `advance` compares numbers.
* `Slot.advance_eq_iff`: its answers, one case each (`Slot.Answer`).
* `Slot.advance_eq_next_iff`: the next slot is the one that follows and has the tick.
* `Slot.advance_eq_exhausted_iff`, `Slot.advance_eq_behind_iff`, `Slot.advance_eq_beyond_iff`: when
  there is no next slot, and why.
* **`Slot.advance_follows`**: the slot that `advance` allows follows the last one.
-/

namespace Snowflake.Slot

variable {last slot : Slot} {now : Int64} {tick : UInt64}

/-! ## Casts -/

/-- A word below the sign bit is the same number as a signed one. -/
theorem toInt_toInt64 {word : UInt64} (h : word.toNat < 2 ^ 63) :
    word.toInt64.toInt = word.toNat := by
  have hcast : word.toInt64 = Int64.ofNat word.toNat := by
    rw [← UInt64.toInt64_ofNat', UInt64.ofNat_toNat]
  rw [hcast]
  exact Int64.toInt_ofNat_of_lt h

/-- A signed word that is not negative is the same number as an unsigned one. -/
theorem toNat_toUInt64 (h : 0 ≤ now.toInt) : now.toUInt64.toNat = now.toInt.toNat :=
  Int64.toNat_toUInt64_of_le (Int64.le_iff_toInt_le.mpr h)

/-- **The tick of a slot that fits is the same number as a signed word.** -/
theorem Fits.toInt_tick (h : last.Fits) : last.tick.toInt64.toInt = last.tick.toNat :=
  toInt_toInt64 (Nat.lt_trans h.tick_lt (by decide))

theorem Fits.tick_lt_iff (h : last.Fits) :
    last.tick.toInt64 < now ↔ (last.tick.toNat : Int) < now.toInt := by
  rw [Int64.lt_iff_toInt_lt, h.toInt_tick]

theorem Fits.eq_tick_iff (h : last.Fits) :
    now = last.tick.toInt64 ↔ now.toInt = last.tick.toNat := by
  rw [← Int64.toInt_inj, h.toInt_tick]

theorem maxTimestamp_lt_iff (h : 0 ≤ now.toInt) :
    Layout.maxTimestamp < now.toUInt64 ↔ (Layout.maxTimestamp.toNat : Int) < now.toInt := by
  rw [UInt64.lt_iff_toNat_lt, toNat_toUInt64 h]
  omega

/-- **On a last slot that fits, `advance` compares numbers**, and a later tick that it goes on to or
reports is the number that was compared. -/
theorem advance_exact (hfits : last.Fits) (now : Int64) :
    last.advance now =
      if (last.tick.toNat : Int) < now.toInt then
        if (Layout.maxTimestamp.toNat : Int) < now.toInt then .beyond (UInt64.ofNat now.toInt.toNat)
        else .next ⟨UInt64.ofNat now.toInt.toNat, 0⟩
      else if now.toInt = last.tick.toNat then
        if last.sequence < Layout.maxSequence then .next ⟨last.tick, last.sequence + 1⟩
        else .exhausted
      else .behind := by
  unfold advance
  simp only [hfits.tick_lt_iff, hfits.eq_tick_iff]
  by_cases hlater : (last.tick.toNat : Int) < now.toInt
  · have hpos : 0 ≤ now.toInt := by omega
    have hword : now.toUInt64 = UInt64.ofNat now.toInt.toNat := by
      rw [← toNat_toUInt64 hpos, UInt64.ofNat_toNat]
    simp only [if_pos hlater, maxTimestamp_lt_iff hpos]
    rw [hword]
  · simp only [if_neg hlater]

/-- Elsewhere it does not: as a signed word the largest tick comes before tick zero. -/
example : (⟨18446744073709551615, 0⟩ : Slot).advance 0 = .next ⟨0, 0⟩ := by decide

/-! ## Answers -/

/-- The tick `now` is that of the slot, and no number is left in it. -/
structure UsedUp (last : Slot) (now : Int64) : Prop where
  tick : now.toInt = last.tick.toNat
  sequence : Layout.maxSequence ≤ last.sequence

/-- A signed word, or zero in place of a negative one, fits an unsigned one. -/
theorem toNat_ofNat_toNat (now : Int64) :
    (UInt64.ofNat now.toInt.toNat).toNat = now.toInt.toNat := by
  have := now.toInt_lt
  rw [UInt64.toNat_ofNat']
  omega

/-- The answers of `advance`, with how the tick lies to the one of the last slot. -/
inductive Answer (last : Slot) (now : Int64) : Advance → Prop where
  /-- The tick goes on. -/
  | within (same : now.toInt = last.tick.toNat) (room : last.sequence < Layout.maxSequence) :
    Answer last now (.next ⟨last.tick, last.sequence + 1⟩)
  /-- A later tick begins. -/
  | later {tick : UInt64} (after : last.tick < tick) (inField : tick ≤ Layout.maxTimestamp)
      (same : now.toInt = tick.toNat) : Answer last now (.next ⟨tick, 0⟩)
  | exhausted (usedUp : last.UsedUp now) : Answer last now .exhausted
  | behind (before : now.toInt < last.tick.toNat) : Answer last now .behind
  | beyond {tick : UInt64} (past : (Layout.maxTimestamp.toNat : Int) < now.toInt)
      (same : now.toInt = tick.toNat) : Answer last now (.beyond tick)

theorem answer_advance (hfits : last.Fits) (now : Int64) :
    last.Answer now (last.advance now) := by
  have hword := toNat_ofNat_toNat now
  rw [advance_exact hfits]
  by_cases hlater : (last.tick.toNat : Int) < now.toInt
  · have hsame : now.toInt = ((UInt64.ofNat now.toInt.toNat).toNat : Int) := by omega
    rw [if_pos hlater]
    by_cases hpast : (Layout.maxTimestamp.toNat : Int) < now.toInt
    · rw [if_pos hpast]
      exact .beyond hpast hsame
    · rw [if_neg hpast]
      exact .later (UInt64.lt_iff_toNat_lt.mpr (by omega)) (UInt64.le_iff_toNat_le.mpr (by omega))
        hsame
  · rw [if_neg hlater]
    by_cases hsame : now.toInt = last.tick.toNat
    · rw [if_pos hsame]
      by_cases hroom : last.sequence < Layout.maxSequence
      · rw [if_pos hroom]
        exact .within hsame hroom
      · rw [if_neg hroom]
        exact .exhausted ⟨hsame, UInt16.not_lt.mp hroom⟩
    · rw [if_neg hsame]
      exact .behind (by omega)

theorem Answer.advance_eq {answer : Advance} (h : last.Answer now answer) (hfits : last.Fits) :
    last.advance now = answer := by
  have hlast := UInt64.le_iff_toNat_le.mp hfits.tick
  rw [advance_exact hfits]
  cases h with
  | within same room => rw [if_neg (by omega), if_pos same, if_pos room]
  | later after inField same =>
    have hafter := UInt64.lt_iff_toNat_lt.mp after
    have hle := UInt64.le_iff_toNat_le.mp inField
    rw [if_pos (by omega), if_neg (by omega), same, Int.toNat_natCast, UInt64.ofNat_toNat]
  | exhausted usedUp =>
    have hsame := usedUp.tick
    rw [if_neg (by omega), if_pos hsame, if_neg (UInt16.not_lt.mpr usedUp.sequence)]
  | behind before => rw [if_neg (by omega), if_neg (by omega)]
  | beyond past same =>
    rw [if_pos (by omega), if_pos past, same, Int.toNat_natCast, UInt64.ofNat_toNat]

/-- **On a last slot that fits, the answers of `advance` are those.** -/
theorem advance_eq_iff {answer : Advance} (hfits : last.Fits) :
    last.advance now = answer ↔ last.Answer now answer := by
  constructor
  · rintro rfl
    exact answer_advance hfits now
  · exact fun h => h.advance_eq hfits

theorem advance_eq_next_iff (hfits : last.Fits) :
    last.advance now = .next slot ↔ last.Follows slot ∧ now.toInt = slot.tick.toNat := by
  rw [advance_eq_iff hfits]
  constructor
  · intro h
    cases h with
    | within same room => exact ⟨.within (UInt16.lt_iff_toNat_lt.mp room), same⟩
    | later after inField same => exact ⟨.later _ after inField, same⟩
  · rintro ⟨hfollows, same⟩
    cases hfollows with
    | within h => exact .within same (UInt16.lt_iff_toNat_lt.mpr h)
    | later tick after inField => exact .later after inField same

theorem advance_eq_exhausted_iff (hfits : last.Fits) :
    last.advance now = .exhausted ↔ last.UsedUp now := by
  rw [advance_eq_iff hfits]
  constructor
  · intro h
    cases h with
    | exhausted usedUp => exact usedUp
  · exact .exhausted

theorem advance_eq_behind_iff (hfits : last.Fits) :
    last.advance now = .behind ↔ now.toInt < last.tick.toNat := by
  rw [advance_eq_iff hfits]
  constructor
  · intro h
    cases h with
    | behind before => exact before
  · exact .behind

/-- A later tick is refused if the timestamp field does not hold it. -/
theorem advance_eq_beyond_iff (hfits : last.Fits) :
    last.advance now = .beyond tick ↔
      (Layout.maxTimestamp.toNat : Int) < now.toInt ∧ now.toInt = tick.toNat := by
  rw [advance_eq_iff hfits]
  constructor
  · intro h
    cases h with
    | beyond past same => exact ⟨past, same⟩
  · rintro ⟨past, same⟩
    exact .beyond past same

/-- **`advance` goes on to a slot that follows.** -/
theorem advance_follows (hfits : last.Fits) (h : last.advance now = .next slot) :
    last.Follows slot :=
  ((advance_eq_next_iff hfits).mp h).1

end Snowflake.Slot
