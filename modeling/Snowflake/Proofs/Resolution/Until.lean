import Mathlib.Order.Bounds.Defs
import Snowflake.Proofs.Resolution.Tick

/-!
# The time until a tick

`tick` divides and rounds towards the past, `millisUntil` multiplies and subtracts, and both end at
the ends of a word. They are still two sides of one inequality: after a wait a tick has begun
exactly if the wait is no shorter than the time until it. This holds before the origin, for origins
at the ends of the word, and for ticks up to the last that a signed word holds.

Results:
* `Resolution.le_exactTick_iff`: a tick has begun once the time has come to its start.
* `Resolution.millisUntil_le_iff`: a wait that a word holds is compared with the exact time.
* **`Resolution.begun_add_iff`**: after which waits a tick has begun.
* **`Resolution.millisUntil_inverts_tick`**: so `millisUntil` is the shortest of them, and zero for
  a tick that has begun.
-/

namespace Snowflake.Resolution

variable {r : Resolution} {target millis wait : UInt64} {offset : Int64}

/-- The tick `target` has begun at the reading. -/
def Begun (r : Resolution) (target millis : UInt64) (offset : Int64) : Prop :=
  (target.toNat : Int) ≤ (r.tick millis offset).toInt

instance : Decidable (r.Begun target millis offset) := inferInstanceAs (Decidable (_ ≤ _))

/-- **A tick has begun once the time has come to its start.** -/
theorem le_exactTick_iff {n : Int} :
    n ≤ r.exactTick millis offset ↔ n * r.millisPerTick ≤ shifted millis offset := by
  unfold exactTick
  cases r <;> simp only [millisPerTick] <;> omega

/-- The tick is clamped, but not below a number of the signed word that the exact tick reaches. -/
theorem begun_iff (htarget : (target.toNat : Int) ≤ Int64.maxValue.toInt) :
    r.Begun target millis offset ↔
      (target.toNat : Int) * r.millisPerTick ≤ shifted millis offset := by
  have hmin : Int64.minValue.toInt = -9223372036854775808 := rfl
  unfold Begun
  rw [← le_exactTick_iff, toInt_tick]
  unfold clamp
  omega

theorem toNat_millisUntil : (r.millisUntil target millis offset).toNat =
    min (UInt64.size - 1) (target.toNat * r.millisPerTick - shifted millis offset).toNat := by
  unfold millisUntil
  rw [UInt64.toNat_ofNat', Nat.mod_eq_of_lt]
  exact Nat.lt_of_le_of_lt (Nat.min_le_left _ _) (by decide)

/-- A wait below the end of the word is no shorter than `millisUntil` exactly if it is no shorter
than the exact time. -/
theorem millisUntil_le_iff (hwait : wait.toNat < UInt64.size - 1) :
    r.millisUntil target millis offset ≤ wait ↔
      (target.toNat : Int) * r.millisPerTick - shifted millis offset ≤ wait.toNat := by
  rw [UInt64.le_iff_toNat_le, toNat_millisUntil]
  omega

/-- A wait that the word has room for moves the time by as much. -/
theorem shifted_add (hsum : millis.toNat + wait.toNat < UInt64.size) :
    shifted (millis + wait) offset = shifted millis offset + wait.toNat := by
  have hnat : (millis + wait).toNat = millis.toNat + wait.toNat := by
    rw [UInt64.toNat_add]
    exact Nat.mod_eq_of_lt hsum
  unfold shifted
  omega

/-- **After a wait a tick has begun exactly if the wait is no shorter than the time until it.** -/
theorem begun_add_iff (htarget : (target.toNat : Int) ≤ Int64.maxValue.toInt)
    (hsum : millis.toNat + wait.toNat < UInt64.size) (hwait : wait.toNat < UInt64.size - 1) :
    r.Begun target (millis + wait) offset ↔ r.millisUntil target millis offset ≤ wait := by
  rw [begun_iff htarget, shifted_add hsum, millisUntil_le_iff hwait]
  omega

/-- **`millisUntil` inverts `tick`.** For every tick of the signed word, every reading and every
origin: after a wait that the word has room for, the tick has begun exactly if the wait is no
shorter than `millisUntil`. So `millisUntil` is zero exactly if the tick has begun already, and
otherwise, where the word has room for it, the shortest wait after which it has. Only the longest
wait of all decides nothing, since `millisUntil` is never longer. -/
theorem millisUntil_inverts_tick (r : Resolution) (target millis : UInt64) (offset : Int64)
    (htarget : (target.toNat : Int) ≤ Int64.maxValue.toInt) :
    (∀ wait : UInt64, millis.toNat + wait.toNat < UInt64.size → wait.toNat < UInt64.size - 1 →
      (r.Begun target (millis + wait) offset ↔ r.millisUntil target millis offset ≤ wait)) ∧
    (r.millisUntil target millis offset = 0 ↔ r.Begun target millis offset) ∧
    (millis.toNat + (r.millisUntil target millis offset).toNat < UInt64.size →
      (r.millisUntil target millis offset).toNat < UInt64.size - 1 →
      IsLeast {wait : UInt64 | millis.toNat + wait.toNat < UInt64.size ∧
        r.Begun target (millis + wait) offset} (r.millisUntil target millis offset)) := by
  refine ⟨fun wait hsum hwait => begun_add_iff htarget hsum hwait, ?_, ?_⟩
  · have hzero : millis.toNat + (0 : UInt64).toNat < UInt64.size := millis.toNat_lt_size
    have hnow : r.Begun target (millis + 0) offset ↔ r.millisUntil target millis offset ≤ 0 :=
      begun_add_iff htarget hzero (by decide)
    rw [UInt64.add_zero] at hnow
    rw [hnow, UInt64.le_iff_toNat_le, ← UInt64.toNat_inj]
    exact (Nat.le_zero).symm
  · intro hsum hwait
    refine ⟨⟨hsum, (begun_add_iff htarget hsum hwait).mpr (UInt64.le_refl _)⟩, ?_⟩
    rintro wait ⟨hroom, hbegun⟩
    by_cases hlong : wait.toNat < UInt64.size - 1
    · exact (begun_add_iff htarget hroom hlong).mp hbegun
    · rw [UInt64.le_iff_toNat_le]
      omega

/-- Seconds from an origin that lies in the last second of the word: after a wait that is shorter by
a millisecond its first tick has not begun. -/
theorem millisUntil_inverts_tick_late_origin :
    Resolution.second.millisUntil 0 7 (-18446744073709551) = 18446744073709550993 ∧
      ¬Resolution.second.Begun 0 (7 + 18446744073709550992) (-18446744073709551) ∧
      IsLeast {wait : UInt64 | (7 : UInt64).toNat + wait.toNat < UInt64.size ∧
        Resolution.second.Begun 0 (7 + wait) (-18446744073709551)} 18446744073709550993 := by
  obtain ⟨hwait, -, hleast⟩ := millisUntil_inverts_tick .second 0 7 (-18446744073709551) (by decide)
  refine ⟨by decide, ?_, hleast (by decide) (by decide)⟩
  rw [hwait _ (by decide) (by decide)]
  decide

end Snowflake.Resolution
