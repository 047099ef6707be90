import Snowflake.Resolution

/-!
# Ticks as numbers

The tick of a reading is its exact tick (`exactTick`), moved to the nearest end where a signed word
does not hold it. Against a number that lies strictly between the ends the word compares as the exact
tick does, so that nothing is decided by the ends of the word as long as it is compared with ticks
of the timestamp field.

Results:
* `Resolution.toInt_tick`: the tick is the exact tick, clamped.
* **`Resolution.toInt_tick_lt_iff`**, **`Resolution.lt_toInt_tick_iff`**,
  **`Resolution.toInt_tick_eq_iff`**: it compares as the exact tick does.
* **`Resolution.exactTick_eq_iff`**: which readings have an exact tick.
* `Resolution.toInt_tick_mono`: a later reading has no earlier tick.
-/

namespace Snowflake.Resolution

/-- The number nearest to `n` between the ends of a signed word. -/
def clamp (n : Int) : Int := max Int64.minValue.toInt (min Int64.maxValue.toInt n)

theorem toInt_saturate (n : Int) : (saturate n).toInt = clamp n := by
  have hmin : Int64.minValue.toInt = -9223372036854775808 := rfl
  have hmax : Int64.maxValue.toInt = 9223372036854775807 := rfl
  unfold saturate clamp
  rw [hmin, hmax]
  exact Int64.toInt_ofInt_of_le (by omega) (by omega)

variable {r : Resolution} {millis : UInt64} {offset : Int64} {n : Int}

/-- **The tick is the exact tick, clamped.** -/
theorem toInt_tick : (r.tick millis offset).toInt = clamp (r.exactTick millis offset) :=
  toInt_saturate _

/-- The number lies strictly between the ends of a signed word. -/
def InWord (n : Int) : Prop := Int64.minValue.toInt < n ∧ n < Int64.maxValue.toInt

theorem toInt_tick_lt_iff (h : InWord n) :
    (r.tick millis offset).toInt < n ↔ r.exactTick millis offset < n := by
  obtain ⟨hmin, hmax⟩ := h
  rw [toInt_tick]
  unfold clamp
  omega

theorem lt_toInt_tick_iff (h : InWord n) :
    n < (r.tick millis offset).toInt ↔ n < r.exactTick millis offset := by
  obtain ⟨hmin, hmax⟩ := h
  rw [toInt_tick]
  unfold clamp
  omega

theorem toInt_tick_eq_iff (h : InWord n) :
    (r.tick millis offset).toInt = n ↔ r.exactTick millis offset = n := by
  obtain ⟨hmin, hmax⟩ := h
  rw [toInt_tick]
  unfold clamp
  omega

/-- **A reading has the tick `n` if its time lies between the starts of that tick and the next.** -/
theorem exactTick_eq_iff : r.exactTick millis offset = n ↔
    r.millisPerTick * n ≤ shifted millis offset ∧
      shifted millis offset < r.millisPerTick * (n + 1) := by
  unfold exactTick
  cases r <;> simp only [millisPerTick] <;> omega

/-- **A later reading has no earlier tick**, before the origin and at the ends of the word too. -/
theorem toInt_tick_mono {millis' : UInt64} (h : millis ≤ millis') :
    (r.tick millis offset).toInt ≤ (r.tick millis' offset).toInt := by
  have hle := UInt64.le_iff_toNat_le.mp h
  have hexact : r.exactTick millis offset ≤ r.exactTick millis' offset := by
    unfold exactTick shifted
    cases r <;> simp only [millisPerTick] <;> omega
  rw [toInt_tick, toInt_tick]
  unfold clamp
  omega

end Snowflake.Resolution
