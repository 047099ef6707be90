import Snowflake.Proofs.Generator.Refusal
import Snowflake.Proofs.Id.Canonical

/-!
# When identifiers are made

An identifier is issued on one reading, the last that its call takes, and tells the exact tick of
it. Neither the ends of the signed word, nor the casts between signed and unsigned words, nor the
width of the timestamp field come into it: where the exact tick is not one of the field, nothing is
issued.

Results:
* `Generator.exactTick_of_attempt`: the slot that is issued has the exact tick of the reading.
* **`Generator.dates_of_next_tape`**, `Cell.dates_of_next_tape`: so does the identifier that a call
  returns.
-/

namespace Snowflake

open Resolution

namespace Generator

variable {g : Generator} {last slot : Slot} {millis : UInt64} {id : Id}

/-- **The slot that is issued has the exact tick of the reading.** -/
theorem exactTick_of_attempt (hfits : last.Fits) (h : g.attempt last millis = .issue slot) :
    g.exactTick millis = slot.tick.toNat := by
  obtain ⟨hfollows, htick⟩ := (Slot.advance_eq_next_iff hfits).mp (advance_of_attempt h)
  exact (toInt_tick_eq_iff (hfollows.fits hfits).inWord).mp htick

/-- The identifier tells the tick in which the reading lies, and the reading lies within the
timestamp field. Times are counted in milliseconds from the origin. -/
structure Dates (g : Generator) (millis : UInt64) (id : Id) : Prop where
  begun : (g.resolution.millisPerTick : Int) * id.timestamp.toNat ≤
    millis.toNat + 1000 * g.offset.toInt
  unfinished : millis.toNat + 1000 * g.offset.toInt <
    (g.resolution.millisPerTick : Int) * (id.timestamp.toNat + 1)
  nonneg : 0 ≤ millis.toNat + 1000 * g.offset.toInt
  inField : millis.toNat + 1000 * g.offset.toInt < (g.resolution.millisPerTick : Int) * 2 ^ 42

/-- The tick of an identifier is one of the timestamp field. -/
theorem dates_iff : g.Dates millis id ↔ g.exactTick millis = id.timestamp.toNat := by
  have hlt : id.timestamp.toNat < 2 ^ 42 := id.slot_fits.tick_lt
  have hshifted : shifted millis g.offset = millis.toNat + 1000 * g.offset.toInt := by
    unfold shifted
    omega
  unfold exactTick
  rw [exactTick_eq_iff, hshifted]
  constructor
  · exact fun h => ⟨h.begun, h.unfinished⟩
  · rintro ⟨hbegun, hunfinished⟩
    refine ⟨hbegun, hunfinished, ?_, ?_⟩ <;>
      cases hr : g.resolution <;> simp only [hr, millisPerTick] at hbegun hunfinished ⊢ <;> omega

theorem dates_of_attempt (hfits : last.Fits) (h : g.attempt last millis = .issue slot) :
    g.Dates millis (slot.toId g.generatorId) := by
  rw [dates_iff, exactTick_of_attempt hfits h,
    Slot.timestamp_toId ((follows_of_attempt hfits h).fits hfits)]

/-- An ending with an identifier is that of an attempt that issues it. -/
theorem attempt_of_ending_issued (h : (g.attempt last millis).ending g last = some (.issued id, slot)) :
    g.attempt last millis = .issue slot ∧ id = slot.toId g.generatorId := by
  cases ha : g.attempt last millis with
  | issue next =>
    rw [ha] at h
    obtain ⟨hid, rfl⟩ := Prod.mk.inj (Option.some.inj h)
    exact ⟨rfl, (Outcome.issued.inj hid).symm⟩
  | wait pause => rw [ha] at h; exact absurd h (by simp [Attempt.ending])
  | refuse error reports => rw [ha] at h; exact absurd h (by simp [Attempt.ending])

/-- **The identifier that a call returns tells the tick of the last reading it took**, whatever the
readings before it made the call wait for. -/
theorem dates_of_next_tape (hfits : last.Fits) {readings : List UInt64} {call : Call} {tape : Tape}
    (h : g.next last (Tape.mk readings) = (call, slot, tape)) (hid : call.outcome = .issued id) :
    ∃ waits millis, readings = waits ++ millis :: tape.readings ∧
      call.readings = waits.length + 1 ∧ g.Dates millis id := by
  have hret : call.returned = true := by
    unfold Call.returned
    rw [hid]
  obtain ⟨waits, millis, hreadings, -, hend, hcount, -⟩ := next_tape_inv h hret
  rw [hid] at hend
  obtain ⟨hissue, rfl⟩ := attempt_of_ending_issued hend
  exact ⟨waits, millis, hreadings, hcount, dates_of_attempt hfits hissue⟩

end Generator

/-- The same under the lock. A poisoned lock returns no identifier. -/
theorem Cell.dates_of_next_tape {g : Generator} {cell cell' : Cell} {id : Id}
    {readings : List UInt64} {call : Call} {tape : Tape} (hfits : cell.last.Fits)
    (h : cell.next g (Tape.mk readings) = (call, cell', tape)) (hid : call.outcome = .issued id) :
    ∃ waits millis, readings = waits ++ millis :: tape.readings ∧
      call.readings = waits.length + 1 ∧ g.Dates millis id := by
  cases hp : cell.poisoned with
  | true =>
    rw [next_of_poisoned hp] at h
    cases h
    exact absurd hid (by simp [Call.immediate])
  | false =>
    rw [next_of_sound hp] at h
    cases h
    exact Generator.dates_of_next_tape hfits rfl hid

end Snowflake
