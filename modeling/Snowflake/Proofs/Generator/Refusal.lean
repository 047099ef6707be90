import Snowflake.Proofs.Clock.Tape
import Snowflake.Proofs.Resolution.Tick
import Snowflake.Proofs.Slot.Advance

/-!
# Why calls are refused

A call looks at the tick of a reading, which is a word. What its errors say is true of the exact tick
as well (`Generator.Refuses`), also where the word does not hold it: the last slot lies within the
timestamp field, and there the two compare alike.

Results:
* **`Generator.refuses_of_attempt`**: a reading refuses a call for one of three reasons.
* **`Generator.attempt_of_opens`**: a reading for which there is a slot issues it.
* `Generator.refuses_of_next_tape`, `Generator.issued_of_next_tape`: so it is with calls.
-/

namespace Snowflake

open Resolution

theorem Slot.Fits.inWord {slot : Slot} (h : slot.Fits) : InWord slot.tick.toNat := by
  have htick := h.tick_lt
  have hmin : Int64.minValue.toInt = -9223372036854775808 := rfl
  have hmax : Int64.maxValue.toInt = 9223372036854775807 := rfl
  unfold InWord
  omega

namespace Generator

/-- The exact tick of a reading. -/
def exactTick (g : Generator) (millis : UInt64) : Int := g.resolution.exactTick millis g.offset

/-- What the error tells that a reading refuses a call with, after the slot `last`. -/
inductive Refuses (g : Generator) (last : Slot) (millis : UInt64) : Error → Prop where
  /-- The last number of the tick has been issued, and the generator does not wait. -/
  | usedUp (waits : g.waits = false) (tick : g.exactTick millis = last.tick.toNat)
      (sequence : last.sequence = Layout.maxSequence) :
      Refuses g last millis (.sequenceOverflow last.tick last.sequence)
  /-- The tick is earlier than the last one. -/
  | behind {now : Int64} (tick : g.exactTick millis < last.tick.toNat)
      (clamped : now.toInt = clamp (g.exactTick millis)) :
      Refuses g last millis (.clockRegression now last.tick)
  /-- The tick lies past the timestamp field. -/
  | beyond {tick : UInt64} (past : (Layout.maxTimestamp.toNat : Int) < g.exactTick millis)
      (clamped : (tick.toNat : Int) = clamp (g.exactTick millis)) :
      Refuses g last millis (.timestampOverflow tick)

/-- There is a slot to issue: the tick is a later one that the timestamp field holds, or it is the
last one and has a number left. -/
def Opens (g : Generator) (last : Slot) (millis : UInt64) : Prop :=
  ((last.tick.toNat : Int) < g.exactTick millis ∧
    g.exactTick millis ≤ Layout.maxTimestamp.toNat) ∨
  (g.exactTick millis = last.tick.toNat ∧ last.sequence < Layout.maxSequence)

variable {g : Generator} {last : Slot} {millis : UInt64}

theorem toInt_tick : (g.tick millis).toInt = clamp (g.exactTick millis) := Resolution.toInt_tick

/-- The timestamp field ends within a word. -/
theorem inWord_maxTimestamp : InWord Layout.maxTimestamp.toNat := by
  unfold InWord
  decide

/-- **A reading refuses a call because the tick is used up, earlier than the last one, or past the
timestamp field.** -/
theorem refuses_of_attempt (hfits : last.Fits) {error : Error} {reports : List Event}
    (h : g.attempt last millis = .refuse error reports) : g.Refuses last millis error := by
  cases leadsTo_of_attempt h with
  | usedUp advance waits =>
    obtain ⟨htick, hseq⟩ := (Slot.advance_eq_exhausted_iff hfits).mp advance
    exact .usedUp waits ((toInt_tick_eq_iff hfits.inWord).mp htick)
      (UInt16.le_antisymm hfits.sequence hseq)
  | behind advance =>
    have hlt := (Slot.advance_eq_behind_iff hfits).mp advance
    exact .behind ((toInt_tick_lt_iff hfits.inWord).mp hlt) toInt_tick
  | beyond advance =>
    obtain ⟨hpast, htick⟩ := (Slot.advance_eq_beyond_iff hfits).mp advance
    refine .beyond ((lt_toInt_tick_iff inWord_maxTimestamp).mp hpast) ?_
    rw [← htick]
    exact toInt_tick

/-- **Where there is a slot to issue, it is issued.** -/
theorem attempt_of_opens (hfits : last.Fits) (h : g.Opens last millis) :
    ∃ slot, g.attempt last millis = .issue slot := by
  obtain ⟨slot, hslot⟩ : ∃ slot, last.advance (g.tick millis) = .next slot := by
    rcases h with ⟨hlater, hmax⟩ | ⟨htick, hroom⟩
    · have hlater : (last.tick.toNat : Int) < (g.tick millis).toInt :=
        (lt_toInt_tick_iff hfits.inWord).mpr hlater
      have hmax : (g.tick millis).toInt ≤ Layout.maxTimestamp.toNat :=
        Int.not_lt.mp ((not_congr (lt_toInt_tick_iff inWord_maxTimestamp)).mpr (Int.not_lt.mpr hmax))
      have hword := Slot.toNat_ofNat_toNat (g.tick millis)
      refine ⟨_, (Slot.advance_eq_next_iff hfits).mpr ⟨.later (UInt64.ofNat (g.tick millis).toInt.toNat)
        (UInt64.lt_iff_toNat_lt.mpr (by omega)) (UInt64.le_iff_toNat_le.mpr (by omega)), ?_⟩⟩
      change _ = ((UInt64.ofNat (g.tick millis).toInt.toNat).toNat : Int)
      omega
    · have htick : (g.tick millis).toInt = last.tick.toNat :=
        (toInt_tick_eq_iff hfits.inWord).mpr htick
      exact ⟨_, (Slot.advance_eq_next_iff hfits).mpr
        ⟨.within (UInt16.lt_iff_toNat_lt.mp hroom), htick⟩⟩
  refine ⟨slot, ?_⟩
  rw [attempt_eq, hslot]

/-! ## Calls -/

theorem attempt_of_ending_refused {error : Error} {slot : Slot}
    (h : (g.attempt last millis).ending g last = some (.refused error, slot)) :
    ∃ reports, g.attempt last millis = .refuse error reports := by
  cases ha : g.attempt last millis with
  | issue slot => rw [ha] at h; exact absurd h (by simp [Attempt.ending])
  | wait pause => rw [ha] at h; exact absurd h (by simp [Attempt.ending])
  | refuse error' reports =>
    rw [ha] at h
    obtain ⟨herror, -⟩ := Prod.mk.inj (Option.some.inj h)
    obtain rfl := Outcome.refused.inj herror
    exact ⟨reports, rfl⟩

/-- **What a call is refused with is true of the last reading it took.** -/
theorem refuses_of_next_tape (hfits : last.Fits) {readings : List UInt64} {call : Call}
    {slot : Slot} {tape : Tape} (h : g.next last (Tape.mk readings) = (call, slot, tape))
    {error : Error} (herror : call.outcome = .refused error) :
    ∃ waits millis, readings = waits ++ millis :: tape.readings ∧
      call.readings = waits.length + 1 ∧ g.Refuses last millis error := by
  have hret : call.returned = true := by
    unfold Call.returned
    rw [herror]
  obtain ⟨waits, millis, hreadings, -, hend, hcount, -⟩ := next_tape_inv h hret
  rw [herror] at hend
  obtain ⟨reports, hrefuse⟩ := attempt_of_ending_refused hend
  exact ⟨waits, millis, hreadings, hcount, refuses_of_attempt hfits hrefuse⟩

/-- **A first reading for which there is a slot makes the call succeed.** -/
theorem issued_of_next_tape (hfits : last.Fits) {rest : List UInt64} {call : Call} {slot : Slot}
    {tape : Tape} (h : g.next last (Tape.mk (millis :: rest)) = (call, slot, tape))
    (hopens : g.Opens last millis) : ∃ id, call.outcome = .issued id := by
  obtain ⟨next, hissue⟩ := attempt_of_opens hfits hopens
  have hr : Clock.read (Tape.mk (millis :: rest)) = (.ok millis, ⟨rest⟩) := rfl
  have hnext : g.next last (Tape.mk (millis :: rest)) =
      (.single (.issued (next.toId g.generatorId)) [], next, ⟨rest⟩) := await_of_issue hr hissue
  rw [h] at hnext
  cases hnext
  exact ⟨_, rfl⟩

end Generator

end Snowflake
