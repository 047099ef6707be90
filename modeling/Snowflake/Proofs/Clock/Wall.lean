import Snowflake.Proofs.Generator.Refusal
import Snowflake.Proofs.Resolution.Until

/-!
# Waiting on the time of day

A call that finds its tick used up sleeps until the next one. On a wall clock that nothing but these
sleeps moves it comes back. From 1970 on one sleep is enough: it ends at the start of the next tick,
or, where the reading wraps, in a time that is long past. Before 1970 the clock reads zero and
stands still, so that the call sleeps again, but each sleep brings 1970 nearer by a millisecond or
more.

Results:
* `Generator.await_mono`: a call that has come back comes back the same with more patience.
* `Generator.pause_of_usedUp`: the sleep lasts to the start of the next tick.
* `Generator.exactTick_add_pause_ne`: after it the tick is another one, even if the reading wraps.
* **`Generator.await_wall`**, `Generator.next_wall`: a call comes back after at most one sleep for
  each millisecond until 1970, and one more.
* `Cell.next_wall`: the same under the lock.
* **`Generator.await_wall_once`**, `Generator.isLeast_pause`: from 1970 on it
  sleeps once, no longer than it has to, and ends in the next tick.
-/

namespace Snowflake

open Resolution

/-! ## The clock -/

namespace WallClock

variable {clock : WallClock}

/-- Milliseconds until 1970, with a part of one as a whole; none from 1970 on. -/
def untilEpoch (clock : WallClock) : Nat :=
  ((-clock.nanos).toNat + (nanosPerMilli - 1)) / nanosPerMilli

theorem untilEpoch_eq_zero_iff : clock.untilEpoch = 0 ↔ 0 ≤ clock.nanos := by
  unfold untilEpoch nanosPerMilli
  omega

theorem nanos_move (nanos : Int) : (clock.move nanos).nanos = clock.nanos + nanos := rfl

theorem untilEpoch_move (v : Nat) :
    (clock.move (v * nanosPerMilli : Nat)).untilEpoch = clock.untilEpoch - v := by
  unfold untilEpoch
  rw [nanos_move]
  unfold nanosPerMilli
  omega

/-- From 1970 on the reading moves with the time, in words. -/
theorem millis_move (hepoch : 0 ≤ clock.nanos) (v : Nat) :
    (clock.move (v * nanosPerMilli : Nat)).millis = clock.millis + UInt64.ofNat v := by
  have hnanos : (clock.move (v * nanosPerMilli : Nat)).nanos.toNat / nanosPerMilli =
      clock.nanos.toNat / nanosPerMilli + v := by
    rw [nanos_move]
    unfold nanosPerMilli
    omega
  unfold millis
  rw [hnanos, UInt64.ofNat_add]

theorem untilEpoch_le_patience : clock.untilEpoch + 2 ≤ Clock.patience clock := by
  change _ ≤ (-clock.nanos).toNat / nanosPerMilli + 4
  unfold untilEpoch nanosPerMilli
  omega

end WallClock

namespace Generator

/-! ## Patience -/

section Patience

variable {σ : Type} [Clock σ] {g : Generator} {last slot : Slot} {waited : Bool}
  {patience : Nat} {clock clock' : σ} {call : Call}

/-- **More patience makes no difference to a call that has come back.** -/
theorem await_mono (h : g.await last waited patience clock = (call, slot, clock'))
    (hret : call.returned = true) {more : Nat} (hle : patience ≤ more) :
    g.await last waited more clock = (call, slot, clock') := by
  rw [await_eq_iff] at h ⊢
  induction h generalizing more with
  | unfinished => exact absurd hret (by simp [Call.immediate, Call.returned])
  | fault read =>
    obtain ⟨n, rfl⟩ := Nat.exists_eq_add_of_le' hle
    exact .fault read
  | issue read attempt =>
    obtain ⟨n, rfl⟩ := Nat.exists_eq_add_of_le' hle
    exact .issue read attempt
  | refuse read attempt =>
    obtain ⟨n, rfl⟩ := Nat.exists_eq_add_of_le' hle
    exact .refuse read attempt
  | wait read attempt _ ih =>
    obtain ⟨n, rfl⟩ : ∃ n, more = n + 1 := ⟨more - 1, by omega⟩
    -- the rest of the call ends as the call does
    exact .wait read attempt (ih hret (Nat.le_of_succ_le_succ hle))

end Patience

/-! ## One sleep -/

variable {g : Generator} {last : Slot} {millis wait : UInt64}

theorem toNat_tick_succ (hfits : last.Fits) : (last.tick + 1).toNat = last.tick.toNat + 1 := by
  have hlt := hfits.tick_lt
  rw [UInt64.toNat_add, UInt64.toNat_one]
  exact Nat.mod_eq_of_lt (by omega)

/-- A call waits only where the tick is used up. -/
theorem usedUp_of_attempt_wait (hfits : last.Fits) (h : g.attempt last millis = .wait wait) :
    last.UsedUp (g.tick millis) := by
  cases leadsTo_of_attempt h with
  | wait advance => exact (Slot.advance_eq_exhausted_iff hfits).mp advance

/-- There it does, if the generator is one that waits. -/
theorem attempt_of_usedUp (hfits : last.Fits) (hwaits : g.waits = true)
    (h : last.UsedUp (g.tick millis)) : g.attempt last millis = .wait (g.pause last millis) :=
  attempt_of_exhausted hwaits ((Slot.advance_eq_exhausted_iff hfits).mpr h)

/-- The tick of the last slot lies between the starts of that tick and the next. -/
theorem shifted_of_usedUp (hfits : last.Fits) (h : last.UsedUp (g.tick millis)) :
    g.resolution.millisPerTick * (last.tick.toNat : Int) ≤ shifted millis g.offset ∧
      shifted millis g.offset < g.resolution.millisPerTick * ((last.tick.toNat : Int) + 1) :=
  exactTick_eq_iff.mp ((toInt_tick_eq_iff hfits.inWord).mp h.tick)

/-- **The sleep lasts to the start of the next tick**, for a millisecond at least and for a whole
tick at most. -/
theorem pause_of_usedUp (hfits : last.Fits) (h : last.UsedUp (g.tick millis)) :
    shifted millis g.offset + (g.pause last millis).toNat =
        g.resolution.millisPerTick * ((last.tick.toNat : Int) + 1) ∧
      1 ≤ (g.pause last millis).toNat ∧
      (g.pause last millis).toNat ≤ g.resolution.millisPerTick := by
  have htick := toNat_tick_succ hfits
  obtain ⟨hbegun, hnext⟩ := shifted_of_usedUp hfits h
  have huntil : (g.resolution.millisUntil (last.tick + 1) millis g.offset).toNat =
      (g.resolution.millisPerTick * ((last.tick.toNat : Int) + 1) -
        shifted millis g.offset).toNat := by
    have hsize : UInt64.size = 18446744073709551616 := rfl
    rw [toNat_millisUntil, htick, hsize]
    cases hr : g.resolution <;> simp only [hr, millisPerTick] at hbegun hnext ⊢ <;> omega
  have hone : 1 ≤ g.resolution.millisUntil (last.tick + 1) millis g.offset := by
    rw [UInt64.le_iff_toNat_le, huntil, UInt64.toNat_one]
    omega
  have hpause : g.pause last millis = g.resolution.millisUntil (last.tick + 1) millis g.offset :=
    if_pos hone
  rw [hpause, huntil]
  refine ⟨by omega, by omega, ?_⟩
  cases hr : g.resolution <;> simp only [hr, millisPerTick] at hbegun ⊢ <;> omega

/-- A word that the sum of two outgrows holds what is left of it. -/
theorem toNat_add_cases (millis wait : UInt64) :
    (millis + wait).toNat = millis.toNat + wait.toNat ∨
      UInt64.size ≤ millis.toNat + wait.toNat ∧
        (millis + wait).toNat + UInt64.size = millis.toNat + wait.toNat := by
  have hmillis := millis.toNat_lt_size
  have hwait := wait.toNat_lt_size
  have hsize : UInt64.size = 18446744073709551616 := rfl
  rw [UInt64.toNat_add]
  omega

/-- **A sleep that is shorter leaves the call in the tick that is used up, and one that is not comes
to the next.** -/
theorem exactTick_add (hfits : last.Fits) (h : last.UsedUp (g.tick millis))
    (hsum : millis.toNat + wait.toNat < UInt64.size) :
    (wait.toNat < (g.pause last millis).toNat → g.exactTick (millis + wait) = last.tick.toNat) ∧
      (wait = g.pause last millis → g.exactTick (millis + wait) = last.tick.toNat + 1) := by
  obtain ⟨hend, hone, hunit⟩ := pause_of_usedUp hfits h
  obtain ⟨hbegun, hnext⟩ := shifted_of_usedUp hfits h
  unfold exactTick
  rw [exactTick_eq_iff, exactTick_eq_iff, shifted_add hsum]
  constructor
  · intro hshort
    omega
  · rintro rfl
    rw [hend]
    cases hr : g.resolution <;> simp only [millisPerTick] <;> omega

/-- **After the sleep the tick is another one**, even if the reading wraps: then it is earlier. -/
theorem exactTick_add_pause_ne (hfits : last.Fits) (h : last.UsedUp (g.tick millis)) :
    g.exactTick (millis + g.pause last millis) ≠ last.tick.toNat := by
  rcases toNat_add_cases millis (g.pause last millis) with hnat | ⟨-, hwraps⟩
  · have hsum : millis.toNat + (g.pause last millis).toNat < UInt64.size := by
      rw [← hnat]
      exact UInt64.toNat_lt_size _
    rw [(exactTick_add hfits h hsum).2 rfl]
    omega
  · -- the next tick starts long before a word's worth of milliseconds
    obtain ⟨hend, -, -⟩ := pause_of_usedUp hfits h
    have htick := hfits.tick_lt
    have hsize : UInt64.size = 18446744073709551616 := rfl
    unfold exactTick
    rw [Ne, exactTick_eq_iff]
    unfold shifted at hend ⊢
    cases hr : g.resolution <;> simp only [hr, millisPerTick] at hend ⊢ <;> omega

/-! ## Calls -/

section Calls

variable {clock : WallClock} {waited : Bool} {patience : Nat}

/-- A reading ends the call, or finds the tick used up and makes the call sleep. -/
theorem await_wall_cases (hfits : last.Fits) (g : Generator) (waited : Bool) (patience : Nat)
    (clock : WallClock) :
    (∃ call slot, g.await last waited (patience + 1) clock = (call, slot, clock) ∧
      call.returned = true ∧ call.sleeps = []) ∨
    last.UsedUp (g.tick clock.millis) ∧
      g.attempt last clock.millis = .wait (g.pause last clock.millis) := by
  cases ha : g.attempt last clock.millis with
  | issue slot => exact .inl ⟨_, slot, await_of_issue rfl ha, rfl, rfl⟩
  | wait pause => exact .inr ⟨usedUp_of_attempt_wait hfits ha, by rw [pause_of_attempt ha]⟩
  | refuse error reports => exact .inl ⟨_, last, await_of_refuse rfl ha, rfl, rfl⟩

/-- From 1970 on the sleep takes the reading to where the tick ends, in words. -/
theorem millis_sleep_pause (hepoch : 0 ≤ clock.nanos) :
    (Clock.sleep (g.pause last clock.millis) clock).millis =
      clock.millis + g.pause last clock.millis := by
  have h := WallClock.millis_move hepoch (g.pause last clock.millis).toNat
  rw [UInt64.ofNat_toNat] at h
  exact h

/-- So a call that has slept finds another tick. -/
theorem not_usedUp_sleep_pause (hfits : last.Fits) (hepoch : 0 ≤ clock.nanos)
    (h : last.UsedUp (g.tick clock.millis)) :
    ¬last.UsedUp (g.tick (Clock.sleep (g.pause last clock.millis) clock).millis) := by
  rw [millis_sleep_pause hepoch]
  intro hused
  exact exactTick_add_pause_ne hfits h ((toInt_tick_eq_iff hfits.inWord).mp hused.tick)

/-- **A call on a wall clock that only its sleeps move comes back**, after at most one sleep for
each millisecond until 1970 and one more. -/
theorem await_wall (hfits : last.Fits) {n : Nat} (hn : clock.untilEpoch ≤ n)
    (hp : n + 2 ≤ patience) :
    ∃ call slot clock', g.await last waited patience clock = (call, slot, clock') ∧
      call.returned = true ∧ call.sleeps.length ≤ n + 1 := by
  induction n generalizing clock waited patience with
  | zero =>
    obtain ⟨p, rfl⟩ : ∃ p, patience = p + 2 := ⟨patience - 2, by omega⟩
    have hepoch := WallClock.untilEpoch_eq_zero_iff.mp (Nat.le_zero.mp hn)
    rcases await_wall_cases hfits g waited (p + 1) clock with
      ⟨call, slot, hcall, hret, hsleeps⟩ | ⟨hused, ha⟩
    · exact ⟨call, slot, clock, hcall, hret, by simp [hsleeps]⟩
    · rcases await_wall_cases hfits g true p (Clock.sleep (g.pause last clock.millis) clock) with
        ⟨rest, slot, hrest, hret, hsleeps⟩ | ⟨hagain, -⟩
      · exact ⟨_, slot, _, await_of_wait rfl ha hrest, hret, by simp [Call.resume, hsleeps]⟩
      · exact absurd hagain (not_usedUp_sleep_pause hfits hepoch hused)
  | succ n ih =>
    obtain ⟨p, rfl⟩ : ∃ p, patience = p + 1 := ⟨patience - 1, by omega⟩
    rcases await_wall_cases hfits g waited p clock with
      ⟨call, slot, hcall, hret, hsleeps⟩ | ⟨hused, ha⟩
    · exact ⟨call, slot, clock, hcall, hret, by simp [hsleeps]⟩
    · -- the sleep brings 1970 nearer
      obtain ⟨-, hone, -⟩ := pause_of_usedUp hfits hused
      have hmove : (Clock.sleep (g.pause last clock.millis) clock).untilEpoch =
          clock.untilEpoch - (g.pause last clock.millis).toNat := WallClock.untilEpoch_move _
      obtain ⟨rest, slot, clock', hrest, hret, hsleeps⟩ : ∃ rest slot clock',
          g.await last true p (Clock.sleep (g.pause last clock.millis) clock) =
            (rest, slot, clock') ∧ rest.returned = true ∧ rest.sleeps.length ≤ n + 1 :=
        ih (by omega) (by omega)
      refine ⟨_, slot, clock', await_of_wait rfl ha hrest, hret, ?_⟩
      exact Nat.succ_le_succ hsleeps

/-- **So the whole call comes back**, and that it is patient enough makes no difference to it. -/
theorem next_wall (hfits : last.Fits) (clock : WallClock) :
    ∃ call slot clock', g.next last clock = (call, slot, clock') ∧
      call.returned = true ∧ call.sleeps.length ≤ clock.untilEpoch + 1 ∧
      ∀ patience, clock.untilEpoch + 2 ≤ patience →
        g.await last false patience clock = (call, slot, clock') := by
  obtain ⟨call, slot, clock', hawait, hret, hsleeps⟩ : ∃ call slot clock',
      g.await last false (clock.untilEpoch + 2) clock = (call, slot, clock') ∧
        call.returned = true ∧ call.sleeps.length ≤ clock.untilEpoch + 1 :=
    await_wall hfits (Nat.le_refl _) (Nat.le_refl _)
  have hall (patience : Nat) (hle : clock.untilEpoch + 2 ≤ patience) :
      g.await last false patience clock = (call, slot, clock') := await_mono hawait hret hle
  exact ⟨call, slot, clock', hall _ WallClock.untilEpoch_le_patience, hret, hsleeps, hall⟩

/-! ### One sleep, one tick -/

/-- How a call ends in the tick after that of the last slot. -/
def afterTurn (g : Generator) (last : Slot) : Outcome × Slot :=
  if last.tick < Layout.maxTimestamp then
    (.issued ((⟨last.tick + 1, 0⟩ : Slot).toId g.generatorId), ⟨last.tick + 1, 0⟩)
  else (.refused (.timestampOverflow (last.tick + 1)), last)

theorem afterTurn_of_lt (h : last.tick < Layout.maxTimestamp) : afterTurn g last =
    (.issued ((⟨last.tick + 1, 0⟩ : Slot).toId g.generatorId), ⟨last.tick + 1, 0⟩) := if_pos h

theorem afterTurn_of_last (h : last.tick = Layout.maxTimestamp) :
    afterTurn g last = (.refused (.timestampOverflow 4398046511104), last) := by
  unfold afterTurn
  rw [if_neg (by simp [h]), h]
  rfl

/-- **The next tick begins at number zero**, or is refused if the timestamp field does not hold it.
-/
theorem ending_of_next_tick (hfits : last.Fits)
    (h : g.exactTick millis = last.tick.toNat + 1) :
    (g.attempt last millis).ending g last = some (afterTurn g last) := by
  have hsucc := toNat_tick_succ hfits
  have htick : (g.tick millis).toInt = ((last.tick + 1).toNat : Int) := by
    have hlt := hfits.tick_lt
    have hmin : Int64.minValue.toInt = -9223372036854775808 := rfl
    have hmax : Int64.maxValue.toInt = 9223372036854775807 := rfl
    rw [hsucc]
    exact (toInt_tick_eq_iff ⟨by omega, by omega⟩).mpr h
  unfold afterTurn
  by_cases hroom : last.tick < Layout.maxTimestamp
  · have hle := UInt64.lt_iff_toNat_lt.mp hroom
    have hfollows : last.Follows ⟨last.tick + 1, 0⟩ :=
      .later _ (UInt64.lt_iff_toNat_lt.mpr (by omega)) (UInt64.le_iff_toNat_le.mpr (by omega))
    rw [if_pos hroom, attempt_eq, (Slot.advance_eq_next_iff hfits).mpr ⟨hfollows, htick⟩]
    rfl
  · have hle := Nat.not_lt.mp fun hlt => hroom (UInt64.lt_iff_toNat_lt.mpr hlt)
    have hbeyond : last.advance (g.tick millis) = .beyond (last.tick + 1) :=
      (Slot.advance_eq_beyond_iff hfits).mpr ⟨by omega, htick⟩
    rw [if_neg hroom, attempt_eq, hbeyond]
    rfl

/-- **From 1970 on a call that finds its tick used up sleeps once and ends in the next tick**, if
the reading does not wrap. -/
theorem await_wall_once (waited : Bool) (patience : Nat) (hfits : last.Fits) (hwaits : g.waits = true)
    (hepoch : 0 ≤ clock.nanos) (h : last.UsedUp (g.tick clock.millis))
    (hsum : clock.millis.toNat + (g.pause last clock.millis).toNat < UInt64.size) :
    ∃ call, g.await last waited (patience + 2) clock =
        (call, (afterTurn g last).2, Clock.sleep (g.pause last clock.millis) clock) ∧
      call.outcome = (afterTurn g last).1 ∧ call.sleeps = [g.pause last clock.millis] := by
  have hend : (g.attempt last (Clock.sleep (g.pause last clock.millis) clock).millis).ending g last =
      some (afterTurn g last) := by
    rw [millis_sleep_pause hepoch]
    exact ending_of_next_tick hfits ((exactTick_add hfits h hsum).2 rfl)
  obtain ⟨rest, hrest, hout, hsleeps⟩ : ∃ rest, g.await last true (patience + 1)
      (Clock.sleep (g.pause last clock.millis) clock) =
        (rest, (afterTurn g last).2, Clock.sleep (g.pause last clock.millis) clock) ∧
      rest.outcome = (afterTurn g last).1 ∧ rest.sleeps = [] := await_of_ending rfl hend
  refine ⟨_, await_of_wait rfl (attempt_of_usedUp hfits hwaits h) hrest, hout, ?_⟩
  exact congrArg _ hsleeps

/-- **No shorter sleep leads out of the tick.** -/
theorem isLeast_pause (hfits : last.Fits) (hepoch : 0 ≤ clock.nanos)
    (h : last.UsedUp (g.tick clock.millis))
    (hsum : clock.millis.toNat + (g.pause last clock.millis).toNat < UInt64.size) :
    IsLeast {v : Nat | (g.tick (clock.move (v * nanosPerMilli : Nat)).millis).toInt ≠
      last.tick.toNat} (g.pause last clock.millis).toNat := by
  have hiff (millis : UInt64) : (g.tick millis).toInt = last.tick.toNat ↔
      g.exactTick millis = last.tick.toNat := toInt_tick_eq_iff hfits.inWord
  constructor
  · change (g.tick _).toInt ≠ _
    rw [WallClock.millis_move hepoch, UInt64.ofNat_toNat]
    exact fun heq => exactTick_add_pause_ne hfits h ((hiff _).mp heq)
  · intro v hv
    change (g.tick _).toInt ≠ _ at hv
    rw [WallClock.millis_move hepoch] at hv
    by_contra hlt
    have hword : (UInt64.ofNat v).toNat = v := by
      have hsize := (g.pause last clock.millis).toNat_lt_size
      exact UInt64.toNat_ofNat_of_lt' (by omega)
    refine hv ((hiff _).mpr ((exactTick_add hfits h ?_).1 ?_)) <;> omega

end Calls

end Generator

/-- **A call under a sound lock comes back, and leaves the lock sound.** -/
theorem Cell.next_wall {g : Generator} {cell : Cell} (hsound : cell.poisoned = false)
    (hfits : cell.last.Fits) (clock : WallClock) :
    ∃ call slot clock', cell.next g clock = (call, .new slot, clock') ∧
      call.returned = true ∧ call.sleeps.length ≤ clock.untilEpoch + 1 ∧
      ∀ patience, clock.untilEpoch + 2 ≤ patience →
        g.await cell.last false patience clock = (call, slot, clock') := by
  obtain ⟨call, slot, clock', hnext, hret, hsleeps, hall⟩ : ∃ call slot clock',
      g.next cell.last clock = (call, slot, clock') ∧ call.returned = true ∧
        call.sleeps.length ≤ clock.untilEpoch + 1 ∧ ∀ patience, clock.untilEpoch + 2 ≤ patience →
          g.await cell.last false patience clock = (call, slot, clock') :=
    Generator.next_wall hfits clock
  refine ⟨call, slot, clock', ?_, hret, hsleeps, hall⟩
  rw [next_of_sound hsound, hnext, Call.faulted_of_returned hret]
  rfl

end Snowflake
