import Snowflake.Proofs.Clock.Wall
import Snowflake.Proofs.Session.Timestamp

/-!
# Waiting for the next tick

At any point of its life a generator or a clone may be called on a wall clock that nothing but the
sleeps of the call moves. The call comes back, whatever the time of day, the origin and the length
of a tick; the lock is free again. If its tick is used up, it sleeps no longer than it has to.

Results:
* **`Life.wait_hits_next_tick`**: a call on a wall clock comes back, and if its tick is used up it
  does so after one sleep, at the start of the next tick.
-/

namespace Snowflake

namespace Life

variable {σ : Type} [Clock σ] (l : Life σ)

/-- **Waiting ends, and at the next tick.** At any point of a life, a call through the generator or
a clone is made on a wall clock that moves by the sleeps of the call only. It comes back after at
most one sleep for each millisecond until 1970 and one more, and comes back the same however patient
the reading loop is. If moreover the generator waits, the tick is used up, it is 1970 or later, and
the reading after the sleep fits the word, then the call sleeps once, for at least a millisecond and
at most a tick, and no shorter sleep would have led out of the tick. Then it issues number zero of
the next tick; or, where the timestamp field ends, it is refused with the tick after the last, and
the checkpoint stays. -/
theorem wait_hits_next_tick {g : Nat} (hg : l.Shares g) (wall : WallClock) :
    ∃ call s, (l.finish.withClock wall).next g = some (call, s) ∧
      call.returned = true ∧ call.sleeps.length ≤ wall.untilEpoch + 1 ∧
      ∀ last, l.finish.checkpoint? g = some (.ok last) →
        (∀ patience, wall.untilEpoch + 2 ≤ patience → ∃ slot,
          l.settings.generator.await last false patience wall = (call, slot, s.clock)) ∧
        (l.settings.waits = true → last.UsedUp (l.settings.generator.tick wall.millis) →
          0 ≤ wall.nanos →
          wall.millis.toNat + (l.settings.generator.pause last wall.millis).toNat < UInt64.size →
          ∃ w : UInt64, call.sleeps = [w] ∧
            1 ≤ w.toNat ∧ w.toNat ≤ l.settings.resolution.millisPerTick ∧
            IsLeast {v : Nat | (l.settings.generator.tick
              (wall.move (v * nanosPerMilli : Nat)).millis).toInt ≠ last.tick.toNat} w.toNat ∧
            (last.tick < Layout.maxTimestamp →
              call.outcome =
                .issued ((⟨last.tick + 1, 0⟩ : Slot).toId l.settings.generatorId) ∧
              s.checkpoint? g = some (.ok ⟨last.tick + 1, 0⟩)) ∧
            (last.tick = Layout.maxTimestamp →
              call.outcome = .refused (.timestampOverflow 4398046511104) ∧
              s.checkpoint? g = some (.ok last))) := by
  obtain ⟨slots, cell, hat, htrail, -, -⟩ := l.trail
  have hfits : cell.last.Fits := htrail.fits l.fits _ htrail.last_mem
  have hfind : (l.finish.withClock wall).find? g = some (⟨l.settings.generator, l.cell⟩, cell) :=
    l.find?_of_shares hat hg
  have hcheck : l.finish.checkpoint? g = some cell.checkpoint := l.checkpoint?_of_shares hat hg
  cases hp : cell.poisoned with
  | true =>
    refine ⟨_, _, Session.next_of_find? hfind (Cell.next_of_poisoned hp), rfl, Nat.zero_le _, ?_⟩
    intro last hlast
    rw [hcheck] at hlast
    rw [Cell.checkpoint_eq_ok (Option.some.inj hlast)] at hp
    exact absurd hp (by simp [Cell.new])
  | false =>
    obtain ⟨call, slot, wall', hmade, hret, hsleeps, hall⟩ : ∃ call slot wall',
        cell.next l.settings.generator wall = (call, .new slot, wall') ∧ call.returned = true ∧
          call.sleeps.length ≤ wall.untilEpoch + 1 ∧ ∀ patience, wall.untilEpoch + 2 ≤ patience →
            l.settings.generator.await cell.last false patience wall = (call, slot, wall') :=
      Cell.next_wall hp hfits wall
    obtain ⟨s, hnext, hafter, rfl⟩ := Session.exists_next_of_find? hfind hmade
    refine ⟨call, s, hnext, hret, hsleeps, fun last hlast => ?_⟩
    obtain rfl : last = cell.last := by
      rw [hcheck, Cell.checkpoint_of_sound hp] at hlast
      exact (Except.ok.inj (Option.some.inj hlast)).symm
    refine ⟨fun patience hle => ⟨slot, hall patience hle⟩, fun hwaits hused hepoch hsum => ?_⟩
    obtain ⟨call', hturn, hout, hone⟩ :=
      Generator.await_wall_once false 0 hfits hwaits hepoch hused hsum
    -- two readings are enough from 1970 on, so this is the call
    rw [hall 2 (by rw [WallClock.untilEpoch_eq_zero_iff.mpr hepoch])] at hturn
    obtain ⟨rfl, hlast⟩ := Prod.mk.inj hturn
    obtain ⟨rfl, -⟩ := Prod.mk.inj hlast
    obtain ⟨-, hmilli, htick⟩ := Generator.pause_of_usedUp hfits hused
    refine ⟨_, hone, hmilli, htick, Generator.isLeast_pause hfits hepoch hused hsum, ?_, ?_⟩
    · intro hroom
      have hturn : l.settings.generator.afterTurn cell.last = _ := Generator.afterTurn_of_lt hroom
      rw [hturn] at hout hafter
      exact ⟨hout, hafter⟩
    · intro hend
      have hturn : l.settings.generator.afterTurn cell.last = _ := Generator.afterTurn_of_last hend
      rw [hturn] at hout hafter
      exact ⟨hout, hafter⟩

/-- Four tenths of a millisecond after a quarter of the seventh second, whose numbers are used up,
the call sleeps for three quarters of a second and issues number zero of the eighth. -/
theorem wait_hits_next_tick_seventh :
    ∃ call s, (seventh.finish.withClock (WallClock.mk 17250400000)).next 0 = some (call, s) ∧
      call.sleeps = [750] ∧
      IsLeast {v : Nat | (seventh.settings.generator.tick
        ((WallClock.mk 17250400000).move (v * nanosPerMilli : Nat)).millis).toInt ≠ 7} 750 ∧
      call.outcome = .issued ((⟨8, 0⟩ : Slot).toId 3) ∧ s.checkpoint? 0 = some (.ok ⟨8, 0⟩) := by
  obtain ⟨call, s, hnext, -, -, hlast⟩ :=
    seventh.wait_hits_next_tick seventh.shares_handle ⟨17250400000⟩
  have hmade : (seventh.finish.withClock (WallClock.mk 17250400000)).next 0 = some
      (Call.resume [.waiting 7] 750 (.single (.issued ((⟨8, 0⟩ : Slot).toId 3)) []),
        { seventh.finish.withClock (WallClock.mk 18000400000) with cells := [.new ⟨8, 0⟩] }) := rfl
  obtain ⟨rfl, rfl⟩ := Prod.mk.inj (Option.some.inj (hnext.symm.trans hmade))
  obtain ⟨w, hsleeps, -, -, hleast, hissued, -⟩ :=
    (hlast ⟨7, 2047⟩ rfl).2 rfl ⟨by decide, by decide⟩ (by decide) (by decide)
  obtain rfl : 750 = w := (List.cons.inj hsleeps).1
  obtain ⟨hout, hcheck⟩ := hissued (by decide)
  exact ⟨_, _, hnext, hsleeps, hleast, hout, hcheck⟩

end Life

end Snowflake
