import Snowflake.Proofs.Generator.Issue
import Snowflake.Proofs.Session.Linear
import Snowflake.Proofs.Session.Restart

/-!
# Timestamps

At any point of its life a generator or a clone may be called on any readings. What its identifiers
tell is the tick of the reading on which they were made, in exact numbers, for every origin and both
lengths of a tick.

Results:
* **`Life.timestamps_exact`**: the last reading of a call lies in the tick that its identifier tells.
-/

namespace Snowflake

namespace Life

variable {σ : Type} [Clock σ] (l : Life σ)

/-- **Timestamps are exact times of creation.** At any point of a life, a call through the generator
or a clone is made on any readings. If it returns an identifier, the last reading that it took lies
in the tick that the identifier tells (`Generator.Dates`): counted in milliseconds from the origin,
it is not before the start of that tick and before the start of the next, and it is within the
timestamp field. So no reading outside the field leads to an identifier. -/
theorem timestamps_exact {g : Nat} (hg : l.Shares g) (readings : List UInt64) :
    ∃ call s, (l.finish.withClock (Tape.mk readings)).next g = some (call, s) ∧
      ∀ id, call.outcome = .issued id →
        ∃ waits millis, readings = waits ++ millis :: s.clock.readings ∧
          call.readings = waits.length + 1 ∧ l.settings.generator.Dates millis id := by
  obtain ⟨slots, cell, hat, htrail, -, -⟩ := l.trail
  have hfits : cell.last.Fits := htrail.fits l.fits _ htrail.last_mem
  rcases hcall : cell.next l.settings.generator (Tape.mk readings) with ⟨call, cell', tape⟩
  have hfind : (l.finish.withClock (Tape.mk readings)).find? g =
      some (⟨l.settings.generator, l.cell⟩, cell) := l.find?_of_shares hat hg
  refine ⟨call, _, Session.next_of_find? hfind hcall, fun id hid => ?_⟩
  exact Cell.dates_of_next_tape hfits hcall hid

/-- A generator that counts seconds from ten seconds after 1970, after the last number of its
seventh second. -/
def seventh : Life Script := onReadings ⟨3, -10, ⟨7, 2047⟩, true, .second⟩ ⟨_, rfl⟩ []

/-- A reading in the last millisecond of the seventh second makes the call wait, and the next one
starts the eighth. -/
theorem timestamps_exact_seventh :
    ∃ call s, (seventh.finish.withClock (Tape.mk [17999, 18000, 5])).next 0 = some (call, s) ∧
      call.outcome = .issued ((⟨8, 0⟩ : Slot).toId 3) ∧ s.clock.readings = [5] ∧
      seventh.settings.generator.Dates 18000 ((⟨8, 0⟩ : Slot).toId 3) := by
  obtain ⟨call, s, hnext, hdates⟩ :=
    seventh.timestamps_exact seventh.shares_handle [17999, 18000, 5]
  have hmade : (seventh.finish.withClock (Tape.mk [17999, 18000, 5])).next 0 = some
      (Call.resume [.waiting 7] 1 (.single (.issued ((⟨8, 0⟩ : Slot).toId 3)) []),
        { seventh.finish.withClock (Tape.mk [5]) with cells := [.new ⟨8, 0⟩] }) := rfl
  obtain ⟨rfl, rfl⟩ := Prod.mk.inj (Option.some.inj (hnext.symm.trans hmade))
  obtain ⟨waits, millis, hreadings, hcount, hexact⟩ := hdates _ rfl
  obtain ⟨first, rfl⟩ : ∃ first, waits = [first] :=
    List.length_eq_one_iff.mp (Nat.succ.inj hcount).symm
  obtain ⟨-, htail⟩ := List.cons.inj hreadings
  obtain ⟨rfl, -⟩ := List.cons.inj htail
  exact ⟨_, _, hnext, rfl, rfl, hexact⟩

end Life

end Snowflake
