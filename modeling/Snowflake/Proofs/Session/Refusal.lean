import Snowflake.Proofs.Generator.Refusal
import Snowflake.Proofs.Session.Linear
import Snowflake.Proofs.Session.Restart

/-!
# What errors tell

A call through a generator, at any point of its life, is made on readings from a tape. Its errors
are true of the last reading it took and of the last slot before it; that a tick is used up is also
true of the whole life: all numbers of the tick were issued in it, apart from those that the seed
counts as issued. A first reading for which there is a slot leads to an identifier.

Results:
* `Life.mem_slots_of_le`: up to the last slot all numbers of its tick have been issued.
* **`Life.errors_truthful`**: what each error tells, and when there is none.
-/

namespace Snowflake

namespace Life

variable {σ : Type} [Clock σ] (l : Life σ)

/-- The last slot of a life in which the clock never failed is its checkpoint. -/
theorem exists_checkpoint (hsound : ∀ call ∈ l.calls, call.faulted = false) :
    ∃ last, l.checkpoint = some (.ok last) := by
  obtain ⟨slots, cell, hat, -, -, hpoisoned⟩ := l.trail
  refine ⟨cell.last, ?_⟩
  unfold checkpoint
  rw [l.checkpoint?_of_shares hat l.shares_handle, Cell.checkpoint_of_sound]
  rw [hpoisoned, Call.any_faulted_eq_false]
  exact hsound

/-- **Up to the last slot all numbers of its tick have been issued**, those after the seed if it is
the seed's tick. -/
theorem mem_slots_of_le {last : Slot} (h : l.checkpoint = some (.ok last)) {n : UInt16}
    (hn : n ≤ last.sequence) (hseed : last.tick = l.settings.seed.tick →
      l.settings.seed.sequence < n) : ⟨last.tick, n⟩ ∈ l.ids.map Id.slot := by
  obtain ⟨slots, -, htrail, hids⟩ := l.trail_of_checkpoint h
  have hfits := htrail.fits l.fits
  rw [l.map_slot_ids (fun slot hmem => hfits slot (List.mem_cons_of_mem _ hmem)) hids]
  exact htrail.mem_up_to_last hn hseed

/-- **Errors are truthful and complete.** At any point of a life in which the clock never failed, a
call through the generator or a clone, on any readings, has an answer. An error is true of the last
reading that the call took and of the last slot before it (`Generator.Refuses`). If it is that the
tick is used up, then every number of the tick has been issued in the life, or every one after the
seed's if it is the seed's tick. If there is a slot for the first reading (`Generator.Opens`), the
call issues an identifier. -/
theorem errors_truthful (hsound : ∀ call ∈ l.calls, call.faulted = false) {g : Nat}
    (hg : l.Shares g) (readings : List UInt64) :
    ∃ last call s, l.finish.checkpoint? g = some (.ok last) ∧
      (l.finish.withClock (Tape.mk readings)).next g = some (call, s) ∧
      (∀ error, call.outcome = .refused error →
        ∃ waits millis, readings = waits ++ millis :: s.clock.readings ∧
          call.readings = waits.length + 1 ∧
          l.settings.generator.Refuses last millis error ∧
          ∀ tick sequence, error = .sequenceOverflow tick sequence →
            ∀ n ≤ Layout.maxSequence, (tick = l.settings.seed.tick →
              l.settings.seed.sequence < n) → ⟨tick, n⟩ ∈ l.ids.map Id.slot) ∧
      (∀ millis rest, readings = millis :: rest → l.settings.generator.Opens last millis →
        ∃ id, call.outcome = .issued id) := by
  obtain ⟨last, hlast⟩ := l.exists_checkpoint hsound
  obtain ⟨slots, hat, htrail, -⟩ := l.trail_of_checkpoint hlast
  have hfits : last.Fits := htrail.fits l.fits _ htrail.last_mem
  rcases hcall : l.settings.generator.next last (Tape.mk readings) with ⟨call, slot, tape⟩
  have hcheck : l.finish.checkpoint? g = some (.ok last) := l.checkpoint?_of_shares hat hg
  have hfind : (l.finish.withClock (Tape.mk readings)).find? g =
      some (⟨l.settings.generator, l.cell⟩, .new last) := l.find?_of_shares hat hg
  refine ⟨last, call, _, hcheck, Session.next_of_find? hfind (Cell.next_new hcall), ?_, ?_⟩
  · intro error herror
    obtain ⟨waits, millis, hreadings, hcount, hrefuses⟩ :=
      Generator.refuses_of_next_tape hfits hcall herror
    refine ⟨waits, millis, hreadings, hcount, hrefuses, ?_⟩
    rintro tick sequence rfl n hn hseed
    cases hrefuses with
    | usedUp _ _ hmax =>
      rw [← hmax] at hn
      exact l.mem_slots_of_le hlast hn hseed
  · rintro millis rest rfl hopens
    exact Generator.issued_of_next_tape hfits hcall hopens

/-- A generator that does not wait, after the last two numbers of its seed's tick. -/
def spent : Life Script := onReadings ⟨3, 0, ⟨7, 2045⟩, false, .millisecond⟩ ⟨_, rfl⟩ [7, 7]

theorem errors_truthful_spent :
    ∃ call s, (spent.finish.withClock (Tape.mk [7, 8])).next 0 = some (call, s) ∧
      call.outcome = .refused (.sequenceOverflow 7 2047) ∧
      (⟨7, 2046⟩ : Slot) ∈ spent.ids.map Id.slot ∧ (⟨7, 2047⟩ : Slot) ∈ spent.ids.map Id.slot := by
  obtain ⟨last, call, s, -, hnext, herrors, -⟩ :=
    spent.errors_truthful (by decide) spent.shares_handle [7, 8]
  have hmade : (spent.finish.withClock (Tape.mk [7, 8])).next 0 = some
      (.single (.refused (.sequenceOverflow 7 2047)) [],
        spent.finish.withClock (Tape.mk [8])) := rfl
  have hcall : call = .single (.refused (.sequenceOverflow 7 2047)) [] :=
    congrArg Prod.fst (Option.some.inj (hnext.symm.trans hmade))
  have hout : call.outcome = .refused (.sequenceOverflow 7 2047) := by rw [hcall]; rfl
  obtain ⟨-, -, -, -, -, hissued⟩ := herrors _ hout
  exact ⟨call, s, hnext, hout, hissued 7 2047 rfl 2046 (by decide) (fun _ => by decide),
    hissued 7 2047 rfl 2047 (by decide) (fun _ => by decide)⟩

end Life

end Snowflake
