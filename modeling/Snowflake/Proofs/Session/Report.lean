import Snowflake.Proofs.Generator.Report
import Snowflake.Proofs.Session.Timestamp

/-!
# What a session reports

At any point of its life a generator or a clone may be called, on a clock of any kind and in any
state, and the lock may be poisoned by then. What such a call reports can be told from how it ended
and whether it slept. What building reports can be told from the settings.

Results:
* **`Life.reports_told`**: the reports of calls and of building, one by one.
-/

namespace Snowflake

namespace Life

variable {σ ρ τ : Type} [Clock σ] [Clock ρ] (l : Life σ)

/-- **What is reported tells what was done.** At any point of a life, a call through the generator
or a clone reports that its tick, the one of the last slot, is used up, once if it slept at all and
not if it did not; after that it reports what belongs to the error it ended with
(`Report.ofError`), that the clock moved backwards or that the timestamp field is exhausted; and it
reports nothing else. Building, in any session, reports the settings if it succeeds and nothing if
it fails. -/
theorem reports_told {g : Nat} (hg : l.Shares g) (clock : ρ) :
    (∃ cell call s, l.finish.find? g = some (⟨l.settings.generator, l.cell⟩, cell) ∧
      (l.finish.withClock clock).next g = some (call, s) ∧
      call.reports = (if call.sleeps = [] then [] else [.waiting cell.last.tick]) ++
        Report.ofOutcome call.outcome) ∧
    ∀ (s : Session τ) (settings : Settings),
      (s.build settings).2.filterMap Event.report? =
        match (s.build settings).1 with
        | .ok _ => [.built settings]
        | .error _ => [] := by
  refine ⟨?_, fun s settings => s.build_reports settings⟩
  obtain ⟨slots, cell, hat, -⟩ := l.trail
  rcases hcall : cell.next l.settings.generator clock with ⟨call, cell', clock'⟩
  have hfind := l.find?_of_shares hat hg
  have hfind' : (l.finish.withClock clock).find? g =
      some (⟨l.settings.generator, l.cell⟩, cell) := hfind
  exact ⟨cell, call, _, hfind, Session.next_of_find? hfind' hcall, Cell.next_reports hcall⟩

/-- Two readings in the seventh second make a call wait, and the third is of the sixth. Another call
waits, and then its tick lies past the timestamp field. The generator is built from its settings, and
is not built after a tick past that field. -/
theorem reports_told_seventh :
    (∃ call s,
      (seventh.finish.withClock (Tape.mk [17000, 17999, 16999])).next 0 = some (call, s) ∧
      call.sleeps = [1000, 1] ∧ call.outcome = .refused (.clockRegression 6 7) ∧
      call.reports =
        [⟨.trace, "sequence exhausted, waiting", [("tick", "7")]⟩,
          ⟨.warn, "clock moved backwards", [("now", "6"), ("last", "7")]⟩]) ∧
    (∃ call s,
      (seventh.finish.withClock (Tape.mk [17500, 4398046511114000])).next 0 = some (call, s) ∧
      call.sleeps = [500] ∧ call.outcome = .refused (.timestampOverflow 4398046511104) ∧
      call.reports =
        [⟨.trace, "sequence exhausted, waiting", [("tick", "7")]⟩,
          ⟨.warn, "timestamp field exhausted", [("error", "timestamp overflow: 4398046511104")]⟩]) ∧
    ((Session.start (Tape.mk [])).build
        ⟨3, -10, ⟨7, 2047⟩, true, .second⟩).2.filterMap Event.report? =
      [⟨.debug, "built generator",
        [("generator_id", "3"), ("timestamp_offset", "-10"), ("resolution", "Second"),
          ("wait_sequence", "true"), ("timestamp_last", "7"), ("sequence", "2047")]⟩] ∧
    ((Session.start (Tape.mk [])).build
      ⟨3, -10, ⟨4398046511104, 0⟩, true, .second⟩).2.filterMap Event.report? = [] := by
  obtain ⟨⟨cell, call, s, hfind, hnext, hreports⟩, hbuild⟩ :=
    seventh.reports_told (τ := Tape) seventh.shares_handle (Tape.mk [17000, 17999, 16999])
  obtain ⟨⟨cell', call', s', hfind', hnext', hreports'⟩, -⟩ :=
    seventh.reports_told (τ := Tape) seventh.shares_handle (Tape.mk [17500, 4398046511114000])
  have hmade : (seventh.finish.withClock (Tape.mk [17000, 17999, 16999])).next 0 = some
      (Call.resume [.waiting 7] 1000
        (Call.resume [] 1 (.single (.refused (.clockRegression 6 7)) [.movedBackwards 6 7])),
        seventh.finish.withClock (Tape.mk [])) := rfl
  have hmade' : (seventh.finish.withClock (Tape.mk [17500, 4398046511114000])).next 0 = some
      (Call.resume [.waiting 7] 500 (.single (.refused (.timestampOverflow 4398046511104))
        [.exhausted (.timestampOverflow 4398046511104)]),
        seventh.finish.withClock (Tape.mk [])) := rfl
  obtain ⟨rfl, rfl⟩ := Prod.mk.inj (Option.some.inj (hnext.symm.trans hmade))
  obtain ⟨rfl, rfl⟩ := Prod.mk.inj (Option.some.inj (hnext'.symm.trans hmade'))
  obtain ⟨-, rfl⟩ := Prod.mk.inj (Option.some.inj hfind)
  obtain ⟨-, rfl⟩ := Prod.mk.inj (Option.some.inj hfind')
  exact ⟨⟨_, _, hnext, rfl, rfl, hreports.trans (by decide)⟩,
    ⟨_, _, hnext', rfl, rfl, hreports'.trans (by decide)⟩,
    (hbuild _ _).trans (by decide), (hbuild _ _).trans rfl⟩

end Life

end Snowflake
