import Snowflake.Proofs.Session.Run

/-!
# What calls report

A call may report from two places: when its first wait begins, and when a reading refuses it. What
is seen of it is a list of reports (`Call.reports`), each with its level, its message and its named
values; entering the call is a span and none of them. That list can be told from how the call ended
and whether it slept, however many readings lie in between: the first wait is reported and no later
one, since the call remembers that it has waited, and the warning comes with the error.

The reports to be seen are written out here word by word, the name of a resolution and the text of
an error among them, and not by way of what the events are worded with.

Results:
* `Generator.reports_of_attempt`: a reading that refuses a call reports what belongs to the error.
* **`Generator.await_reports`**: the reports of a call, at any of its readings.
* `Cell.next_reports`: the same for a whole call, under the lock.
* `Session.build_reports`: the reports of building.
-/

namespace Snowflake

/-- An event as it is seen. -/
structure Report where
  level : Level
  message : String
  /-- The named values, as text. -/
  fields : List (String × String)
  deriving DecidableEq, Repr

namespace Report

/-- A call begins to wait: the tick is used up. -/
def waiting (tick : UInt64) : Report :=
  ⟨.trace, "sequence exhausted, waiting", [("tick", toString tick)]⟩

/-- What an error is reported with. Most are only returned. -/
def ofError : Error → List Report
  | .clockRegression now last =>
    [⟨.warn, "clock moved backwards", [("now", toString now), ("last", toString last)]⟩]
  | .timestampOverflow tick =>
    [⟨.warn, "timestamp field exhausted", [("error", "timestamp overflow: " ++ toString tick)]⟩]
  | .fieldOutOfRange .. | .invalidEncoding _ | .sequenceOverflow .. | .lockPoisoned => []

/-- What the end of a call is reported with. -/
def ofOutcome : Outcome → List Report
  | .refused error => ofError error
  | _ => []

/-- A generator was built from settings. -/
def built (settings : Settings) : Report :=
  ⟨.debug, "built generator",
    [("generator_id", toString settings.generatorId),
      ("timestamp_offset", toString settings.offset),
      ("resolution",
        match settings.resolution with
        | .millisecond => "Millisecond"
        | .second => "Second"),
      ("wait_sequence", if settings.waits then "true" else "false"),
      ("timestamp_last", toString settings.seed.tick),
      ("sequence", toString settings.seed.sequence)]⟩

end Report

/-- What is seen of an event: nothing of a span. -/
def Event.report? (event : Event) : Option Report :=
  event.message?.map fun message => ⟨event.level, message, event.fields⟩

/-- A generator that was built is reported with all it was built from. -/
theorem Event.report?_built (settings : Settings) :
    (Event.built settings.generator settings.seed).report? = some (.built settings) := by
  obtain ⟨id, offset, seed, waits, resolution⟩ := settings
  cases resolution <;> rfl

/-- What is seen of everything a call logs. -/
def Call.reports (call : Call) : List Report := call.log.filterMap Event.report?

/-- Entering a call is no report. -/
theorem Call.reports_eq (call : Call) : call.reports = call.events.filterMap Event.report? := rfl

variable {σ : Type} [Clock σ]

namespace Generator

variable {g : Generator} {last slot : Slot} {millis : UInt64} {waited : Bool} {patience : Nat}
  {clock clock' : σ} {call : Call}

/-- A reading that refuses a call reports what belongs to the error. -/
theorem reports_of_attempt {error : Error} {events : List Event}
    (h : g.attempt last millis = .refuse error events) :
    events.filterMap Event.report? = Report.ofError error := by
  cases leadsTo_of_attempt h <;> rfl

/-- **The reports of a call from one of its readings on.** A wait is reported if it is the first. -/
theorem await_reports (h : g.await last waited patience clock = (call, slot, clock')) :
    call.reports = (if waited ∨ call.sleeps = [] then [] else [.waiting last.tick]) ++
      Report.ofOutcome call.outcome := by
  rw [await_eq_iff] at h
  induction h with
  | unfinished => simp [Call.immediate, Call.reports_eq, Report.ofOutcome]
  | fault => simp [Call.single, Call.reports_eq, Report.ofOutcome]
  | issue => simp [Call.single, Call.reports_eq, Report.ofOutcome]
  | refuse _ attempt =>
    simp [Call.single, Call.reports_eq, Report.ofOutcome, reports_of_attempt attempt]
  | @wait waited _ _ _ _ _ _ rest _ _ _ _ ih =>
    -- after this wait no other one is reported
    have hrest : rest.events.filterMap Event.report? = Report.ofOutcome rest.outcome := by
      simpa [Call.reports_eq] using ih
    rw [Call.reports_eq]
    simp only [Call.resume, List.filterMap_append, hrest]
    cases waited <;> rfl

/-- The reports of a whole call. -/
theorem next_reports (h : g.next last clock = (call, slot, clock')) :
    call.reports = (if call.sleeps = [] then [] else [.waiting last.tick]) ++
      Report.ofOutcome call.outcome := by
  have hreports := await_reports h
  simpa using hreports

end Generator

/-- **The reports of a call under the lock**: one of its first wait, if it slept, and then what
belongs to its error, if it ended with one. -/
theorem Cell.next_reports {g : Generator} {cell cell' : Cell} {clock clock' : σ} {call : Call}
    (h : cell.next g clock = (call, cell', clock')) :
    call.reports = (if call.sleeps = [] then [] else [.waiting cell.last.tick]) ++
      Report.ofOutcome call.outcome := by
  cases hp : cell.poisoned with
  | true =>
    rw [next_of_poisoned hp] at h
    cases h
    rfl
  | false =>
    rw [next_of_sound hp] at h
    cases h
    exact Generator.next_reports rfl

/-- **Building reports that it built, if it did.** -/
theorem Session.build_reports {τ : Type} (s : Session τ) (settings : Settings) :
    (s.build settings).2.filterMap Event.report? =
      match (s.build settings).1 with
      | .ok _ => [.built settings]
      | .error _ => [] := by
  cases hc : settings.seed.check with
  | ok =>
    rw [Session.build_eq_ok (Slot.check_eq_ok_iff.mp hc)]
    exact List.filterMap_cons_some (Event.report?_built settings)
  | error error =>
    unfold build Settings.construct
    rw [hc]
    rfl

end Snowflake
