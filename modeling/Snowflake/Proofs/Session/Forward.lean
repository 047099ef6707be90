import Snowflake.Proofs.Clock.Timeline
import Snowflake.Proofs.Session.Restart

/-!
# Generators on a monotonic clock

A session is in time on a monotonic clock if nothing but what happens around the clock, and the
sleeps of its calls, moves it (`Session.InTime`). In such a session a generator whose seed is not
ahead of the anchor is never behind: its last tick is at most the tick of the clock, at every moment
and through whichever clone it is called.

Results:
* `Session.InTime.later`: the clock moves on, step by step.
* `Session.Moves.behindClock`: what one step keeps.
* **`Life.never_regresses`**: no call is refused for being behind, and no identifier is from before
  the anchor.
-/

namespace Snowflake

namespace Session

variable {s s' : Session Timeline} {log : Log} {steps : List (Step Timeline)} {c : Nat}
  {g : Generator} {cell : Cell} {start : Int}

/-! ## Runs in time -/

/-- Nothing moves the clock but what happens around it and the calls of the run. -/
inductive InTime : Session Timeline → List (Step Timeline) → Prop where
  | nil (s : Session Timeline) : InTime s []
  /-- Generators are built, cloned, resumed and called. -/
  | act {s : Session Timeline} {st : Step Timeline} {rest : List (Step Timeline)}
      (h : ∀ t, st ≠ .clock t) (more : InTime (s.step st).1 rest) : InTime s (st :: rest)
  /-- Something happens around the clock. What is to happen during later calls is open still. -/
  | time {s : Session Timeline} {rest : List (Step Timeline)} (list : List Happening)
      (ahead : List (List Happening))
      (more : InTime { s with clock := { s.clock.after list with ahead } } rest) :
      InTime s (.clock { s.clock.after list with ahead } :: rest)

theorem clock_extend (s : Session Timeline) (settings : Settings) :
    (s.extend (s.build settings).1).clock = s.clock := by
  rcases s.build_cases settings with ⟨-, hok⟩ | ⟨error, herror⟩
  · rw [hok]
    rfl
  · rw [herror]
    rfl

/-- A step that does not name the clock moves it by a call at most. -/
theorem step_later {st : Step Timeline} (h : ∀ t, st ≠ .clock t) :
    s.clock.clock.Later (s.step st).1.clock.clock := by
  cases st with
  | build settings =>
    simp only [step, clock_extend]
    exact .refl _
  | clone g =>
    simp only [step, clone]
    cases s.handles[g]? <;> exact .refl _
  | resume g settings =>
    simp only [step, resume]
    cases s.checkpoint? g with
    | none => exact .refl _
    | some checkpoint =>
      cases checkpoint with
      | error error => exact .refl _
      | ok slot =>
        simp only [Option.map_some, clock_extend]
        exact .refl _
  | call g =>
    simp only [step, next]
    cases hf : s.find? g with
    | none =>
      cases s.handles[g]? <;> exact .refl _
    | some found =>
      obtain ⟨handle, cell⟩ := found
      rw [(find?_eq_some.mp hf).1]
      exact Cell.next_later rfl
  | clock t => exact absurd rfl (h t)

/-- **The clock moves on through a run in time.** -/
theorem InTime.later (h : s.InTime steps) : s.clock.clock.Later (s.run steps).1.clock.clock := by
  induction h with
  | nil s => exact .refl _
  | act h _ ih => exact (step_later h).trans ih
  | @time s _ list ahead _ ih => exact (s.clock.later_after list).trans ih

/-! ## One cell in a run -/

/-- Cell `c` holds a slot of the generator that fits and is not ahead of the clock, and the clock is
past `start`. -/
structure BehindClock (s : Session Timeline) (c : Nat) (g : Generator) (start : Int) (cell : Cell) :
    Prop where
  at_ : s.At c g cell
  sound : s.clock.clock.Sound
  fits : cell.last.Fits
  start_le : start ≤ (g.tick s.clock.clock.millis).toInt
  le : (cell.last.tick.toNat : Int) ≤ (g.tick s.clock.clock.millis).toInt

/-- A cell that stays as it is falls behind. -/
theorem BehindClock.wait (h : s.BehindClock c g start cell) (hat : s'.At c g cell)
    (hlater : s.clock.clock.Later s'.clock.clock) (hrange : s'.clock.clock.InRange) :
    s'.BehindClock c g start cell := by
  have hmono : (g.tick s.clock.clock.millis).toInt ≤ (g.tick s'.clock.clock.millis).toInt :=
    Generator.toInt_tick_le hlater h.sound hrange
  exact ⟨hat, hlater.sound h.sound, h.fits, Int.le_trans h.start_le hmono,
    Int.le_trans h.le hmono⟩

/-- **What one step keeps**, as long as the clock does not go back. -/
theorem Moves.behindClock (h : s.Moves s' log) (hlater : s.clock.clock.Later s'.clock.clock)
    (hrange : s'.clock.clock.InRange) (hcell : s.BehindClock c g start cell) :
    ∃ cell', s'.BehindClock c g start cell' ∧ ∀ call ∈ log.on c, call.OnTime start := by
  obtain ⟨cell', hat', hvisits⟩ := h.visits hcell.at_
  by_cases hlog : log.on c = []
  · rw [hlog] at hvisits ⊢
    cases hvisits
    exact ⟨cell, hcell.wait hat' hlater hrange, by simp⟩
  cases h with
  | @calls handle old new call clock mem found made =>
    by_cases hc : handle.cell = c
    · obtain rfl := hc
      obtain rfl := hcell.at_.generator handle mem rfl
      obtain rfl := Option.some.inj (found.symm.trans hcell.at_.cell)
      obtain rfl : new = cell' :=
        Option.some.inj ((List.getElem?_set_self hcell.at_.lt).symm.trans hat'.cell)
      obtain ⟨honTime, hle⟩ :=
        Cell.next_onTime hcell.fits hcell.sound hcell.start_le hcell.le made hrange
      have hmono : (handle.generator.tick s.clock.clock.millis).toInt ≤
          (handle.generator.tick clock.clock.millis).toInt :=
        Generator.toInt_tick_le hlater hcell.sound hrange
      refine ⟨new, ⟨hat', hlater.sound hcell.sound, Cell.next_fits made hcell.fits,
        Int.le_trans hcell.start_le hmono, hle⟩, ?_⟩
      simpa [Log.on] using honTime
    · exact absurd (Log.on_eq_nil (by simpa using hc)) hlog
  | _ => exact absurd rfl hlog

/-- **What a run in time keeps.** -/
theorem InTime.behindClock (h : s.InTime steps) (hrange : (s.run steps).1.clock.clock.InRange)
    (hcell : s.BehindClock c g start cell) :
    ∃ cell', (s.run steps).1.BehindClock c g start cell' ∧
      ∀ call ∈ (s.run steps).2.on c, call.OnTime start := by
  induction h generalizing cell with
  | nil s => exact ⟨cell, hcell, by simp [run, Log.on]⟩
  | @act s st rest hst more ih =>
    obtain ⟨mid, hmid, hfirst⟩ := (s.step_moves st).behindClock (step_later hst)
      (more.later.inRange hrange) hcell
    obtain ⟨cell', hcell', hrest⟩ := ih hrange hmid
    refine ⟨cell', hcell', fun call hmem => ?_⟩
    simp only [run, Log.on_append, List.mem_append] at hmem
    exact hmem.elim (hfirst call) (hrest call)
  | @time s rest list ahead more ih =>
    have hat : ({ s with clock := { s.clock.after list with ahead } } : Session _).At c g cell :=
      ⟨hcell.at_.cell, hcell.at_.generator⟩
    have hmid := hcell.wait hat (s.clock.later_after list) (more.later.inRange hrange)
    exact ih hrange hmid

end Session

/-! ## The life of a generator -/

namespace Life

variable (l : Life Timeline) {anchor : UInt64}

/-- The session of a life is in time, on a monotonic clock that starts at the anchor. -/
structure InTime (anchor : UInt64) : Prop where
  start : l.clock.clock = .start anchor
  earlier : (Session.start l.clock).InTime l.earlier
  later : (l.before.step (.build l.settings)).1.InTime l.later

theorem InTime.later_before (h : l.InTime anchor) :
    (MonotonicClock.start anchor).Later l.before.clock.clock := by
  rw [← h.start]
  exact h.earlier.later

/-- The generator is built behind the clock. -/
theorem InTime.behindClock_built (h : l.InTime anchor)
    (hseed : (l.settings.seed.tick.toNat : Int) ≤ (l.settings.generator.tick anchor).toInt)
    (hrange : l.before.clock.clock.InRange) :
    (l.before.step (.build l.settings)).1.BehindClock l.cell l.settings.generator
      (l.settings.generator.tick anchor).toInt (.new l.settings.seed) := by
  have hlater := h.later_before
  have hsound := hlater.sound (MonotonicClock.start_sound anchor)
  have hle : (l.settings.generator.tick anchor).toInt ≤
      (l.settings.generator.tick l.before.clock.clock.millis).toInt := by
    have hmono := Generator.toInt_tick_le (g := l.settings.generator) hlater
      (MonotonicClock.start_sound anchor) hrange
    rwa [show (MonotonicClock.start anchor).millis = anchor from UInt64.add_zero _] at hmono
  have hclosed : l.before.Closed :=
    Session.run_closed l.earlier (Session.start_closed l.clock)
  rw [l.built]
  exact ⟨Session.add_at hclosed l.settings, hsound, l.fits, hle, Int.le_trans hseed hle⟩

/-- **A generator on a monotonic clock never regresses.** The clock starts at the anchor; time
passes, also while calls are made and by their sleeps, the ticker publishes early or late, and the
wall clock is set at will. If the seed is not ahead of the anchor and the time of the clock still
fits the word at the end, then no call through the generator or a clone has been refused for being
behind, and no identifier tells a tick before that of the anchor. Since `l` may end after any of its
calls, so it is as long as the time fits. -/
theorem never_regresses (h : l.InTime anchor)
    (hseed : (l.settings.seed.tick.toNat : Int) ≤ (l.settings.generator.tick anchor).toInt)
    (hrange : anchor.toNat + l.finish.clock.clock.elapsed / nanosPerMilli < 2 ^ 64) :
    (∀ call ∈ l.calls, ∀ now last, call.outcome ≠ .refused (.clockRegression now last)) ∧
    ∀ id ∈ l.ids, (l.settings.generator.tick anchor).toInt ≤ id.timestamp.toNat := by
  have hclock : (l.before.step (.build l.settings)).1.clock = l.before.clock := by
    rw [l.built]
    rfl
  have hbuilt : l.before.clock.clock.Later l.finish.clock.clock := by
    rw [← hclock]
    exact h.later.later
  have hinRange : l.finish.clock.clock.InRange := by
    unfold MonotonicClock.InRange
    rw [(h.later_before.trans hbuilt).anchor]
    exact hrange
  obtain ⟨cell, -, honTime⟩ :=
    h.later.behindClock hinRange (h.behindClock_built l hseed (hbuilt.inRange hinRange))
  refine ⟨fun call hmem => (honTime call hmem).forward, fun id hmem => ?_⟩
  obtain ⟨call, hcall, hid⟩ := Call.exists_issued hmem
  exact (honTime call hcall).notBefore id hid

/-- A generator that counts seconds, from the next to last number of the anchor's second. After its
first call the wall clock is set back by an hour. The clone's call waits for the sixth second, finds
that the ticker has not published since, waits again, and is not alone in setting the wall clock. -/
def belated : Life Timeline where
  clock := ⟨.start 5000, ⟨0⟩, []⟩
  earlier := []
  settings := ⟨3, 0, ⟨5, 2046⟩, true, .second⟩
  accepted := ⟨_, rfl⟩
  later :=
    [.call 0, .clone 0,
      .clock ⟨⟨5000, 0, 0⟩, ⟨-3600000000000⟩, [[], [.wallSet (-7)], [.ticks 1200000000]]⟩, .call 1]

theorem belated_inTime : belated.InTime 5000 where
  start := rfl
  earlier := .nil _
  later := .act nofun <| .act nofun <|
    .time [.wallSet (-3600000000000)] [[], [.wallSet (-7)], [.ticks 1200000000]] <|
      .act nofun <| .nil _

theorem never_regresses_belated :
    belated.calls.map Call.sleeps = [[], [1000, 1000]] ∧
      belated.ids.map Id.slot = [⟨5, 2047⟩, ⟨6, 0⟩] ∧
      (∀ call ∈ belated.calls, ∀ now last,
        call.outcome ≠ .refused (.clockRegression now last)) ∧
      ∀ id ∈ belated.ids, 5 ≤ (id.timestamp.toNat : Int) := by
  obtain ⟨hforward, hnotBefore⟩ :=
    belated.never_regresses belated_inTime (by decide) (by decide)
  exact ⟨by decide, by decide, hforward, hnotBefore⟩

end Life

end Snowflake
