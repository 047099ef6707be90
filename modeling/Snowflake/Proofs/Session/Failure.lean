import Snowflake.Proofs.Clock.Tape
import Snowflake.Proofs.Session.Run

/-!
# Calls that fail

A run of a session in turns: each turn puts the clock into a state of its own, such as a tape with the
readings that a call is to take, and then makes a step. A call that is refused, at its first reading
or after any number of waits, leaves all generators as they were. So it may as well not have been
made: without it, and without its readings, every other turn comes to the same.

Results:
* `Cell.next_refused`: a call that is refused leaves its cell as it was.
* `Session.turn_refused`: it leaves the session as it was, but for the clock.
* **`Session.refused_leave_no_trace`**: any refused calls may be left out of a run.
-/

namespace Snowflake

namespace Call

/-- The call came back with an error. -/
def refused (call : Call) : Bool :=
  match call.outcome with
  | .refused _ => true
  | _ => false

theorem outcome_of_refused {call : Call} (h : call.refused = true) :
    ∃ error, call.outcome = .refused error := by
  unfold refused at h
  split at h
  · exact ⟨_, by assumption⟩
  · exact absurd h (by simp)

end Call

/-- A call in the log came back with an error. -/
def Log.refused (log : Log) : Bool := log.any fun e => e.2.refused

variable {σ : Type} [Clock σ]

/-- **A call that is refused leaves its cell as it was.** -/
theorem Cell.next_refused {cell cell' : Cell} {g : Generator} {clock clock' : σ} {call : Call}
    (h : cell.next g clock = (call, cell', clock')) (hrefused : call.refused = true) :
    cell' = cell := by
  obtain ⟨error, herror⟩ := Call.outcome_of_refused hrefused
  have hlast : cell'.last = cell.last := by
    rcases next_cases h with ⟨hissued, -⟩ | ⟨-, hlast⟩
    · rw [herror] at hissued
      exact absurd hissued (by simp)
    · exact hlast
  have hpoisoned : cell'.poisoned = cell.poisoned := by
    rw [next_poisoned h]
    unfold Call.faulted
    rw [herror, Bool.or_false]
  cases cell
  cases cell'
  exact (Cell.mk.injEq _ _ _ _).mpr ⟨hlast, hpoisoned⟩

/-- What is not marked, in its order. -/
def unmarked {α : Type} (marks : List (Bool × α)) : List α :=
  (marks.filter fun mark => !mark.1).map Prod.snd

theorem unmarked_cons_true {α : Type} (a : α) (marks : List (Bool × α)) :
    unmarked ((true, a) :: marks) = unmarked marks := rfl

theorem unmarked_cons_false {α : Type} (a : α) (marks : List (Bool × α)) :
    unmarked ((false, a) :: marks) = a :: unmarked marks := rfl

namespace Session

/-! ## Turns -/

/-- A step, and the state in which it finds the clock. -/
structure Turn (σ : Type) where
  clock : σ
  step : Step σ

/-- The session after a turn, and the call made in it. -/
def turn (s : Session σ) (t : Turn σ) : Session σ × Log := { s with clock := t.clock }.step t.step

/-- The session after each turn, and the call made in it. -/
def turns (s : Session σ) : List (Turn σ) → List (Session σ × Log)
  | [] => []
  | first :: rest => s.turn first :: (s.turn first).1.turns rest

variable {s s' : Session σ} {log : Log}

/-- Turns do not depend on the clock before them. -/
theorem turns_withClock (clock : σ) (list : List (Turn σ)) :
    { s with clock }.turns list = s.turns list := by
  cases list <;> rfl

/-- A step that is a refused call moves the clock and nothing else. -/
theorem Moves.refused (h : s.Moves s' log) (hrefused : log.refused = true) :
    s' = { s with clock := s'.clock } := by
  cases h with
  | @calls handle cell cell' call clock mem found made =>
    have hcall : call.refused = true := by simpa [Log.refused] using hrefused
    obtain ⟨hlt, hcell⟩ := List.getElem?_eq_some_iff.mp found
    rw [Cell.next_refused made hcall, ← hcell, List.set_getElem_self]
  | _ => exact absurd hrefused (by simp [Log.refused])

/-- **A refused call leaves the session as it was, but for the clock.** -/
theorem turn_refused {t : Turn σ} (h : (s.turn t).2.refused = true) :
    ∃ clock, (s.turn t).1 = { s with clock } :=
  ⟨_, ({ s with clock := t.clock }.step_moves t.step).refused h⟩

/-! ## Runs without refused calls -/

/-- **Refused calls leave no trace.** Take any run of a session in turns, with any number of
generators, clones and resumed ones, and mark any of the refused calls in it. The run without the
marked calls, and without what they read, makes the other calls with the same outcomes and leaves
the same session after each of them, and so every checkpoint. In particular a refused call leaves
every checkpoint as it was. -/
theorem refused_leave_no_trace (s : Session σ) (marks : List (Bool × Turn σ))
    (hmarks : ∀ e ∈ (marks.map Prod.fst).zip (s.turns (marks.map Prod.snd)),
      e.1 = true → e.2.2.refused = true) :
    s.turns (unmarked marks) =
        unmarked ((marks.map Prod.fst).zip (s.turns (marks.map Prod.snd))) ∧
      ∀ (s : Session σ) (t : Turn σ), (s.turn t).2.refused = true →
        ∀ g, (s.turn t).1.checkpoint? g = s.checkpoint? g := by
  constructor
  · induction marks generalizing s with
    | nil => rfl
    | cons mark marks ih =>
      obtain ⟨marked, t⟩ := mark
      simp only [List.map_cons, turns, List.zip_cons_cons, List.mem_cons, forall_eq_or_imp]
        at hmarks ⊢
      have hrest := ih (s.turn t).1 hmarks.2
      cases marked with
      | true =>
        -- what comes after the call finds the session as it was before it
        obtain ⟨clock, hsame⟩ := turn_refused (hmarks.1 rfl)
        have hkept : (s.turn t).1.turns (unmarked marks) = s.turns (unmarked marks) := by
          rw [hsame]
          exact turns_withClock clock _
        rw [unmarked_cons_true, unmarked_cons_true, ← hrest, hkept]
      | false => rw [unmarked_cons_false, unmarked_cons_false, turns, hrest]
  · intro s t h g
    obtain ⟨clock, hsame⟩ := turn_refused h
    rw [hsame]
    rfl

/-- Turns of a generator that waits and has one number left in tick 5, on readings from tapes. The
calls that are marked fail: one after two waits, since the clock was set back, and one because the
tick lies past the timestamp field. -/
def failures : List (Bool × Turn Tape) :=
  [(false, ⟨⟨[]⟩, .build ⟨1, 0, ⟨5, 2046⟩, true, .millisecond⟩⟩), (false, ⟨⟨[5]⟩, .call 0⟩),
    (true, ⟨⟨[5, 5, 4]⟩, .call 0⟩), (false, ⟨⟨[]⟩, .clone 0⟩), (false, ⟨⟨[5, 6]⟩, .call 1⟩),
    (true, ⟨⟨[4398046511104]⟩, .call 0⟩), (false, ⟨⟨[6]⟩, .call 0⟩)]

theorem refused_leave_no_trace_failures :
    ((start (Tape.mk [])).turns (unmarked failures)).map (fun after => after.2.map Prod.snd) =
        (unmarked ((failures.map Prod.fst).zip
          ((start (Tape.mk [])).turns (failures.map Prod.snd)))).map
            (fun after => after.2.map Prod.snd) ∧
      ((start (Tape.mk [])).turns (unmarked failures)).flatMap
          (fun after => (Call.ids (after.2.map Prod.snd)).map Id.slot) =
        [⟨5, 2047⟩, ⟨6, 0⟩, ⟨6, 1⟩] := by
  have hmarks : ∀ e ∈ (failures.map Prod.fst).zip
      ((start (Tape.mk [])).turns (failures.map Prod.snd)),
      e.1 = true → e.2.2.refused = true := by
    decide
  exact ⟨congrArg _ (refused_leave_no_trace _ failures hmarks).1, by decide⟩

end Session

end Snowflake
