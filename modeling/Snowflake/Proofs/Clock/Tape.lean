import Snowflake.Proofs.Generator.Call

/-!
# Calls on readings from a tape

A `Tape` is a clock with finitely many readings to come, in any number and of any size. It keeps
no count and is not moved by sleeping, and a call may take all that is on it. So it tells what a
call does with given readings.

Results:
* `Generator.await_of_ending`: on any clock, a reading that ends a call is the last one.
* `Generator.next_tape`: a call takes the readings that make it wait and the one that ends it, and
  leaves the rest on the tape.
* **`Cell.next_tape`**: the same under the lock.
* **`Generator.next_tape_inv`**: a call that comes back has taken such readings, and has slept once
  for each that made it wait.
-/

namespace Snowflake

/-- Readings to come. After the last of them the clock fails. -/
structure Tape where
  readings : List UInt64
  deriving DecidableEq, Repr

namespace Tape

/-- Take the first reading. -/
def read : Tape → Except Clock.Fault UInt64 × Tape
  | ⟨[]⟩ => (.error .failed, ⟨[]⟩)
  | ⟨millis :: rest⟩ => (.ok millis, ⟨rest⟩)

instance : Clock Tape where
  startCall := id
  read := read
  sleep _ tape := tape
  patience tape := tape.readings.length + 1

/-- A reading that was taken was the first on the tape. -/
theorem readings_of_read {readings : List UInt64} {millis : UInt64} {after : Tape}
    (h : Clock.read (Tape.mk readings) = (.ok millis, after)) :
    readings = millis :: after.readings := by
  cases readings with
  | nil => exact absurd (congrArg Prod.fst h) (by simp [Clock.read, read])
  | cons first rest =>
    cases h
    rfl

end Tape

namespace Attempt

/-- How a call ends with an attempt, and the last slot after it; not at all with a wait. -/
def ending (g : Generator) (last : Slot) : Attempt → Option (Outcome × Slot)
  | .issue slot => some (.issued (slot.toId g.generatorId), slot)
  | .wait _ => none
  | .refuse error _ => some (.refused error, last)

/-- A call that ends with an attempt comes back. -/
theorem returned_of_ending {g : Generator} {last slot : Slot} {attempt : Attempt} {call : Call}
    (h : attempt.ending g last = some (call.outcome, slot)) : call.returned = true := by
  unfold Call.returned
  cases attempt with
  | issue next => rw [← (Prod.mk.inj (Option.some.inj h)).1]
  | wait pause => exact absurd h (by simp [ending])
  | refuse error reports => rw [← (Prod.mk.inj (Option.some.inj h)).1]

end Attempt

namespace Generator

variable {g : Generator} {last slot : Slot} {millis : UInt64} {outcome : Outcome}
  {readings rest : List UInt64} {patience : Nat}

/-- Every reading of the list makes a call wait. -/
def Waits (g : Generator) (last : Slot) (readings : List UInt64) : Prop :=
  ∀ millis ∈ readings, (g.attempt last millis).ending g last = none

theorem attempt_of_ending_none (h : (g.attempt last millis).ending g last = none) :
    ∃ pause, g.attempt last millis = .wait pause := by
  cases ha : g.attempt last millis with
  | issue slot => rw [ha] at h; exact absurd h (by simp [Attempt.ending])
  | wait pause => exact ⟨pause, rfl⟩
  | refuse error reports => rw [ha] at h; exact absurd h (by simp [Attempt.ending])

/-- A wait lasts until the next tick. -/
theorem pause_of_attempt {pause : UInt64} (h : g.attempt last millis = .wait pause) :
    pause = g.pause last millis := by
  cases leadsTo_of_attempt h with
  | wait => rfl

/-- The last reading of a call, on any clock. -/
theorem await_of_ending {σ : Type} [Clock σ] {waited : Bool} {clock after : σ}
    (hr : Clock.read clock = (.ok millis, after))
    (he : (g.attempt last millis).ending g last = some (outcome, slot)) :
    ∃ call, g.await last waited (patience + 1) clock = (call, slot, after) ∧
      call.outcome = outcome ∧ call.sleeps = [] := by
  cases ha : g.attempt last millis with
  | issue next =>
    rw [ha] at he
    cases he
    exact ⟨_, await_of_issue hr ha, rfl, rfl⟩
  | wait pause => rw [ha] at he; exact absurd he (by simp [Attempt.ending])
  | refuse error reports =>
    rw [ha] at he
    cases he
    exact ⟨_, await_of_refuse hr ha, rfl, rfl⟩

theorem await_tape (waited : Bool) (hw : g.Waits last readings)
    (he : (g.attempt last millis).ending g last = some (outcome, slot))
    (hp : readings.length < patience) :
    ∃ call, g.await last waited patience (Tape.mk (readings ++ millis :: rest)) =
      (call, slot, ⟨rest⟩) ∧ call.outcome = outcome := by
  induction readings generalizing waited patience with
  | nil =>
    obtain ⟨n, rfl⟩ : ∃ n, patience = n + 1 := ⟨patience - 1, by omega⟩
    obtain ⟨call, hcall, hout, -⟩ : ∃ call, g.await last waited (n + 1) (Tape.mk (millis :: rest)) =
        (call, slot, ⟨rest⟩) ∧ call.outcome = outcome ∧ call.sleeps = [] := await_of_ending rfl he
    exact ⟨call, hcall, hout⟩
  | cons first more ih =>
    simp only [List.length_cons] at hp
    obtain ⟨n, rfl⟩ : ∃ n, patience = n + 1 := ⟨patience - 1, by omega⟩
    obtain ⟨pause, ha⟩ := attempt_of_ending_none (hw first List.mem_cons_self)
    obtain ⟨call, hcall, hout⟩ := ih true (fun m hm => hw m (List.mem_cons_of_mem _ hm))
      (by omega : more.length < n)
    -- sleeping leaves the tape as it is
    have hr : Clock.read (Tape.mk (first :: more ++ millis :: rest)) =
        (.ok first, ⟨more ++ millis :: rest⟩) := rfl
    exact ⟨_, await_of_wait hr ha hcall, hout⟩

/-- **A call takes the readings that make it wait and the one that ends it.** -/
theorem next_tape (hw : g.Waits last readings)
    (he : (g.attempt last millis).ending g last = some (outcome, slot)) :
    ∃ call, g.next last (Tape.mk (readings ++ millis :: rest)) = (call, slot, ⟨rest⟩) ∧
      call.outcome = outcome := by
  apply await_tape false hw he
  change _ < (readings ++ millis :: rest).length + 1
  rw [List.length_append, List.length_cons]
  omega

/-! ### What a call has taken -/

theorem await_tape_inv {waited : Bool} {call : Call} {tape : Tape}
    (h : g.await last waited patience (Tape.mk readings) = (call, slot, tape))
    (hret : call.returned = true) :
    ∃ waits millis, readings = waits ++ millis :: tape.readings ∧ g.Waits last waits ∧
      (g.attempt last millis).ending g last = some (call.outcome, slot) ∧
      call.readings = waits.length + 1 ∧ call.sleeps = waits.map (g.pause last) := by
  rw [await_eq_iff] at h
  generalize htape : Tape.mk readings = start at h
  induction h generalizing readings with
  | unfinished => exact absurd hret (by simp [Call.immediate, Call.returned])
  | fault => exact absurd hret (by simp [Call.single, Call.returned])
  | @issue _ _ _ _ millis _ read attempt =>
    subst htape
    obtain rfl := Tape.readings_of_read read
    exact ⟨[], millis, rfl, by simp [Waits], by rw [attempt]; rfl, rfl, rfl⟩
  | @refuse _ _ _ _ millis _ _ read attempt =>
    subst htape
    obtain rfl := Tape.readings_of_read read
    exact ⟨[], millis, rfl, by simp [Waits], by rw [attempt]; rfl, rfl, rfl⟩
  | @wait _ _ _ _ _ first _ _ _ read attempt _ ih =>
    subst htape
    obtain rfl := Tape.readings_of_read read
    obtain ⟨waits, millis, hreadings, hwaits, hend, hcount, hsleeps⟩ := ih hret rfl
    refine ⟨first :: waits, millis, congrArg _ hreadings, ?_, hend, ?_, ?_⟩
    · intro m hm
      rcases List.mem_cons.mp hm with rfl | hm
      · rw [attempt]
        rfl
      · exact hwaits m hm
    · exact congrArg (· + 1) hcount
    · rw [List.map_cons, ← pause_of_attempt attempt]
      exact congrArg _ hsleeps

/-- **A call that comes back has taken the readings that made it wait and the one that ended it**,
and has slept once for each of the former. -/
theorem next_tape_inv {call : Call} {tape : Tape}
    (h : g.next last (Tape.mk readings) = (call, slot, tape)) (hret : call.returned = true) :
    ∃ waits millis, readings = waits ++ millis :: tape.readings ∧ g.Waits last waits ∧
      (g.attempt last millis).ending g last = some (call.outcome, slot) ∧
      call.readings = waits.length + 1 ∧ call.sleeps = waits.map (g.pause last) :=
  await_tape_inv h hret

end Generator

namespace Cell

variable {g : Generator} {last slot : Slot} {millis : UInt64} {outcome : Outcome}
  {readings rest : List UInt64}

/-- **The same under the lock.** -/
theorem next_tape (hw : g.Waits last readings)
    (he : (g.attempt last millis).ending g last = some (outcome, slot)) :
    ∃ call, (Cell.new last).next g (Tape.mk (readings ++ millis :: rest)) =
      (call, .new slot, ⟨rest⟩) ∧ call.outcome = outcome := by
  obtain ⟨call, hcall, hout⟩ : ∃ call, g.next last (Tape.mk (readings ++ millis :: rest)) =
      (call, slot, ⟨rest⟩) ∧ call.outcome = outcome := Generator.next_tape hw he
  refine ⟨call, ?_, hout⟩
  -- the clock did not fail, so the lock is not poisoned
  have hf : call.faulted = false := by
    rw [← hout] at he
    exact Call.faulted_of_returned (Attempt.returned_of_ending he)
  rw [next_new hcall, hf]
  rfl

end Cell

end Snowflake
