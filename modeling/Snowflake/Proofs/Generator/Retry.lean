import Mathlib.Algebra.GroupWithZero.Nat
import Snowflake.Proofs.Clock.Tape
import Snowflake.Proofs.Slot.Advance

/-!
# Waiting and trying again

A generator that waits goes on reading while the tick is used up. One that does not wait is refused
then, and its caller may call again. On the same readings the two come to the same: each reading
that makes the first sleep refuses a call of the second, and the reading that ends the first call
ends the last one of the second, in the same way and with the same last slot.

Results:
* `Generator.waits_patient_iff`: a waiting generator waits where `advance` finds the tick used up,
  and only there.
* `Cell.times_exhausted`: one that does not wait is refused once for each such reading.
* **`Cell.waiting_is_retrying`**: a call that waits is as many calls that do not.
-/

namespace Snowflake

namespace Generator

/-- The generator with the rule to wait. -/
def patient (g : Generator) : Generator := { g with waits := true }

/-- The generator with the rule not to wait. -/
def impatient (g : Generator) : Generator := { g with waits := false }

variable {g : Generator} {last slot : Slot} {millis : UInt64} {outcome : Outcome}
  {readings : List UInt64}

@[simp] theorem tick_patient : g.patient.tick millis = g.tick millis := rfl

@[simp] theorem tick_impatient : g.impatient.tick millis = g.tick millis := rfl

/-! ## One reading -/

theorem attempt_impatient_of_exhausted (h : last.advance (g.tick millis) = .exhausted) :
    g.impatient.attempt last millis =
      .refuse (.sequenceOverflow last.tick last.sequence) [] := by
  rw [attempt_eq, tick_impatient, h]
  rfl

theorem attempt_of_behind (hfits : last.Fits) (h : (g.tick millis).toInt < last.tick.toNat) :
    g.attempt last millis = .refuse (.clockRegression (g.tick millis) last.tick)
      [.movedBackwards (g.tick millis) last.tick] := by
  rw [attempt_eq, (Slot.advance_eq_behind_iff hfits).mpr h]

theorem attempt_of_beyond (hfits : last.Fits)
    (hmax : (Layout.maxTimestamp.toNat : Int) < (g.tick millis).toInt) :
    g.attempt last millis =
      .refuse (.timestampOverflow (UInt64.ofNat (g.tick millis).toInt.toNat))
        [.exhausted (.timestampOverflow (UInt64.ofNat (g.tick millis).toInt.toNat))] := by
  have hword := Slot.toNat_ofNat_toNat (g.tick millis)
  have htick : (g.tick millis).toInt =
      ((UInt64.ofNat (g.tick millis).toInt.toNat).toNat : Int) := by omega
  rw [attempt_eq, (Slot.advance_eq_beyond_iff hfits).mpr ⟨hmax, htick⟩]

/-- Where the tick is not used up the rule makes no difference: the call ends, with a slot, a
regression or a tick past the field. -/
theorem ending_of_not_exhausted (h : last.advance (g.tick millis) ≠ .exhausted) :
    ∃ outcome slot, (g.patient.attempt last millis).ending g.patient last = some (outcome, slot) ∧
      (g.impatient.attempt last millis).ending g.impatient last = some (outcome, slot) ∧
      ∀ tick sequence, outcome ≠ .refused (.sequenceOverflow tick sequence) := by
  rw [attempt_eq, attempt_eq, tick_patient, tick_impatient]
  cases ha : last.advance (g.tick millis) with
  | next slot => exact ⟨_, slot, rfl, rfl, by simp⟩
  | exhausted => exact absurd ha h
  | behind => exact ⟨_, last, rfl, rfl, by simp⟩
  | beyond tick => exact ⟨_, last, rfl, rfl, by simp⟩

/-- **A waiting generator waits where the tick is used up**, and only there. -/
theorem waits_patient_iff : g.patient.Waits last readings ↔
    ∀ millis ∈ readings, last.advance (g.tick millis) = .exhausted := by
  refine forall_congr' fun millis => forall_congr' fun _ => ?_
  constructor
  · intro hnone
    by_cases h : last.advance (g.tick millis) = .exhausted
    · exact h
    · obtain ⟨outcome, slot, hend, -⟩ := ending_of_not_exhausted h
      rw [hnone] at hend
      exact absurd hend (by simp)
  · intro h
    rw [attempt_of_exhausted (g := g.patient) rfl h]
    rfl

theorem not_exhausted_of_ending
    (h : (g.patient.attempt last millis).ending g.patient last = some (outcome, slot)) :
    last.advance (g.tick millis) ≠ .exhausted := by
  intro hused
  rw [attempt_of_exhausted (g := g.patient) rfl hused] at h
  exact absurd h (by simp [Attempt.ending])

end Generator

namespace Cell

open Generator

variable {g : Generator} {last slot : Slot} {millis : UInt64} {outcome : Outcome}
  {waits rest readings : List UInt64} {cell cell' : Cell} {call : Call} {tape : Tape}

/-! ## Calls in a row -/

/-- The call that is refused because the tick of `last` is used up. -/
def refusal (last : Slot) : Call :=
  .single (.refused (.sequenceOverflow last.tick last.sequence)) []

theorem next_exhausted (h : last.advance (g.tick millis) = .exhausted) :
    (Cell.new last).next g.impatient (Tape.mk (millis :: rest)) =
      (refusal last, .new last, ⟨rest⟩) := by
  have hr : Clock.read (Tape.mk (millis :: rest)) = (.ok millis, ⟨rest⟩) := rfl
  have hcall : g.impatient.next last (Tape.mk (millis :: rest)) = (refusal last, last, ⟨rest⟩) :=
    await_of_refuse hr (attempt_impatient_of_exhausted h)
  rw [next_new hcall]
  rfl

/-- **A generator that does not wait is refused once for each reading of a tick that is used up.** -/
theorem times_exhausted (h : ∀ millis ∈ waits, last.advance (g.tick millis) = .exhausted) :
    (Cell.new last).times g.impatient (Tape.mk (waits ++ rest)) waits.length =
      (List.replicate waits.length (refusal last), .new last, ⟨rest⟩) := by
  induction waits with
  | nil => rfl
  | cons first more ih =>
    have hfirst := h first List.mem_cons_self
    have hmore := ih fun m hm => h m (List.mem_cons_of_mem _ hm)
    rw [List.length_cons, times, List.cons_append, next_exhausted hfirst]
    simp only [hmore, List.replicate_succ]

/-! ## A call that waits -/

/-- A call that its first reading ends takes no other. -/
theorem next_ending (h : (g.attempt last millis).ending g last = some (outcome, slot)) :
    ∃ call, (Cell.new last).next g (Tape.mk (millis :: rest)) = (call, .new slot, ⟨rest⟩) ∧
      call.outcome = outcome ∧ call.readings = 1 := by
  have hnone : g.Waits last [] := by simp [Waits]
  obtain ⟨call, hcall, rfl⟩ : ∃ call, g.next last (Tape.mk (millis :: rest)) =
      (call, slot, ⟨rest⟩) ∧ call.outcome = outcome := Generator.next_tape hnone h
  have hret := Attempt.returned_of_ending h
  obtain ⟨waits, last, hreadings, -, -, hcount, -⟩ := next_tape_inv hcall hret
  refine ⟨call, ?_, rfl, ?_⟩
  · rw [next_new hcall, Call.faulted_of_returned hret]
    rfl
  · have hlen := congrArg List.length hreadings
    simp only [List.length_append, List.length_cons] at hlen
    omega

/-- **What a waiting call has taken**, when it comes back: readings of a tick that is used up, one
sleep for each, and one reading that ends it as it would end a call that does not wait. -/
theorem next_patient_inv (h : (Cell.new last).next g.patient (Tape.mk readings) = (call, cell', tape))
    (hret : call.returned = true) :
    ∃ waits millis slot, readings = waits ++ millis :: tape.readings ∧
      (∀ m ∈ waits, last.advance (g.tick m) = .exhausted) ∧
      (g.impatient.attempt last millis).ending g.impatient last = some (call.outcome, slot) ∧
      (∀ tick sequence, call.outcome ≠ .refused (.sequenceOverflow tick sequence)) ∧
      cell' = .new slot ∧ call.readings = waits.length + 1 ∧ call.sleeps.length = waits.length := by
  rcases hnext : g.patient.next last (Tape.mk readings) with ⟨call', slot, tape'⟩
  rw [next_new hnext] at h
  cases h
  obtain ⟨waits, millis, hreadings, hwaits, hend, hcount, hsleeps⟩ := next_tape_inv hnext hret
  obtain ⟨outcome, slot', hpatient, himpatient, hne⟩ :=
    ending_of_not_exhausted (not_exhausted_of_ending hend)
  rw [hend] at hpatient
  cases hpatient
  refine ⟨waits, millis, slot, hreadings, waits_patient_iff.mp hwaits, himpatient, hne, ?_, hcount,
    ?_⟩
  · rw [Call.faulted_of_returned hret]
    rfl
  · rw [hsleeps, List.length_map]

/-- The calls of a caller who calls again until the answer is another one: first as many refusals as
a waiting call sleeps, then a call that ends as the waiting one does. -/
theorem times_impatient
    (h : (Cell.new last).next g.patient (Tape.mk readings) = (call, cell', tape))
    (hret : call.returned = true) :
    ∃ final, (Cell.new last).times g.impatient (Tape.mk readings) (call.sleeps.length + 1) =
        (List.replicate call.sleeps.length (refusal last) ++ [final], cell', tape) ∧
      final.outcome = call.outcome ∧ final.readings = 1 ∧
      call.readings = call.sleeps.length + 1 := by
  obtain ⟨waits, millis, slot, rfl, hused, hend, -, rfl, hcount, hsleeps⟩ :=
    next_patient_inv h hret
  obtain ⟨final, hfinal, hout, hone⟩ : ∃ final, (Cell.new last).next g.impatient
      (Tape.mk (millis :: tape.readings)) = (final, .new slot, tape) ∧
      final.outcome = call.outcome ∧ final.readings = 1 := next_ending hend
  rw [hsleeps]
  exact ⟨final, times_succ (times_exhausted hused) hfinal, hout, hone, hcount⟩

/-- A clock that goes back or too far while a call waits ends it. -/
theorem next_patient_refused
    (h : (Cell.new last).next g.patient (Tape.mk (waits ++ millis :: rest)) = (call, cell', tape))
    (hused : ∀ m ∈ waits, last.advance (g.tick m) = .exhausted) {error : Error}
    {reports : List Event}
    (ha : g.patient.attempt last millis = .refuse error reports) :
    call.outcome = .refused error := by
  have hend : (g.patient.attempt last millis).ending g.patient last =
      some (.refused error, last) := by
    rw [ha]
    rfl
  obtain ⟨call', hcall, hout⟩ : ∃ call', (Cell.new last).next g.patient
      (Tape.mk (waits ++ millis :: rest)) = (call', .new last, ⟨rest⟩) ∧
      call'.outcome = .refused error := next_tape (waits_patient_iff.mpr hused) hend
  rw [hcall] at h
  cases h
  exact hout

/-- **Waiting is retrying.** A call of a generator that waits, made in any state of the lock and on
any readings, comes to the same as calls of one that does not, made until the answer is not that the
tick is used up: the same answer, the same last slot, the same readings, and one refusal for each
sleep. The waiting one never answers that the tick is used up; after a last slot that fits, a tick
that is earlier than the last one, or too late for its field, ends the wait with that error. -/
theorem waiting_is_retrying
    (h : cell.next g.patient (Tape.mk readings) = (call, cell', tape))
    (hret : call.returned = true) :
    (∃ refusals final,
      cell.times g.impatient (Tape.mk readings) (call.sleeps.length + 1) =
        (refusals ++ [final], cell', tape) ∧
      refusals.length = call.sleeps.length ∧
      (∀ refused ∈ refusals,
        refused.outcome = .refused (.sequenceOverflow cell.last.tick cell.last.sequence)) ∧
      final.outcome = call.outcome ∧
      ((refusals ++ [final]).map Call.readings).sum = call.readings) ∧
    (∀ tick sequence, call.outcome ≠ .refused (.sequenceOverflow tick sequence)) ∧
    (cell.poisoned = false → cell.last.Fits →
      ∀ waits millis rest, readings = waits ++ millis :: rest →
      (∀ m ∈ waits, cell.last.UsedUp (g.tick m)) →
      ((g.tick millis).toInt < cell.last.tick.toNat →
        call.outcome = .refused (.clockRegression (g.tick millis) cell.last.tick)) ∧
      ((cell.last.tick.toNat : Int) < (g.tick millis).toInt →
        (Layout.maxTimestamp.toNat : Int) < (g.tick millis).toInt →
        call.outcome =
          .refused (.timestampOverflow (UInt64.ofNat (g.tick millis).toInt.toNat)))) := by
  obtain ⟨last, poisoned⟩ := cell
  cases poisoned with
  | true =>
    -- both are refused at once, before any reading
    rw [next_of_poisoned rfl] at h
    cases h
    refine ⟨⟨[], _, ?_, rfl, by simp, rfl, rfl⟩, by simp [Call.immediate], by simp⟩
    simp only [Call.immediate, List.length_nil, times, next_of_poisoned, List.nil_append]
  | false =>
    have hsound : Cell.mk last false = .new last := rfl
    rw [hsound] at h ⊢
    obtain ⟨final, htimes, hout, hone, hcount⟩ := times_impatient h hret
    obtain ⟨-, -, -, -, -, -, hne, -⟩ := next_patient_inv h hret
    refine ⟨⟨_, final, htimes, List.length_replicate, ?_, hout, ?_⟩, hne, ?_⟩
    · intro refused hmem
      rw [List.eq_of_mem_replicate hmem]
      rfl
    · rw [List.map_append, List.map_replicate, List.sum_append, List.sum_replicate_nat, hcount]
      simp [refusal, Call.single, hone]
    · rintro - hfits waits millis rest rfl hused
      have hexhausted : ∀ m ∈ waits, last.advance (g.tick m) = .exhausted := fun m hm =>
        (Slot.advance_eq_exhausted_iff hfits).mpr (hused m hm)
      exact ⟨fun hbehind => next_patient_refused h hexhausted (attempt_of_behind hfits hbehind),
        fun _ hmax => next_patient_refused h hexhausted (attempt_of_beyond hfits hmax)⟩

/-- A call that sleeps twice and is then ended by a clock that was set back, and the three calls
that come to the same. -/
theorem waiting_is_retrying_set_back :
    let g : Generator := ⟨1, 0, .millisecond, true⟩
    let cell := Cell.new ⟨5, 2047⟩
    (cell.next g.patient (Tape.mk [5, 5, 4, 9])).1.sleeps = [1, 1] ∧
      ∃ refusals final,
        cell.times g.impatient (Tape.mk [5, 5, 4, 9]) 3 =
          (refusals ++ [final], cell, ⟨[9]⟩) ∧
        refusals.length = 2 ∧ final.outcome = .refused (.clockRegression 4 5) := by
  have h : (Cell.new ⟨5, 2047⟩).next (patient ⟨1, 0, .millisecond, true⟩) (Tape.mk [5, 5, 4, 9]) =
      (⟨.refused (.clockRegression 4 5), 3, [1, 1], [.waiting 5, .movedBackwards 4 5]⟩,
        .new ⟨5, 2047⟩, ⟨[9]⟩) := by
    decide
  obtain ⟨⟨refusals, final, htimes, hlen, -, hout, -⟩, -⟩ := waiting_is_retrying h rfl
  exact ⟨congrArg (fun made => made.1.sleeps) h, refusals, final, htimes, hlen, hout⟩

end Cell

end Snowflake
