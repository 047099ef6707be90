import Snowflake.Proofs.Generator.Threads
import Snowflake.Proofs.Session.Trace

/-!
# Concurrent calls

Threads call a generator of a session and its clones, all at once. The lock puts their calls in a
row: whatever the order of their steps and whatever the clock tells, they get what one caller would
have got who made their calls in the order in which the lock was acquired.

Results:
* **`Life.linearizable`**: threads that share a generator get what one caller gets.
-/

namespace Snowflake

open Threads

/-- The same generators on another clock. -/
def Session.withClock {σ ρ : Type} (s : Session σ) (clock : ρ) : Session ρ :=
  ⟨clock, s.cells, s.handles⟩

variable {σ τ : Type} [Clock σ] [DecidableEq τ]

/-- **Concurrent calls are linearised by the lock.** After any life of a generator in which the
clock never failed, threads take any steps, in any order, through the generator and its clones.
One caller who makes as many calls as are over, on the readings the threads took, in their order,
gets the results in the order in which the lock was acquired, and leaves the same last slot. So
identifiers rise in that order, and those of each thread do. From acquiring the lock to releasing
it, sleep or not, a thread is the only one that takes any step. -/
theorem Life.linearizable (l : Life σ) {last : Slot} (hlast : l.checkpoint = some (.ok last))
    {trace : List (τ × Action)} {w : World τ} (h : Exec l.sharers (World.start last) trace w)
    {g : Nat} (hg : l.Shares g) :
    (∃ calls s,
      (l.finish.withClock (Tape.mk (readings trace))).times g (results trace).length =
        some (calls, s) ∧
      calls.map Call.outcome = (results trace).map Prod.snd ∧
      -- a call that is about to release the lock has moved the last slot already
      ((∀ t outcome, w.phase t ≠ .leaving outcome) → s.checkpoint? g = some (.ok w.last)) ∧
      (w.lock = none → s.clock.readings = [])) ∧
    acquired trace = (results trace).map Prod.fst ++ w.lock.toList ∧
    (issued (results trace)).Pairwise (fun a b => a.bits < b.bits) ∧
    (issued (results trace)).Nodup ∧
    (∀ t, (issued ((results trace).filter fun r => r.1 = t)).Pairwise fun a b => a.bits < b.bits) ∧
    ∀ before during after t, trace = before ++ (t, .acquire) :: during ++ after →
      (∀ outcome, (t, .release outcome) ∉ during) → ∀ e ∈ during, e.1 = t := by
  obtain ⟨slots, hat, htrail, -⟩ := l.trail_of_checkpoint hlast
  have hfits : last.Fits := htrail.fits l.fits _ htrail.last_mem
  have hsharers : ∀ handle ∈ l.sharers, handle.generator = l.settings.generator := by
    intro handle hmem
    obtain ⟨hmem, hcell⟩ := List.mem_filter.mp hmem
    exact hat.generator handle hmem (of_decide_eq_true hcell)
  have hserial : Serial l.settings.generator last trace w :=
    h.serial hsharers (serial_start _ _)
  obtain ⟨start, before, current, hreadings, hreplays, hexplains⟩ := hserial.replay
  -- the one caller, on a session with the same generators
  have hfind : (l.finish.withClock (Tape.mk (readings trace))).find? g =
      some (⟨l.settings.generator, l.cell⟩, .new last) := l.find?_of_shares hat hg
  obtain ⟨calls, hcalls, houts⟩ := hreplays current
  have hmade : (Cell.new last).times l.settings.generator (Tape.mk (readings trace))
      (results trace).length = (calls, .new start, ⟨current⟩) := by
    rw [hreadings, ← hcalls, List.length_map]
  obtain ⟨s, htimes, hsfind, hsclock⟩ := Session.times_of_find? hfind hmade
  have hrise : (issued (results trace)).Pairwise fun a b => a.bits < b.bits := by
    rw [issued_eq houts]
    have hall := (Cell.times_serves hmade).ids_rise hfits
    exact hall.tail
  refine ⟨⟨calls, s, htimes, houts, fun hleaving => ?_, fun hfree => ?_⟩, hserial.order, hrise,
    Id.nodup_of_rise hrise, fun t => ?_, ?_⟩
  · have hunderway : ∀ outcome, w.underway ≠ .leaving outcome := by
      intro outcome
      unfold World.underway
      cases w.lock with
      | none => simp
      | some t => exact hleaving t outcome
    unfold Session.checkpoint?
    rw [hsfind, hexplains.last_eq hunderway]
    rfl
  · unfold World.underway at hexplains
    rw [hfree] at hexplains
    rw [hsclock]
    exact hexplains.1
  · exact hrise.sublist (List.filter_sublist.filterMap _)
  · rintro before during after t rfl
    exact Exec.alone_between exclusive_start h

/-- A generator with one number left in its tick, and a clone of it. -/
def Life.pair : Life Tape :=
  ⟨⟨[]⟩, [], ⟨5, 0, ⟨0, 2046⟩, true, .millisecond⟩, ⟨_, rfl⟩, [.clone 0]⟩

/-- Two threads: `true` takes the last number of tick 0, then `false` finds the tick used up and
sleeps with the lock until tick 1. -/
def Life.pairTrace : List (Bool × Action) :=
  [(true, .acquire), (true, .read 0), (true, .compare), (true, .commit),
    (true, .release (.issued ((⟨0, 2047⟩ : Slot).toId 5))),
    (false, .acquire), (false, .read 0), (false, .compare), (false, .sleep 1), (false, .wake),
    (false, .read 1), (false, .compare), (false, .commit),
    (false, .release (.issued ((⟨1, 0⟩ : Slot).toId 5)))]

theorem Life.pair_exec : ∃ w : World Bool,
    Exec pair.sharers (World.start ⟨0, 2046⟩) pairTrace w ∧
      (∀ t, w.phase t = .idle) ∧ w.last = ⟨1, 0⟩ :=
  ⟨_,
    .cons (.acquire ⟨pair.settings.generator, 0⟩ (by decide) rfl rfl) <|
    .cons (.inside rfl (.read 0)) <|
    .cons (.inside rfl .compare) <|
    .cons (.inside rfl .commit) <|
    .cons (.release rfl) <|
    .cons (.acquire ⟨pair.settings.generator, 0⟩ (by decide) rfl rfl) <|
    .cons (.inside rfl (.read 0)) <|
    .cons (.inside rfl .compare) <|
    .cons (.inside rfl .sleep) <|
    .cons (.inside rfl .wake) <|
    .cons (.inside rfl (.read 1)) <|
    .cons (.inside rfl .compare) <|
    .cons (.inside rfl .commit) <|
    .cons (.release rfl) <|
    .nil _,
    fun t => by cases t <;> rfl, rfl⟩

/-- What one caller gets on the readings of the two threads. -/
theorem Life.linearizable_pair :
    ∃ calls s, (pair.finish.withClock (Tape.mk [0, 0, 1])).times 0 2 = some (calls, s) ∧
      calls.map Call.outcome =
        [.issued ((⟨0, 2047⟩ : Slot).toId 5), .issued ((⟨1, 0⟩ : Slot).toId 5)] ∧
      s.checkpoint? 0 = some (.ok ⟨1, 0⟩) := by
  obtain ⟨w, hexec, hidle, hlast⟩ := pair_exec
  obtain ⟨⟨calls, s, htimes, houts, hcheck, -⟩, -⟩ :=
    pair.linearizable rfl hexec pair.shares_handle
  refine ⟨calls, s, htimes, houts, ?_⟩
  rw [hlast] at hcheck
  exact hcheck fun t outcome => by rw [hidle t]; simp

end Snowflake
