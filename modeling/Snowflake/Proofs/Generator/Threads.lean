import Mathlib.Logic.Function.Basic
import Snowflake.Proofs.Clock.Tape

/-!
# Threads

Any number of threads call the generators on one cell. A call is cut into steps between which other
threads may take theirs: it acquires the lock, reads the clock, compares the reading with the last
slot, sleeps and wakes up to read again, commits or fails, and releases the lock.

Only acquiring looks at the lock. Every other step asks where its own thread is and nothing else, so
that nobody gets in between is not said of any step.

Results:
* **`Exec.alone`**: from the step with which a thread acquires the lock to the one with which it
  releases it, no other thread takes a step.
* **`Exec.serial`**: what threads have got so far is what one caller gets who makes the same calls
  one after the other on the same readings.
-/

namespace Snowflake

/-- The identifier of a call that ends so. -/
def Outcome.id? : Outcome → Option Id
  | .issued id => some id
  | _ => none

theorem Call.ids_eq (calls : List Call) :
    Call.ids calls = (calls.map Call.outcome).filterMap Outcome.id? := by
  rw [List.filterMap_map]
  rfl

namespace Threads

/-- Where a thread is: in no call, or in a call of a generator. -/
inductive Phase where
  | idle
  /-- The next thing is to read. -/
  | ready (g : Generator)
  | read (g : Generator) (millis : UInt64)
  | compared (g : Generator) (attempt : Attempt)
  | asleep (g : Generator)
  /-- All is done but to release the lock. -/
  | leaving (outcome : Outcome)
  deriving DecidableEq, Repr

/-- What a thread does in a step. -/
inductive Action where
  | acquire
  | read (millis : UInt64)
  | compare
  | sleep (millis : UInt64)
  | wake
  | commit
  | fail
  | release (outcome : Outcome)
  deriving DecidableEq, Repr

/-- The reading that a step takes. -/
def Action.reading? : Action → Option UInt64
  | .read millis => some millis
  | _ => none

/-- The end of the call that a step releases the lock after. -/
def Action.result? : Action → Option Outcome
  | .release outcome => some outcome
  | _ => none

/-- A step in the middle of a call, with the last slot before and after it. -/
inductive Move : Slot → Phase → Action → Phase → Slot → Prop where
  /-- Any reading may come. -/
  | read {last : Slot} {g : Generator} (millis : UInt64) :
      Move last (.ready g) (.read millis) (.read g millis) last
  | compare {last : Slot} {g : Generator} {millis : UInt64} :
      Move last (.read g millis) .compare (.compared g (g.attempt last millis)) last
  | sleep {last : Slot} {g : Generator} {pause : UInt64} :
      Move last (.compared g (.wait pause)) (.sleep pause) (.asleep g) last
  | wake {last : Slot} {g : Generator} : Move last (.asleep g) .wake (.ready g) last
  | commit {last : Slot} {g : Generator} {slot : Slot} :
      Move last (.compared g (.issue slot)) .commit
        (.leaving (.issued (slot.toId g.generatorId))) slot
  | fail {last : Slot} {g : Generator} {error : Error} {reports : List Event} :
      Move last (.compared g (.refuse error reports)) .fail (.leaving (.refused error)) last

variable {phase phase' : Phase} {action : Action} {last last' : Slot}

theorem Move.ne_idle (h : Move last phase action phase' last') :
    phase ≠ .idle ∧ phase' ≠ .idle := by
  cases h <;> exact ⟨by simp, by simp⟩

/-- In the middle of a call the lock is neither acquired nor released. -/
theorem Move.inner (h : Move last phase action phase' last') :
    action ≠ .acquire ∧ action.result? = none := by
  cases h <;> exact ⟨by simp, rfl⟩

/-- The lock, the last slot behind it, and where each thread is. -/
structure World (τ : Type) where
  lock : Option τ
  last : Slot
  phase : τ → Phase

variable {τ : Type} {w w' : World τ} {t : τ} {trace more : List (τ × Action)}

/-- No thread has begun. -/
def World.start (last : Slot) : World τ := ⟨none, last, fun _ => .idle⟩

/-- In a call is the thread that has the lock, and no other. -/
def World.Exclusive (w : World τ) : Prop := ∀ t, w.phase t ≠ .idle ↔ w.lock = some t

theorem exclusive_start : (World.start last : World τ).Exclusive := by
  intro t
  simp [World.start]

theorem World.Exclusive.lock_of_move (hw : w.Exclusive) (here : w.phase t = phase)
    (move : Move last phase action phase' last') : w.lock = some t := by
  apply (hw t).mp
  rw [here]
  exact move.ne_idle.1

theorem World.Exclusive.lock_of_leaving {outcome : Outcome} (hw : w.Exclusive)
    (here : w.phase t = .leaving outcome) : w.lock = some t := by
  apply (hw t).mp
  rw [here]
  simp

/-! ## What has happened so far -/

/-- The readings, in the order in which they were taken. -/
def readings (trace : List (τ × Action)) : List UInt64 := trace.filterMap fun e => e.2.reading?

/-- Who acquired the lock, in order. -/
def acquired (trace : List (τ × Action)) : List τ :=
  (trace.filter fun e => e.2 = .acquire).map Prod.fst

/-- Who released the lock, with what their calls gave, in order. -/
def results (trace : List (τ × Action)) : List (τ × Outcome) :=
  trace.filterMap fun e => e.2.result?.map (Prod.mk e.1)

/-- The identifiers among results. -/
def issued (results : List (τ × Outcome)) : List Id := results.filterMap fun r => r.2.id?

theorem issued_eq {calls : List Call} {results : List (τ × Outcome)}
    (h : calls.map Call.outcome = results.map Prod.snd) : issued results = Call.ids calls := by
  rw [Call.ids_eq, h, List.filterMap_map]
  rfl

theorem readings_append (trace more : List (τ × Action)) :
    readings (trace ++ more) = readings trace ++ readings more := List.filterMap_append

theorem acquired_append (trace more : List (τ × Action)) :
    acquired (trace ++ more) = acquired trace ++ acquired more := by
  unfold acquired
  rw [List.filter_append, List.map_append]

theorem results_append (trace more : List (τ × Action)) :
    results (trace ++ more) = results trace ++ results more := List.filterMap_append

theorem readings_singleton (t : τ) (action : Action) :
    readings [(t, action)] = action.reading?.toList := by
  cases action <;> rfl

theorem results_singleton (t : τ) (action : Action) :
    results [(t, action)] = (action.result?.map (Prod.mk t)).toList := by
  cases action <;> rfl

/-! ## One thread at a time -/

variable [DecidableEq τ] {handles : List Handle}

/-- One step of a thread. A call goes through any of the generators `handles`. -/
inductive Step (handles : List Handle) : World τ → τ → Action → World τ → Prop where
  | acquire {w : World τ} {t : τ} (handle : Handle) (mem : handle ∈ handles)
      (idle : w.phase t = .idle) (free : w.lock = none) :
      Step handles w t .acquire
        ⟨some t, w.last, Function.update w.phase t (.ready handle.generator)⟩
  | inside {w : World τ} {t : τ} {action : Action} {phase phase' : Phase} {last : Slot}
      (here : w.phase t = phase) (move : Move w.last phase action phase' last) :
      Step handles w t action ⟨w.lock, last, Function.update w.phase t phase'⟩
  | release {w : World τ} {t : τ} {outcome : Outcome} (here : w.phase t = .leaving outcome) :
      Step handles w t (.release outcome) ⟨none, w.last, Function.update w.phase t .idle⟩

/-- Steps of threads in any order, with who took them. -/
inductive Exec (handles : List Handle) : World τ → List (τ × Action) → World τ → Prop where
  | nil (w : World τ) : Exec handles w [] w
  | cons {w w' w'' : World τ} {t : τ} {action : Action} {trace : List (τ × Action)}
      (head : Step handles w t action w') (tail : Exec handles w' trace w'') :
      Exec handles w ((t, action) :: trace) w''

theorem Exec.split (h : Exec handles w (trace ++ more) w') :
    ∃ mid, Exec handles w trace mid ∧ Exec handles mid more w' := by
  induction trace generalizing w with
  | nil => exact ⟨w, .nil w, h⟩
  | cons e trace ih =>
    cases h with
    | cons head tail =>
      obtain ⟨mid, hfirst, hrest⟩ := ih tail
      exact ⟨mid, .cons head hfirst, hrest⟩

/-- **A step leaves the lock with the one thread that is in a call.** -/
theorem Step.exclusive (h : Step handles w t action w') (hw : w.Exclusive) : w'.Exclusive := by
  intro u
  cases h with
  | acquire handle mem idle free =>
    by_cases hu : u = t
    · subst hu
      simp
    · simp only [Function.update_of_ne hu, hw u, free, Option.some.injEq, reduceCtorEq, false_iff]
      exact Ne.symm hu
  | inside here move =>
    by_cases hu : u = t
    · subst hu
      have hlock := hw.lock_of_move here move
      simp only [Function.update_self, hlock, iff_true]
      exact move.ne_idle.2
    · simp only [Function.update_of_ne hu, hw u]
  | release here =>
    by_cases hu : u = t
    · subst hu
      simp
    · have hlock := hw.lock_of_leaving here
      simp only [Function.update_of_ne hu, hw u, hlock, Option.some.injEq, reduceCtorEq, iff_false]
      exact Ne.symm hu

theorem Exec.exclusive (h : Exec handles w trace w') (hw : w.Exclusive) : w'.Exclusive := by
  induction h with
  | nil => exact hw
  | cons head _ ih => exact ih (head.exclusive hw)

/-- Who acquires the lock has it. -/
theorem Step.acquires (h : Step handles w t .acquire w') : w'.lock = some t := by
  cases h with
  | acquire => rfl
  | inside _ move => cases move

/-- While `t` has the lock, steps are its own, and it has the lock until it releases it. -/
theorem Step.alone {u : τ} (h : Step handles w u action w') (hw : w.Exclusive)
    (hlock : w.lock = some t) :
    u = t ∧ (w'.lock = some t ∨ ∃ outcome, action = .release outcome) := by
  cases h with
  | acquire handle mem idle free => exact absurd (free.symm.trans hlock) (by simp)
  | inside here move =>
    -- whoever is in a call has the lock
    have hown := hw.lock_of_move here move
    exact ⟨Option.some.inj (hown.symm.trans hlock), .inl hlock⟩
  | release here =>
    have hown := hw.lock_of_leaving here
    exact ⟨Option.some.inj (hown.symm.trans hlock), .inr ⟨_, rfl⟩⟩

/-- **As long as a thread does not release the lock it has, no other takes a step.** -/
theorem Exec.alone (h : Exec handles w trace w') (hw : w.Exclusive) (hlock : w.lock = some t)
    (hheld : ∀ outcome, (t, .release outcome) ∉ trace) : ∀ e ∈ trace, e.1 = t := by
  induction h with
  | nil => simp
  | cons head _ ih =>
    obtain ⟨rfl, hnext⟩ := head.alone hw hlock
    intro e he
    rcases List.mem_cons.mp he with rfl | he
    · rfl
    rcases hnext with hlock' | ⟨outcome, rfl⟩
    · have hrest := ih (head.exclusive hw) hlock' fun outcome hmem =>
        hheld outcome (List.mem_cons_of_mem _ hmem)
      exact hrest e he
    · exact absurd List.mem_cons_self (hheld outcome)

/-- The same in the middle of a run. -/
theorem Exec.alone_between {before during after : List (τ × Action)} (hw : w.Exclusive)
    (h : Exec handles w (before ++ (t, .acquire) :: during ++ after) w')
    (hheld : ∀ outcome, (t, .release outcome) ∉ during) : ∀ e ∈ during, e.1 = t := by
  obtain ⟨_, h, -⟩ := h.split
  obtain ⟨mid, hbefore, h⟩ := h.split
  cases h with
  | cons head tail =>
    have hmid := hbefore.exclusive hw
    have hlock := head.acquires
    exact tail.alone (head.exclusive hmid) hlock hheld

/-! ## One caller instead of many -/

/-- One caller on a new cell gets `outcomes` out of `readings`, in as many calls, and leaves `last`.
Readings that come afterwards stay on the tape. -/
def Replays (g : Generator) (seed : Slot) (readings : List UInt64) (outcomes : List Outcome)
    (last : Slot) : Prop :=
  ∀ rest, ∃ calls, (Cell.new seed).times g (Tape.mk (readings ++ rest)) outcomes.length =
    (calls, .new last, ⟨rest⟩) ∧ calls.map Call.outcome = outcomes

variable {g : Generator} {seed start slot : Slot} {current before : List UInt64} {millis : UInt64}
  {outcome : Outcome} {outcomes : List Outcome}

theorem replays_nil (g : Generator) (seed : Slot) : Replays g seed [] [] seed :=
  fun _ => ⟨[], rfl, rfl⟩

/-- One more call. -/
theorem Replays.snoc (h : Replays g seed before outcomes last) (hw : g.Waits last current)
    (he : (g.attempt last millis).ending g last = some (outcome, slot)) :
    Replays g seed (before ++ (current ++ [millis])) (outcomes ++ [outcome]) slot := by
  intro rest
  obtain ⟨calls, hcalls, houts⟩ := h (current ++ millis :: rest)
  obtain ⟨call, hcall, hout⟩ : ∃ call, (Cell.new last).next g (Tape.mk (current ++ millis :: rest)) =
      (call, .new slot, ⟨rest⟩) ∧ call.outcome = outcome := Cell.next_tape hw he
  refine ⟨calls ++ [call], ?_, by rw [List.map_append, houts, List.map_singleton, hout]⟩
  have hreadings : before ++ (current ++ [millis]) ++ rest =
      before ++ (current ++ millis :: rest) := by simp
  rw [hreadings, List.length_append, List.length_singleton]
  exact Cell.times_succ hcalls hcall

/-- How the call under way, if there is one, got to its phase: since it began at the slot `start` it
has taken the readings `current`. -/
def Explains (g : Generator) (start : Slot) (current : List UInt64) (last : Slot) : Phase → Prop
  | .idle => current = [] ∧ last = start
  | .ready h => h = g ∧ g.Waits start current ∧ last = start
  | .read h millis => ∃ waits, current = waits ++ [millis] ∧ h = g ∧ g.Waits start waits ∧
      last = start
  | .compared h attempt => ∃ waits millis, current = waits ++ [millis] ∧ h = g ∧
      g.Waits start waits ∧ attempt = g.attempt start millis ∧ last = start
  | .asleep h => h = g ∧ g.Waits start current ∧ last = start
  | .leaving outcome => ∃ waits millis, current = waits ++ [millis] ∧ g.Waits start waits ∧
      (g.attempt start millis).ending g start = some (outcome, last)

/-- Only the end of a call moves the last slot. -/
theorem Explains.last_eq (h : Explains g start current last phase)
    (hne : ∀ outcome, phase ≠ .leaving outcome) : last = start := by
  cases phase with
  | idle => exact h.2
  | ready => exact h.2.2
  | read => exact h.choose_spec.2.2.2
  | compared => exact h.choose_spec.choose_spec.2.2.2.2
  | asleep => exact h.2.2
  | leaving outcome => exact absurd rfl (hne outcome)

/-- A step in the middle of a call adds its reading to what the call has taken. -/
theorem Move.explains (h : Move last phase action phase' last')
    (he : Explains g start current last phase) :
    Explains g start (current ++ action.reading?.toList) last' phase' := by
  cases h with
  | read millis =>
    obtain ⟨rfl, hwaits, rfl⟩ := he
    exact ⟨current, rfl, rfl, hwaits, rfl⟩
  | compare =>
    obtain ⟨waits, rfl, rfl, hwaits, rfl⟩ := he
    exact ⟨waits, _, List.append_nil _, rfl, hwaits, rfl, rfl⟩
  | sleep =>
    obtain ⟨waits, millis, rfl, rfl, hwaits, hattempt, rfl⟩ := he
    refine ⟨rfl, fun m hm => ?_, rfl⟩
    simp only [Action.reading?, Option.toList_none, List.append_nil, List.mem_append,
      List.mem_singleton] at hm
    -- what makes the call sleep is one more reading that makes it wait
    rcases hm with hm | rfl
    · exact hwaits m hm
    · rw [← hattempt]
      rfl
  | wake =>
    obtain ⟨rfl, hwaits, rfl⟩ := he
    exact ⟨rfl, by simpa [Action.reading?] using hwaits, rfl⟩
  | commit =>
    obtain ⟨waits, millis, rfl, rfl, hwaits, hattempt, rfl⟩ := he
    refine ⟨waits, millis, List.append_nil _, hwaits, ?_⟩
    rw [← hattempt]
    rfl
  | fail =>
    obtain ⟨waits, millis, rfl, rfl, hwaits, hattempt, rfl⟩ := he
    refine ⟨waits, millis, List.append_nil _, hwaits, ?_⟩
    rw [← hattempt]
    rfl

/-- Where the thread with the lock is. -/
def World.underway (w : World τ) : Phase := w.lock.elim .idle w.phase

/-- After the steps `past` all is as if one caller had made the calls that are over, one after the
other, on the readings that these calls took, and the call under way came next. -/
structure Serial (g : Generator) (seed : Slot) (past : List (τ × Action)) (w : World τ) : Prop where
  exclusive : w.Exclusive
  /-- Calls end in the order in which they acquired the lock. -/
  order : acquired past = (results past).map Prod.fst ++ w.lock.toList
  replay : ∃ start before current, readings past = before ++ current ∧
    Replays g seed before ((results past).map Prod.snd) start ∧
    Explains g start current w.last w.underway

omit [DecidableEq τ] in
theorem serial_start (g : Generator) (seed : Slot) :
    Serial g seed [] (World.start seed : World τ) :=
  ⟨exclusive_start, rfl, seed, [], [], rfl, replays_nil g seed, rfl, rfl⟩

theorem underway_update (last : Slot) (phases : τ → Phase) :
    World.underway ⟨some t, last, Function.update phases t phase⟩ = phase := by
  change Function.update phases t phase t = phase
  rw [Function.update_self]

/-- **A step keeps it so.** -/
theorem Step.serial {past : List (τ × Action)} (hhandles : ∀ handle ∈ handles, handle.generator = g)
    (h : Step handles w t action w') (hw : Serial g seed past w) :
    Serial g seed (past ++ [(t, action)]) w' := by
  have hexclusive := h.exclusive hw.exclusive
  have horder := hw.order
  obtain ⟨start, before, current, hreadings, hreplays, hexplains⟩ := hw.replay
  unfold World.underway at hexplains
  cases h with
  | acquire handle mem idle free =>
    rw [free] at horder hexplains
    obtain ⟨rfl, hlast⟩ := hexplains
    refine ⟨hexclusive, ?_, start, before, [], ?_, ?_, ?_⟩
    · rw [acquired_append, results_append, horder]
      simp [acquired, results, Action.result?]
    · rw [readings_append, hreadings]
      exact List.append_nil _
    · rw [results_append]
      simpa [results, Action.result?] using hreplays
    · rw [underway_update]
      exact ⟨hhandles handle mem, by simp [Generator.Waits], hlast⟩
  | inside here move =>
    have hlock := hw.exclusive.lock_of_move here move
    obtain ⟨hacquire, hresult⟩ := move.inner
    have hresults : results (past ++ [(t, action)]) = results past := by
      rw [results_append, results_singleton, hresult]
      exact List.append_nil _
    rw [hlock] at horder hexplains
    rw [Option.elim_some, here] at hexplains
    refine ⟨hexclusive, ?_, start, before, current ++ action.reading?.toList, ?_, ?_, ?_⟩
    · rw [acquired_append, hresults, horder, hlock]
      simp [acquired, hacquire]
    · rw [readings_append, readings_singleton, hreadings, List.append_assoc]
    · rw [hresults]
      exact hreplays
    · rw [hlock, underway_update]
      exact move.explains hexplains
  | release here =>
    have hlock := hw.exclusive.lock_of_leaving here
    rw [hlock] at horder hexplains
    rw [Option.elim_some, here] at hexplains
    obtain ⟨waits, millis, rfl, hwaits, hends⟩ := hexplains
    -- the call is over: one more call on the readings it took
    refine ⟨hexclusive, ?_, w.last, before ++ (waits ++ [millis]), [], ?_, ?_, rfl, rfl⟩
    · rw [acquired_append, results_append, horder]
      simp [acquired, results, Action.result?]
    · rw [readings_append, hreadings, List.append_nil]
      exact List.append_nil _
    · rw [results_append, List.map_append]
      exact hreplays.snoc hwaits hends

/-- **What threads have got so far is what one caller gets on the same readings.** -/
theorem Exec.serial {past : List (τ × Action)} (hhandles : ∀ handle ∈ handles, handle.generator = g)
    (h : Exec handles w trace w') (hw : Serial g seed past w) :
    Serial g seed (past ++ trace) w' := by
  induction h generalizing past with
  | nil => rwa [List.append_nil]
  | cons head _ ih =>
    rw [List.append_cons]
    exact ih (head.serial hhandles hw)

end Threads

end Snowflake
