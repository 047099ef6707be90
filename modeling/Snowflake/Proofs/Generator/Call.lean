import Snowflake.Session
import Snowflake.Proofs.Slot.Advance

/-!
# What a call does to the last slot

A call ends with the slot that `advance` goes on to, or without an identifier and with the last
slot where it was. If the last slot fits, as it does in a generator from its seed on, the one that is
issued follows it. How often it reads, what the clock tells and how long it waits in between makes
no difference to that. `Cell.Serves` puts calls in a row, each with any clock.

Results:
* `Generator.leadsTo_of_attempt`: what one reading leads to, with the answer of `advance` that it
  comes from (`Generator.LeadsTo`).
* **`Generator.await_eq_iff`**: a call as a relation with one case for what each reading leads to
  (`Generator.Awaits`); what is said of calls is proved by induction on it.
* `Generator.next_cases`, `Cell.next_cases`: the two ways in which a call ends.
* `Cell.next_poisoned`: a lock is poisoned by a clock that fails, and by nothing else.
* **`Cell.Serves.trail`**: the identifiers of calls in a row are those of a trail from the last slot
  before them to the last slot after them.
-/

namespace Snowflake

namespace Call

/-- The call came back, with an identifier or an error. -/
def returned (call : Call) : Bool :=
  match call.outcome with
  | .issued _ => true
  | .refused _ => true
  | .faulted _ => false
  | .unfinished => false

/-- The clock failed in the call. -/
def faulted (call : Call) : Bool :=
  match call.outcome with
  | .faulted _ => true
  | _ => false

theorem faulted_of_returned {call : Call} (h : call.returned = true) : call.faulted = false := by
  unfold returned at h
  unfold faulted
  split <;> simp_all

theorem any_faulted_eq_false {calls : List Call} :
    calls.any faulted = false ↔ ∀ call ∈ calls, call.faulted = false := by
  simp only [List.any_eq_false, Bool.not_eq_true]

theorem id?_of_issued {call : Call} {id : Id} (h : call.outcome = .issued id) :
    call.id? = some id := by
  unfold id?
  rw [h]

/-- An identifier of calls is the outcome of one of them. -/
theorem exists_issued {calls : List Call} {id : Id} (h : id ∈ ids calls) :
    ∃ call ∈ calls, call.outcome = .issued id := by
  obtain ⟨call, hmem, hid⟩ := List.mem_filterMap.mp h
  refine ⟨call, hmem, ?_⟩
  unfold id? at hid
  split at hid
  · rename_i hout
    rw [hout, Option.some.inj hid]
  · exact absurd hid (by simp)

end Call

variable {σ : Type} [Clock σ]

namespace Generator

variable {g : Generator} {last slot : Slot} {millis : UInt64}

theorem attempt_eq : g.attempt last millis =
    match last.advance (g.tick millis) with
    | .next slot => .issue slot
    | .exhausted =>
      if g.waits then .wait (g.pause last millis)
      else .refuse (.sequenceOverflow last.tick last.sequence) []
    | .behind =>
      .refuse (.clockRegression (g.tick millis) last.tick)
        [.movedBackwards (g.tick millis) last.tick]
    | .beyond tick => .refuse (.timestampOverflow tick) [.exhausted (.timestampOverflow tick)] := by
  rfl

/-- A generator that waits does so when `advance` finds the tick used up. -/
theorem attempt_of_exhausted (hwaits : g.waits = true)
    (h : last.advance (g.tick millis) = .exhausted) :
    g.attempt last millis = .wait (g.pause last millis) := by
  rw [attempt_eq, h]
  exact if_pos hwaits

/-- What one reading leads to, with the answer of `advance` that it comes from. -/
inductive LeadsTo (g : Generator) (last : Slot) (millis : UInt64) : Attempt → Prop where
  | issue {slot : Slot} (advance : last.advance (g.tick millis) = .next slot) :
    LeadsTo g last millis (.issue slot)
  | wait (advance : last.advance (g.tick millis) = .exhausted) (waits : g.waits = true) :
    LeadsTo g last millis (.wait (g.pause last millis))
  | usedUp (advance : last.advance (g.tick millis) = .exhausted) (waits : g.waits = false) :
    LeadsTo g last millis (.refuse (.sequenceOverflow last.tick last.sequence) [])
  | behind (advance : last.advance (g.tick millis) = .behind) :
    LeadsTo g last millis (.refuse (.clockRegression (g.tick millis) last.tick)
      [.movedBackwards (g.tick millis) last.tick])
  | beyond {tick : UInt64} (advance : last.advance (g.tick millis) = .beyond tick) :
    LeadsTo g last millis
      (.refuse (.timestampOverflow tick) [.exhausted (.timestampOverflow tick)])

theorem leadsTo_of_attempt {attempt : Attempt} (h : g.attempt last millis = attempt) :
    g.LeadsTo last millis attempt := by
  rw [← h, attempt_eq]
  cases ha : last.advance (g.tick millis) with
  | next slot => exact .issue ha
  | exhausted =>
    cases hwaits : g.waits with
    | true => exact .wait ha hwaits
    | false => exact .usedUp ha hwaits
  | behind => exact .behind ha
  | beyond tick => exact .beyond ha

/-- An attempt issues what `advance` goes on to. -/
theorem advance_of_attempt (h : g.attempt last millis = .issue slot) :
    last.advance (g.tick millis) = .next slot := by
  cases leadsTo_of_attempt h with
  | issue advance => exact advance

theorem follows_of_attempt (hfits : last.Fits) (h : g.attempt last millis = .issue slot) :
    last.Follows slot :=
  Slot.advance_follows hfits (advance_of_attempt h)

/-! ## One reading of a call -/

section Await

variable {waited : Bool} {patience : Nat} {clock clock' after : σ} {call rest : Call}

theorem await_succ : g.await last waited (patience + 1) clock =
    match Clock.read clock with
    | (.error fault, after) => (.single (.faulted fault) [], last, after)
    | (.ok millis, after) =>
      match g.attempt last millis with
      | .issue slot => (.single (.issued (slot.toId g.generatorId)) [], slot, after)
      | .refuse error reports => (.single (.refused error) reports, last, after)
      | .wait pause =>
        let (rest, slot, clock) := g.await last true patience (Clock.sleep pause after)
        (rest.resume (if waited then [] else [.waiting last.tick]) pause, slot, clock) := by
  rfl

theorem await_of_fault {fault : Clock.Fault} (hr : Clock.read clock = (.error fault, after)) :
    g.await last waited (patience + 1) clock = (.single (.faulted fault) [], last, after) := by
  rw [await_succ, hr]

theorem await_of_issue (hr : Clock.read clock = (.ok millis, after))
    (ha : g.attempt last millis = .issue slot) :
    g.await last waited (patience + 1) clock =
      (.single (.issued (slot.toId g.generatorId)) [], slot, after) := by
  rw [await_succ, hr]
  simp only [ha]

theorem await_of_refuse {error : Error} {reports : List Event}
    (hr : Clock.read clock = (.ok millis, after))
    (ha : g.attempt last millis = .refuse error reports) :
    g.await last waited (patience + 1) clock = (.single (.refused error) reports, last, after) := by
  rw [await_succ, hr]
  simp only [ha]

theorem await_of_wait {pause : UInt64} (hr : Clock.read clock = (.ok millis, after))
    (ha : g.attempt last millis = .wait pause)
    (hw : g.await last true patience (Clock.sleep pause after) = (rest, slot, clock')) :
    g.await last waited (patience + 1) clock =
      (rest.resume (if waited then [] else [.waiting last.tick]) pause, slot, clock') := by
  rw [await_succ, hr]
  simp only [ha, hw]

/-- A call on a clock from one of its readings on, how it comes out, the last slot after it and the
clock. -/
inductive Awaits (g : Generator) (last : Slot) : (waited : Bool) → (patience : Nat) → (clock : σ) →
    Call → Slot → (clock' : σ) → Prop where
  /-- There is no patience left. -/
  | unfinished {waited : Bool} {clock : σ} :
    Awaits g last waited 0 clock (.immediate .unfinished) last clock
  /-- The clock fails. -/
  | fault {waited : Bool} {patience : Nat} {clock after : σ} {fault : Clock.Fault}
      (read : Clock.read clock = (.error fault, after)) :
    Awaits g last waited (patience + 1) clock (.single (.faulted fault) []) last after
  /-- There is a slot. -/
  | issue {waited : Bool} {patience : Nat} {clock after : σ} {millis : UInt64} {slot : Slot}
      (read : Clock.read clock = (.ok millis, after))
      (attempt : g.attempt last millis = .issue slot) :
    Awaits g last waited (patience + 1) clock
      (.single (.issued (slot.toId g.generatorId)) []) slot after
  /-- The reading refuses the call. -/
  | refuse {waited : Bool} {patience : Nat} {clock after : σ} {millis : UInt64} {error : Error}
      {reports : List Event} (read : Clock.read clock = (.ok millis, after))
      (attempt : g.attempt last millis = .refuse error reports) :
    Awaits g last waited (patience + 1) clock (.single (.refused error) reports) last after
  /-- The call sleeps and goes on. -/
  | wait {waited : Bool} {patience : Nat} {clock after clock' : σ} {millis pause : UInt64}
      {rest : Call} {slot : Slot} (read : Clock.read clock = (.ok millis, after))
      (attempt : g.attempt last millis = .wait pause)
      (more : Awaits g last true patience (Clock.sleep pause after) rest slot clock') :
    Awaits g last waited (patience + 1) clock
      (rest.resume (if waited then [] else [.waiting last.tick]) pause) slot clock'

theorem awaits_of_await (h : g.await last waited patience clock = (call, slot, clock')) :
    g.Awaits last waited patience clock call slot clock' := by
  induction patience generalizing waited clock call with
  | zero =>
    cases h
    exact .unfinished
  | succ patience ih =>
    rcases hr : Clock.read clock with ⟨fault | millis, after⟩
    · rw [await_of_fault hr] at h
      cases h
      exact .fault hr
    · cases ha : g.attempt last millis with
      | issue next =>
        rw [await_of_issue hr ha] at h
        cases h
        exact .issue hr ha
      | refuse error reports =>
        rw [await_of_refuse hr ha] at h
        cases h
        exact .refuse hr ha
      | wait pause =>
        rcases hw : g.await last true patience (Clock.sleep pause after) with ⟨rest, slot', end'⟩
        rw [await_of_wait hr ha hw] at h
        cases h
        exact .wait hr ha (ih hw)

theorem Awaits.await_eq (h : g.Awaits last waited patience clock call slot clock') :
    g.await last waited patience clock = (call, slot, clock') := by
  induction h with
  | unfinished => rfl
  | fault read => exact await_of_fault read
  | issue read attempt => exact await_of_issue read attempt
  | refuse read attempt => exact await_of_refuse read attempt
  | wait read attempt _ ih => exact await_of_wait read attempt ih

/-- **The calls of `await` are those of the relation.** -/
theorem await_eq_iff : g.await last waited patience clock = (call, slot, clock') ↔
    g.Awaits last waited patience clock call slot clock' :=
  ⟨awaits_of_await, Awaits.await_eq⟩

/-- The end of a call after any number of waits. -/
theorem await_cases (h : g.await last waited patience clock = (call, slot, clock')) :
    (call.outcome = .issued (slot.toId g.generatorId) ∧ ∃ now, last.advance now = .next slot) ∨
      (call.id? = none ∧ slot = last) := by
  rw [await_eq_iff] at h
  induction h with
  | unfinished => exact .inr ⟨rfl, rfl⟩
  | fault => exact .inr ⟨rfl, rfl⟩
  | issue _ attempt => exact .inl ⟨rfl, _, advance_of_attempt attempt⟩
  | refuse => exact .inr ⟨rfl, rfl⟩
  | wait _ _ _ ih => exact ih -- the call ends as what comes after the wait does

end Await

/-- **A call issues the slot that `advance` goes on to, or leaves the last slot alone.** -/
theorem next_cases {clock clock' : σ} {call : Call}
    (h : g.next last clock = (call, slot, clock')) :
    (call.outcome = .issued (slot.toId g.generatorId) ∧ ∃ now, last.advance now = .next slot) ∨
      (call.id? = none ∧ slot = last) :=
  await_cases h

end Generator

namespace Cell

variable {g : Generator} {cell cell' cell'' : Cell} {clock clock' : σ} {call : Call}
  {calls more : List Call}

/-! ## One call under the lock -/

theorem next_of_poisoned (h : cell.poisoned = true) :
    cell.next g clock = (.immediate (.refused .lockPoisoned), cell, clock) := by
  unfold next
  rw [if_pos h]

theorem next_of_sound (h : cell.poisoned = false) :
    cell.next g clock = ((g.next cell.last clock).1,
      ⟨(g.next cell.last clock).2.1, (g.next cell.last clock).1.faulted⟩,
      (g.next cell.last clock).2.2) := by
  unfold next
  rw [if_neg (by simp [h])]
  rfl

/-- A call on a cell that is not poisoned is a call after its last slot. -/
theorem next_new {last slot : Slot} (h : g.next last clock = (call, slot, clock')) :
    (Cell.new last).next g clock = (call, ⟨slot, call.faulted⟩, clock') := by
  rw [next_of_sound rfl]
  change ((g.next last clock).1, Cell.mk (g.next last clock).2.1 (g.next last clock).1.faulted,
    (g.next last clock).2.2) = _
  rw [h]

theorem checkpoint_of_sound (h : cell.poisoned = false) : cell.checkpoint = .ok cell.last := by
  unfold checkpoint
  rw [if_neg (by simp [h])]

/-- A checkpoint is the last slot of a cell that is not poisoned. -/
theorem checkpoint_eq_ok {last : Slot} (h : cell.checkpoint = .ok last) :
    cell = .new last := by
  unfold checkpoint at h
  split at h
  · exact absurd h (by simp)
  · rename_i hp
    obtain ⟨slot, poisoned⟩ := cell
    obtain rfl := Except.ok.inj h
    simpa [new] using hp

theorem next_cases (h : cell.next g clock = (call, cell', clock')) :
    (call.outcome = .issued (cell'.last.toId g.generatorId) ∧
        ∃ now, cell.last.advance now = .next cell'.last) ∨
      (call.id? = none ∧ cell'.last = cell.last) := by
  cases hp : cell.poisoned with
  | true =>
    rw [next_of_poisoned hp] at h
    cases h
    exact .inr ⟨rfl, rfl⟩
  | false =>
    rw [next_of_sound hp] at h
    cases h
    exact Generator.next_cases rfl

/-- A slot that fits is followed by slots that fit. -/
theorem next_fits (h : cell.next g clock = (call, cell', clock')) (hfits : cell.last.Fits) :
    cell'.last.Fits := by
  rcases next_cases h with ⟨-, now, hnext⟩ | ⟨-, hlast⟩
  · exact (Slot.advance_follows hfits hnext).fits hfits
  · rw [hlast]
    exact hfits

/-- **Only a clock that fails poisons the lock.** -/
theorem next_poisoned (h : cell.next g clock = (call, cell', clock')) :
    cell'.poisoned = (cell.poisoned || call.faulted) := by
  cases hp : cell.poisoned with
  | true =>
    rw [next_of_poisoned hp] at h
    cases h
    rw [hp, Bool.true_or]
  | false =>
    rw [next_of_sound hp] at h
    cases h
    rw [Bool.false_or]

/-! ## Calls in a row -/

/-- A cell serves `calls` of `g`, one after the other, each with a clock of its own. -/
inductive Serves (g : Generator) : Cell → List Call → Cell → Prop where
  | nil (cell : Cell) : Serves g cell [] cell
  | cons {σ : Type} [Clock σ] {cell cell' cell'' : Cell} {clock clock' : σ} {call : Call}
      {calls : List Call} (head : cell.next g clock = (call, cell', clock'))
      (tail : Serves g cell' calls cell'') : Serves g cell (call :: calls) cell''

/-- **The identifiers of calls in a row are those of a trail** from the last slot before the calls
to the last slot after them, if the former fits. Then so do the slots that the calls come to, one
after the other, and the casts in `advance` lose nothing all along. -/
theorem Serves.trail (h : Serves g cell calls cell') (hfits : cell.last.Fits) :
    ∃ slots, Slot.Trail cell.last slots cell'.last ∧
      Call.ids calls = slots.map fun slot => slot.toId g.generatorId := by
  induction h with
  | nil cell => exact ⟨[], .nil _, rfl⟩
  | @cons _ _ cell cell' _ _ _ call calls head _ ih =>
    obtain ⟨slots, htrail, hids⟩ := ih (next_fits head hfits)
    rcases next_cases head with ⟨hout, now, hnext⟩ | ⟨hnone, hlast⟩
    · refine ⟨cell'.last :: slots, .cons (Slot.advance_follows hfits hnext) htrail, ?_⟩
      unfold Call.ids at hids ⊢
      rw [List.filterMap_cons_some (Call.id?_of_issued hout), hids, List.map_cons]
    · refine ⟨slots, by rwa [← hlast], ?_⟩
      unfold Call.ids at hids ⊢
      rw [List.filterMap_cons_none hnone, hids]

/-- Identifiers of calls in a row rise, from that of the last slot before them on. -/
theorem Serves.ids_rise (h : Serves g cell calls cell') (hfits : cell.last.Fits) :
    (cell.last.toId g.generatorId :: Call.ids calls).Pairwise fun a b => a.bits < b.bits := by
  obtain ⟨slots, htrail, hids⟩ := h.trail hfits
  rw [hids]
  exact htrail.toId_pairwise hfits _

/-- Each identifier of calls in a row is that of a slot that fits. -/
theorem Serves.exists_slot (h : Serves g cell calls cell') (hfits : cell.last.Fits) :
    ∀ id ∈ Call.ids calls, ∃ slot : Slot, slot.Fits ∧ id = slot.toId g.generatorId := by
  obtain ⟨slots, htrail, hids⟩ := h.trail hfits
  intro id hmem
  rw [hids] at hmem
  obtain ⟨slot, hslot, rfl⟩ := List.mem_map.mp hmem
  exact ⟨slot, htrail.fits hfits slot (List.mem_cons_of_mem _ hslot), rfl⟩

/-- A number of calls, one after the other, on one clock. -/
def times (cell : Cell) (g : Generator) (clock : σ) : Nat → List Call × Cell × σ
  | 0 => ([], cell, clock)
  | n + 1 =>
    let (call, cell, clock) := cell.next g clock
    let (calls, cell, clock) := cell.times g clock n
    (call :: calls, cell, clock)

theorem times_serves {n : Nat} (h : cell.times g clock n = (calls, cell', clock')) :
    cell.Serves g calls cell' := by
  induction n generalizing cell clock calls with
  | zero =>
    cases h
    exact .nil _
  | succ n ih =>
    rcases hf : cell.next g clock with ⟨first, mid, clock₁⟩
    rcases hr : mid.times g clock₁ n with ⟨rest, last, clock₂⟩
    simp only [times, hf, hr] at h
    cases h
    exact .cons hf (ih hr)

/-- One more call. -/
theorem times_succ {n : Nat} {clock'' : σ} (h : cell.times g clock n = (calls, cell', clock'))
    (hnext : cell'.next g clock' = (call, cell'', clock'')) :
    cell.times g clock (n + 1) = (calls ++ [call], cell'', clock'') := by
  induction n generalizing cell clock calls with
  | zero =>
    cases h
    simp only [times, hnext, List.nil_append]
  | succ n ih =>
    rcases hf : cell.next g clock with ⟨first, mid, clock₁⟩
    rcases hr : mid.times g clock₁ n with ⟨rest, mid', clock₂⟩
    simp only [times, hf, hr] at h
    cases h
    rw [times, hf]
    simp only [ih hr, List.cons_append]

/-- A row of calls poisons the lock if the clock fails in one of them. -/
theorem Serves.poisoned (h : Serves g cell calls cell') :
    cell'.poisoned = (cell.poisoned || calls.any Call.faulted) := by
  induction h with
  | nil => simp
  | cons head _ ih => rw [ih, next_poisoned head, List.any_cons, Bool.or_assoc]

/-- Calls, one after the other, each on a clock of its own. -/
def visits (cell : Cell) (g : Generator) : List σ → List Call × Cell
  | [] => ([], cell)
  | clock :: rest =>
    let (call, cell, _) := cell.next g clock
    let (calls, cell) := cell.visits g rest
    (call :: calls, cell)

theorem visits_append {clocks others : List σ} (h : cell.visits g clocks = (calls, cell'))
    (h' : cell'.visits g others = (more, cell'')) :
    cell.visits g (clocks ++ others) = (calls ++ more, cell'') := by
  induction clocks generalizing cell calls with
  | nil =>
    cases h
    exact h'
  | cons clock clocks ih =>
    rcases hn : cell.next g clock with ⟨call, mid, after⟩
    rcases hr : mid.visits g clocks with ⟨rest, last⟩
    simp only [visits, hn, hr] at h
    cases h
    simp only [List.cons_append, visits, hn, ih hr]

theorem visits_serves {clocks : List σ} (h : cell.visits g clocks = (calls, cell')) :
    cell.Serves g calls cell' := by
  induction clocks generalizing cell calls with
  | nil =>
    cases h
    exact .nil _
  | cons clock clocks ih =>
    rcases hn : cell.next g clock with ⟨call, mid, after⟩
    rcases hr : mid.visits g clocks with ⟨rest, last⟩
    simp only [visits, hn, hr] at h
    cases h
    exact .cons hn (ih hr)

end Cell

end Snowflake
