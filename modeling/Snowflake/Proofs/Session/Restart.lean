import Snowflake.Proofs.Session.Trace

/-!
# Restarts

Of a generator that stops, its checkpoint is kept; another is built from settings that resume from
it. Everything else may be different the next time: the origin, the length of a tick, the rule for
a tick that is used up, the generator id, and the clock, which may have been set back.

Results:
* `Change.seed_changes`: changes that do not name the seed keep it.
* **`Succession.rises`**: over any number of restarts the identifiers issued rise.
* **`Life.resume_transparent`**: with the same settings, the resumed generator does what the one it
  was resumed from would have done.
-/

namespace Snowflake

/-! ## Settings that resume -/

/-- The change leaves the seed alone. -/
def Change.keepsSeed : Change → Bool
  | .lastTick _ => false
  | .lastSequence _ => false
  | .resumeFrom _ => false
  | _ => true

theorem Change.seed_change {settings : Settings} {c : Change} (h : c.keepsSeed = true) :
    (settings.change c).seed = settings.seed := by
  cases c with
  | lastTick | lastSequence | resumeFrom => exact absurd h (by simp [keepsSeed])
  | _ => rfl

theorem Change.seed_changes {settings : Settings} {list : List Change}
    (h : ∀ c ∈ list, c.keepsSeed = true) : (settings.changes list).seed = settings.seed := by
  induction list generalizing settings with
  | nil => rfl
  | cons c list ih =>
    have hrest : ((settings.change c).changes list).seed = (settings.change c).seed :=
      ih fun d hd => h d (List.mem_cons_of_mem _ hd)
    exact hrest.trans (seed_change (h c List.mem_cons_self))

/-! ## No identifier twice -/

namespace Life

variable {σ : Type} [Clock σ] (l : Life σ)

/-- The identifiers of a life lie above its seed. -/
theorem rank_lt_of_mem_ids : ∀ id ∈ l.ids, l.settings.seed.rank < id.rank := by
  obtain ⟨slots, cell, -, htrail, hids, -⟩ := l.trail
  intro id hmem
  rw [hids] at hmem
  obtain ⟨slot, hslot, rfl⟩ := List.mem_map.mp hmem
  rw [Slot.rank_toId (htrail.fits l.fits slot (List.mem_cons_of_mem _ hslot))]
  exact (List.pairwise_cons.mp (htrail.rank_pairwise l.fits)).1 slot hslot

/-- **The checkpoint of a life is a slot that fits, and nothing the life has issued, its seed
included, lies above it.** -/
theorem checkpoint_spec {last : Slot} (h : l.checkpoint = some (.ok last)) :
    last.Fits ∧ l.settings.seed.rank ≤ last.rank ∧ ∀ id ∈ l.ids, id.rank ≤ last.rank := by
  obtain ⟨slots, -, htrail, hids⟩ := l.trail_of_checkpoint h
  have hfits := htrail.fits l.fits
  have hle := htrail.rank_le_last l.fits
  refine ⟨hfits last htrail.last_mem, hle _ List.mem_cons_self, fun id hmem => ?_⟩
  rw [hids] at hmem
  obtain ⟨slot, hslot, rfl⟩ := List.mem_map.mp hmem
  rw [Slot.rank_toId (hfits slot (List.mem_cons_of_mem _ hslot))]
  exact hle slot (List.mem_cons_of_mem _ hslot)

end Life

/-- Generators that follow one another: the first is built from any settings, each later one from
any settings that resume from the checkpoint at the end of the one before. With it the identifiers
issued so far, in order, and the checkpoint at the end. -/
inductive Succession : List Id → Option (Except Error Slot) → Prop where
  | first {σ : Type} [Clock σ] (l : Life σ) : Succession l.ids l.checkpoint
  | resume {σ : Type} [Clock σ] {ids : List Id} {last : Slot}
      (past : Succession ids (some (.ok last))) (settings : Settings) (changes : List Change)
      (keeps : ∀ c ∈ changes, c.keepsSeed = true) (l : Life σ)
      (resumed : l.settings = (settings.change (.resumeFrom last)).changes changes) :
      Succession (ids ++ l.ids) l.checkpoint

/-- What a succession keeps: its identifiers rise, and none lies above its checkpoint. -/
theorem Succession.spec {ids : List Id} {checkpoint : Option (Except Error Slot)}
    (h : Succession ids checkpoint) :
    ids.Pairwise (fun a b => a.bits < b.bits) ∧
      ∀ last, checkpoint = some (.ok last) → ∀ id ∈ ids, id.rank ≤ last.rank := by
  induction h with
  | first l => exact ⟨l.ids_rise.tail, fun last h => (l.checkpoint_spec h).2.2⟩
  | @resume _ _ ids last past settings changes keeps l resumed ih =>
    obtain ⟨hrise, hbound⟩ := ih
    have hseed : l.settings.seed = last := by
      rw [resumed, Change.seed_changes keeps]
      rfl
    refine ⟨List.pairwise_append.mpr ⟨hrise, l.ids_rise.tail, fun a ha b hb => ?_⟩, ?_⟩
    · -- the seed lies between the identifiers before it and those after it
      have h1 := hbound last rfl a ha
      have h2 := l.rank_lt_of_mem_ids b hb
      rw [hseed] at h2
      exact Id.lt_of_rank_lt (Nat.lt_of_le_of_lt h1 h2)
    · intro last' hlast' id hmem
      obtain ⟨-, hle, hnew⟩ := l.checkpoint_spec hlast'
      rcases List.mem_append.mp hmem with hmem | hmem
      · rw [hseed] at hle
        exact Nat.le_trans (hbound last rfl id hmem) hle
      · exact hnew id hmem

/-- **Over any number of restarts identifiers rise**, so that none is issued twice. -/
theorem Succession.rises {ids : List Id} {checkpoint : Option (Except Error Slot)}
    (h : Succession ids checkpoint) :
    ids.Pairwise (fun a b => a.bits < b.bits) ∧ ids.Nodup :=
  ⟨h.spec.1, Id.nodup_of_rise h.spec.1⟩

/-- A generator that is called once on each of the readings. -/
def Life.onReadings (settings : Settings) (accepted : ∃ made, settings.build = .ok made)
    (readings : List UInt64) : Life Script where
  clock := ⟨[], 0⟩
  earlier := []
  settings := settings
  accepted := accepted
  later := readings.flatMap fun millis => [.clock ⟨[some millis], 0⟩, .call 0]

/-- Milliseconds are counted. -/
def Life.early : Life Script := onReadings ⟨1, 0, ⟨0, 0⟩, true, .millisecond⟩ ⟨_, rfl⟩ [5000, 5000]

/-- Seconds are counted, from another origin. The clock is set back after the first call. -/
def Life.middle : Life Script :=
  onReadings (((⟨1, 0, ⟨7, 7⟩, true, .millisecond⟩ : Settings).change
    (.resumeFrom ⟨5000, 1⟩)).changes [.inSeconds, .offset 10000]) ⟨_, rfl⟩ [2000, 0]

/-- Milliseconds again. The clock has been set back to the tick in which the one before stopped. -/
def Life.late : Life Script :=
  onReadings (((⟨9, 0, ⟨7, 7⟩, true, .millisecond⟩ : Settings).change
    (.resumeFrom ⟨10002, 0⟩)).changes [.noWait]) ⟨_, rfl⟩ [10002, 10003]

theorem Succession.rises_twice_resumed :
    ((Life.early.ids ++ Life.middle.ids) ++ Life.late.ids).map Id.slot =
        [⟨5000, 0⟩, ⟨5000, 1⟩, ⟨10002, 0⟩, ⟨10002, 1⟩, ⟨10003, 0⟩] ∧
      ((Life.early.ids ++ Life.middle.ids) ++ Life.late.ids).Nodup := by
  have hearly : Succession Life.early.ids (some (.ok ⟨5000, 1⟩)) := .first Life.early
  have hmiddle : Succession (Life.early.ids ++ Life.middle.ids) (some (.ok ⟨10002, 0⟩)) :=
    .resume hearly _ _ (by decide) Life.middle rfl
  exact ⟨by decide, (Succession.rises (.resume hmiddle _ _ (by decide) Life.late rfl)).2⟩

/-! ## The same generator again -/

/-- **Checkpoint and resume are transparent.** After a life in which the clock never failed there
is a checkpoint, and resuming from it with the same fixed part succeeds. From then on, whatever
state the clock is in, any number of calls of the resumed generator are the calls that the first
one would have made, and leave the same checkpoint and the same clock. -/
theorem Life.resume_transparent {σ : Type} [Clock σ] (l : Life σ)
    (hsound : ∀ call ∈ l.calls, call.faulted = false) {g : Nat} (hg : l.Shares g)
    (config : Settings) (hconfig : config.generator = l.settings.generator) :
    ∃ last resumed events,
      l.finish.checkpoint? g = some (.ok last) ∧
      l.finish.resume g config = some (.ok resumed, events) ∧
      ∀ (clock : σ) (n : Nat), ∃ calls s t,
        { l.finish with clock }.times g n = some (calls, s) ∧
        { resumed with clock }.times l.finish.handles.length n = some (calls, t) ∧
        s.checkpoint? g = t.checkpoint? l.finish.handles.length ∧ s.clock = t.clock := by
  obtain ⟨slots, cell, hat, htrail, -, hpoisoned⟩ := l.trail
  have hcell : cell.checkpoint = .ok cell.last := by
    apply Cell.checkpoint_of_sound
    rw [hpoisoned, Call.any_faulted_eq_false]
    exact hsound
  have hcheck : l.finish.checkpoint? g = some (.ok cell.last) := by
    rw [l.checkpoint?_of_shares hat hg, hcell]
  have hfits : (config.change (.resumeFrom cell.last)).seed.Fits :=
    htrail.fits l.fits _ htrail.last_mem
  let resumed := l.finish.add (config.change (.resumeFrom cell.last))
  have hresume : l.finish.resume g config =
      some (l.finish.build (config.change (.resumeFrom cell.last))) := by
    unfold Session.resume
    rw [hcheck]
    rfl
  rw [Session.build_eq_ok hfits] at hresume
  refine ⟨cell.last, resumed, _, hcheck, hresume, fun clock n => ?_⟩
  -- both generators lead to the same cell and the same fixed part
  have hfirst : { l.finish with clock }.find? g = some (⟨l.settings.generator, l.cell⟩, cell) :=
    l.find?_of_shares hat hg
  have hsecond : { resumed with clock }.find? l.finish.handles.length =
      some (⟨l.settings.generator, l.finish.cells.length⟩, cell) := by
    rw [Cell.checkpoint_eq_ok hcell, ← hconfig]
    exact Session.find?_eq_some.mpr ⟨List.getElem?_concat_length, List.getElem?_concat_length⟩
  rcases hcalls : cell.times l.settings.generator clock n with ⟨calls, cell', clock'⟩
  obtain ⟨s, hs, hsfind, hsclock⟩ := Session.times_of_find? hfirst hcalls
  obtain ⟨t, ht, htfind, htclock⟩ := Session.times_of_find? hsecond hcalls
  refine ⟨calls, s, t, hs, ht, ?_, hsclock.trans htclock.symm⟩
  unfold Session.checkpoint?
  rw [hsfind, htfind]
  rfl

/-- A life that has come to the last tick, resumed from its clone with another seed in the settings.
-/
theorem Life.resume_transparent_to_the_end :
    ∃ resumed events,
      toTheEnd.finish.resume 1 ⟨5, 0, ⟨0, 0⟩, true, .millisecond⟩ = some (.ok resumed, events) ∧
      ∀ (clock : Script) (n : Nat), ∃ calls s t,
        { toTheEnd.finish with clock }.times 1 n = some (calls, s) ∧
        { resumed with clock }.times 2 n = some (calls, t) ∧
        s.checkpoint? 1 = t.checkpoint? 2 ∧ s.clock = t.clock := by
  have hclone : toTheEnd.Shares 1 := ⟨_, rfl, rfl⟩
  obtain ⟨_, resumed, events, -, hresume, hsame⟩ :=
    toTheEnd.resume_transparent (by decide) hclone ⟨5, 0, ⟨0, 0⟩, true, .millisecond⟩ rfl
  exact ⟨resumed, events, hresume, hsame⟩

end Snowflake
