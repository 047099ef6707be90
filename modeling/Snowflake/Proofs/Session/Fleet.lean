import Snowflake.Proofs.Id.Canonical
import Snowflake.Proofs.Session.Run
import Snowflake.Proofs.Settings.Origin

/-!
# Fleets

A `Fleet` is any number of generators made from new settings, each with a generator id of its own,
in a run in which they are called in any order, through themselves or through clones. They have
nothing in common but the clock, which a run may put into any state before a call: so each
generator may as well have a clock of its own, which need not agree with the others.

On one cell identifiers rise; on different cells they tell different generator ids. So the whole
fleet issues none twice.

Results:
* `Log.ids_nodup`: from the identifiers of each cell to those of all.
* `Fleet.exists_slot`: each identifier is that of a slot that fits, for the generator called.
* **`Fleet.ids_unique`**: what each identifier tells, and that no two are the same.
-/

namespace Snowflake

/-! ## The identifiers of a log -/

namespace Log

/-- The identifiers issued, in their order. -/
def ids (log : Log) : List Id := Call.ids (log.map Prod.snd)

/-- What holds among the calls on each cell and between the calls on any two holds among all. -/
theorem pairwise_of_cells {R : Handle × Call → Handle × Call → Prop} {log : Log}
    (same : ∀ c, (log.filter fun e => e.1.cell = c).Pairwise R)
    (other : ∀ a ∈ log, ∀ b ∈ log, a.1.cell ≠ b.1.cell → R a b) : log.Pairwise R := by
  induction log with
  | nil => exact .nil
  | cons a log ih =>
    refine .cons (fun b hb => ?_) (ih (fun c => ?_) fun x hx y hy => ?_)
    · by_cases hcell : b.1.cell = a.1.cell
      · have hsame := same a.1.cell
        rw [List.filter_cons_of_pos (by simp)] at hsame
        exact (List.pairwise_cons.mp hsame).1 b (List.mem_filter.mpr ⟨hb, decide_eq_true hcell⟩)
      · exact other a List.mem_cons_self b (List.mem_cons_of_mem _ hb) (Ne.symm hcell)
    · exact (same c).sublist ((List.sublist_cons_self a log).filter _)
    · exact other x (List.mem_cons_of_mem _ hx) y (List.mem_cons_of_mem _ hy)

/-- **No identifier is issued twice if none is on one cell and none is on two.** -/
theorem ids_nodup {log : Log} (same : ∀ c, (Call.ids (log.on c)).Nodup)
    (other : ∀ a ∈ log, ∀ b ∈ log, a.1.cell ≠ b.1.cell →
      ∀ id, a.2.id? = some id → ∀ id', b.2.id? = some id' → id ≠ id') : log.ids.Nodup := by
  unfold ids Call.ids List.Nodup
  rw [List.pairwise_filterMap, List.pairwise_map]
  refine pairwise_of_cells (fun c => ?_) other
  have hsame := same c
  unfold Call.ids on List.Nodup at hsame
  rw [List.pairwise_filterMap, List.pairwise_map] at hsame
  exact hsame

theorem mem_ids_on {log : Log} {e : Handle × Call} {id : Id} (h : e ∈ log)
    (hid : e.2.id? = some id) : id ∈ Call.ids (log.on e.1.cell) := by
  have hon : e.2 ∈ log.on e.1.cell :=
    List.mem_map_of_mem (List.mem_filter.mpr ⟨h, decide_eq_true rfl⟩)
  exact List.mem_filterMap.mpr ⟨e.2, hon, hid⟩

end Log

/-! ## Generators with ids of their own -/

/-- Generators made from new settings, in a run of a session that begins with the clock in some
state. Those that are not clones of one another have different generator ids. -/
structure Fleet (σ : Type) [Clock σ] where
  clock : σ
  /-- Generators are made and called, and the clock is moved. -/
  steps : List (Session.Step σ)
  /-- All settings are new ones. -/
  fresh : ∀ settings ∈ steps.filterMap Session.Step.settings?, settings.Fresh
  /-- Cells do not share a generator id. -/
  apart : ∀ a ∈ ((Session.start clock).run steps).1.handles,
    ∀ b ∈ ((Session.start clock).run steps).1.handles,
      a.cell ≠ b.cell → a.generator.generatorId ≠ b.generator.generatorId

namespace Fleet

variable {σ : Type} [Clock σ] (f : Fleet σ)

/-- The session at the end. -/
def finish : Session σ := ((Session.start f.clock).run f.steps).1

/-- The calls made, each with the generator it went through. -/
def log : Log := ((Session.start f.clock).run f.steps).2

theorem mem_handles : ∀ e ∈ f.log, e.1 ∈ f.finish.handles := Session.run_mem_handles f.steps

/-- Generator ids are those that are given out. -/
theorem generatorId_le : ∀ handle ∈ f.finish.handles,
    handle.generator.generatorId ≤ Layout.maxGeneratorId := by
  intro handle hmem
  rcases Session.run_generators f.steps handle hmem with h | ⟨st, hst, settings, hsettings, heq⟩
  · exact absurd h List.not_mem_nil
  · rw [heq]
    exact (f.fresh settings (List.mem_filterMap.mpr ⟨st, hst, hsettings⟩)).generatorId_le

/-- The cell of a generator serves a row of calls, all through generators with one fixed part. -/
theorem served {handle : Handle} (h : handle ∈ f.finish.handles) :
    ∃ (seed : Slot) (cell : Cell), seed.Fits ∧
      (Cell.new seed).Serves handle.generator (f.log.on handle.cell) cell := by
  have hstart := Session.start_closed f.clock
  have hclosed : f.finish.Closed := Session.run_closed f.steps hstart
  obtain ⟨settings, cell, hfits, hat, hserves⟩ :=
    Session.run_served f.steps hstart (Nat.zero_le _) (hclosed handle h)
  rw [hat.generator handle h rfl]
  exact ⟨settings.seed, cell, hfits, hserves⟩

/-- **Each identifier is that of a slot that fits, for the generator called.** -/
theorem exists_slot {e : Handle × Call} (h : e ∈ f.log) {id : Id} (hid : e.2.id? = some id) :
    ∃ slot : Slot, slot.Fits ∧ id = slot.toId e.1.generator.generatorId := by
  obtain ⟨seed, cell, hfits, hserves⟩ := f.served (f.mem_handles e h)
  exact hserves.exists_slot hfits id (Log.mem_ids_on h hid)

/-- Each identifier is canonical and tells the generator called. -/
theorem isOwn {e : Handle × Call} (h : e ∈ f.log) {id : Id} (hid : e.2.id? = some id) :
    id.isCanonical = true ∧ id.generatorId = e.1.generator.generatorId := by
  obtain ⟨slot, hfits, rfl⟩ := f.exists_slot h hid
  exact (Slot.isOwn_toId_iff hfits _).mpr (f.generatorId_le e.1 (f.mem_handles e h))

/-- On one cell no identifier is issued twice. -/
theorem nodup_on (c : Nat) : (Call.ids (f.log.on c)).Nodup := by
  by_cases hc : ∃ e ∈ f.log, e.1.cell = c
  · obtain ⟨e, hmem, rfl⟩ := hc
    obtain ⟨seed, cell, hfits, hserves⟩ := f.served (f.mem_handles e hmem)
    exact (Id.nodup_of_rise (hserves.ids_rise hfits)).tail
  · have hnone : f.log.on c = [] := Log.on_eq_nil fun e hmem heq => hc ⟨e, hmem, heq⟩
    rw [hnone]
    exact List.nodup_nil

/-- **A fleet issues no identifier twice.** Each identifier tells the generator it was issued by, in
its generator field and in its low byte, is canonical, and is built again from its fields. -/
theorem ids_unique :
    (∀ e ∈ f.log, ∀ id, e.2.outcome = .issued id →
      id.generatorId = e.1.generator.generatorId ∧
      id.bits.toUInt8.toUInt16 = e.1.generator.generatorId ∧
      id.isCanonical = true ∧
      Id.ofParts id.timestamp id.sequence id.generatorId = .ok id) ∧
    f.log.ids.Nodup := by
  constructor
  · intro e hmem id hissued
    obtain ⟨hcanonical, hown⟩ := f.isOwn hmem (Call.id?_of_issued hissued)
    refine ⟨hown, ?_, hcanonical, Id.ofParts_fields hcanonical⟩
    rw [← hown]
    exact Id.toUInt8_bits hcanonical
  · refine Log.ids_nodup f.nodup_on fun a ha b hb hcell id hid id' hid' heq => ?_
    obtain ⟨-, hown⟩ := f.isOwn ha hid
    obtain ⟨-, hown'⟩ := f.isOwn hb hid'
    rw [heq] at hown
    exact f.apart _ (f.mem_handles a ha) _ (f.mem_handles b hb) hcell (hown.symm.trans hown')

/-- Settings of generator 5, which counts milliseconds and waits. -/
def fiveSettings : Settings := ⟨5, 0, ⟨0, 2046⟩, true, .millisecond⟩

/-- Settings of generator 6, which counts seconds from another origin and does not wait. -/
def sixSettings : Settings := ⟨6, -100, ⟨3, 0⟩, false, .second⟩

/-- Two generators and a clone of the first, called in turns. The first is called on readings that
stand still and go back, the second on a clock of another kind, which is ahead. -/
def duo : Fleet Source where
  clock := .script ⟨[some 0], 0⟩
  steps :=
    [.build fiveSettings, .build sixSettings, .clone 0,
      .call 0, .clock (.monotonic (.start 107000)), .call 1,
      .clock (.script ⟨[some 0, some 7], 0⟩), .call 2, .clock (.monotonic (.start 107000)), .call 1,
      .clock (.script ⟨[some 3, some 7], 0⟩), .call 0, .call 2]
  fresh := by
    intro settings hmem
    change settings ∈ [fiveSettings, sixSettings] at hmem
    rcases List.mem_cons.mp hmem with rfl | hmem
    · exact ⟨5, _, [.offset 0, .lastSequence 2046], rfl, rfl⟩
    · rw [List.mem_singleton.mp hmem]
      exact ⟨6, _, [.offset (-100), .lastTick 3, .noWait, .inSeconds], rfl, rfl⟩
  apart := by decide

theorem ids_unique_duo :
    duo.log.ids.map (fun id => (id.generatorId, id.slot)) =
        [(5, ⟨0, 2047⟩), (6, ⟨7, 0⟩), (5, ⟨7, 0⟩), (6, ⟨7, 1⟩), (5, ⟨7, 1⟩)] ∧
      duo.log.ids.Nodup :=
  ⟨by decide, duo.ids_unique.2⟩

end Fleet

end Snowflake
