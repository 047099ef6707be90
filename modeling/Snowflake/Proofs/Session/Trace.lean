import Snowflake.Proofs.Session.Life

/-!
# The trace of a generator

What the identifiers of a generator tell, in the order in which they were issued and after the
seed, is a trail: each slot follows the one before it. This holds for every life, whatever the
clock reads, whoever calls, and however many calls fail in between.

Results:
* `Life.trail`: the identifiers of a life are those of a trail from the seed.
* `Life.ids_rise`: they rise.
* **`Life.trace_law`**: neighbours follow one another, identifiers rise, no number is left out, and
  the checkpoint is the end of the trail.
-/

namespace Snowflake

namespace Life

variable {σ : Type} [Clock σ] (l : Life σ)

/-- **The identifiers of a life are those of a trail** from the seed to the last slot in the cell. -/
theorem trail : ∃ slots cell, l.finish.At l.cell l.settings.generator cell ∧
    Slot.Trail l.settings.seed slots cell.last ∧
    l.ids = slots.map (fun slot => slot.toId l.settings.generatorId) ∧
    cell.poisoned = l.calls.any Call.faulted := by
  obtain ⟨cell, hat, hserves⟩ := l.serves
  obtain ⟨slots, htrail, hids⟩ := hserves.trail l.fits
  refine ⟨slots, cell, hat, htrail, hids, ?_⟩
  rw [hserves.poisoned]
  rfl

/-- The slots of a trail are read back from its identifiers. -/
theorem map_slot_ids {slots : List Slot} (hfits : ∀ slot ∈ slots, slot.Fits)
    (hids : l.ids = slots.map fun slot => slot.toId l.settings.generatorId) :
    l.ids.map Id.slot = slots := by
  rw [hids, List.map_map]
  refine (List.map_congr_left fun slot hmem => ?_).trans (List.map_id slots)
  exact Slot.slot_toId (hfits slot hmem) _

/-- **The identifiers of a life rise**, from the seed's on. -/
theorem ids_rise : (l.settings.seed.toId l.settings.generatorId :: l.ids).Pairwise
    fun a b => a.bits < b.bits := by
  obtain ⟨cell, -, hserves⟩ := l.serves
  exact hserves.ids_rise l.fits

/-- A checkpoint at the end is the last slot of the trail, on a lock that is not poisoned. -/
theorem trail_of_checkpoint {last : Slot} (h : l.checkpoint = some (.ok last)) :
    ∃ slots, l.finish.At l.cell l.settings.generator (.new last) ∧
      Slot.Trail l.settings.seed slots last ∧
      l.ids = slots.map fun slot => slot.toId l.settings.generatorId := by
  obtain ⟨slots, cell, hat, htrail, hids, -⟩ := l.trail
  have hcell : cell = .new last := by
    unfold checkpoint at h
    rw [l.checkpoint?_of_shares hat l.shares_handle] at h
    exact Cell.checkpoint_eq_ok (Option.some.inj h)
  subst hcell
  exact ⟨slots, hat, htrail, hids⟩

/-- **The trace law.** The slots of a life, the seed first, follow one another; its identifiers rise
from the seed's on, so that none is issued twice and the seed's is never issued; no number between
two slots of one tick is left out. When every call has returned, the last slot is the checkpoint of
the generator and of each of its clones. Since `l` may end after any of its calls, so it is after
each of them. -/
theorem trace_law :
    l.slots.IsChain Slot.Follows ∧
    (l.settings.seed.toId l.settings.generatorId :: l.ids).Pairwise (fun a b => a.bits < b.bits) ∧
    (l.settings.seed.toId l.settings.generatorId :: l.ids).Nodup ∧
    (∀ x ∈ l.slots, ∀ y ∈ l.slots, x.tick = y.tick → ∀ n, x.sequence ≤ n → n ≤ y.sequence →
      ⟨x.tick, n⟩ ∈ l.slots) ∧
    ((∀ call ∈ l.calls, call.returned = true) → ∀ g, l.Shares g →
      l.finish.checkpoint? g = some (.ok (l.slots.getLast (List.cons_ne_nil _ _)))) := by
  obtain ⟨slots, cell, hat, htrail, hids, hpoisoned⟩ := l.trail
  have hfits := htrail.fits l.fits
  have hslots : l.slots = l.settings.seed :: slots := by
    unfold Life.slots
    rw [l.map_slot_ids (fun slot hmem => hfits slot (List.mem_cons_of_mem _ hmem)) hids]
  refine ⟨?_, l.ids_rise, Id.nodup_of_rise l.ids_rise, ?_, ?_⟩
  · rw [hslots]
    exact htrail.isChain
  · intro x hx y hy htick n hxn hny
    rw [hslots] at hx hy ⊢
    exact htrail.mem_of_between l.fits x hx y hy htick hxn hny
  · intro hreturned g hg
    have hsound : cell.poisoned = false := by
      rw [hpoisoned, Call.any_faulted_eq_false]
      exact fun call hmem => Call.faulted_of_returned (hreturned call hmem)
    have hlast : l.slots.getLast (List.cons_ne_nil _ _) = cell.last := by
      rw [← htrail.getLast_eq]
      congr 1
    rw [l.checkpoint?_of_shares hat hg, hlast, Cell.checkpoint_of_sound hsound]

/-- A generator with a clone, from the next to last number of the next to last tick to the end of
the timestamp field: calls through both, on a clock that is set back once, that makes a call wait
once and that goes too far in the end. -/
def toTheEnd : Life Script where
  clock := ⟨[some 4398046511102], 0⟩
  earlier := []
  settings := ⟨5, 0, ⟨4398046511102, 2046⟩, true, .millisecond⟩
  accepted := ⟨_, rfl⟩
  later :=
    [.clone 0, .call 1, .clock ⟨[some 7], 0⟩, .call 0,
      .clock ⟨[some 4398046511102, some 4398046511103], 0⟩, .call 0,
      .clock ⟨[some 4398046511104], 0⟩, .call 1]

theorem trace_law_to_the_end :
    toTheEnd.slots = [⟨4398046511102, 2046⟩, ⟨4398046511102, 2047⟩, ⟨4398046511103, 0⟩] ∧
      toTheEnd.slots.IsChain Slot.Follows ∧
      toTheEnd.finish.checkpoint? 1 = some (.ok ⟨4398046511103, 0⟩) := by
  obtain ⟨hchain, -, -, -, hcheck⟩ := toTheEnd.trace_law
  have hclone : toTheEnd.Shares 1 := ⟨_, rfl, rfl⟩
  exact ⟨by decide, hchain, hcheck (by decide) 1 hclone⟩

end Life

end Snowflake
