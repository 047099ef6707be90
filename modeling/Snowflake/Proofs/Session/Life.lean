import Snowflake.Proofs.Session.Run

/-!
# The life of a generator

A `Life` follows one generator from the settings it was built from to the end of a run of its
session, together with its clones. They are the generators on its cell: the calls on the cell are
the calls made through it and its clones, in their order.

The session has one clock in a state of any type, and a run may put it into any state. So each
call, through whichever clone, may find whatever readings there are.

Results:
* **`Life.serves`**: the life of a generator is a row of calls on a cell, from the seed on.
* `Life.checkpoint?_of_shares`: the generator and its clones have one checkpoint.
-/

namespace Snowflake

/-- A generator from its building on: the session begins with the clock in some state and goes
through the steps `earlier`, the generator is built, and the steps `later` are taken. -/
structure Life (σ : Type) [Clock σ] where
  clock : σ
  earlier : List (Session.Step σ)
  /-- What the generator is built from. -/
  settings : Settings
  /-- Building succeeds. -/
  accepted : ∃ made, settings.build = .ok made
  later : List (Session.Step σ)

namespace Life

variable {σ : Type} [Clock σ] (l : Life σ)

/-- The session that the generator is built in. -/
def before : Session σ := ((Session.start l.clock).run l.earlier).1

/-- The session and the calls made in it, from the building on. -/
def story : Session σ × Log := (l.before.step (.build l.settings)).1.run l.later

/-- The session at the end. -/
def finish : Session σ := l.story.1

/-- The number of the generator. -/
def handle : Nat := l.before.handles.length

/-- The number of its cell. -/
def cell : Nat := l.before.cells.length

/-- The generator `g` is this one or a clone: it is on the same cell. -/
def Shares (g : Nat) : Prop := ∃ handle, l.finish.handles[g]? = some handle ∧ handle.cell = l.cell

/-- The generator and its clones. -/
def sharers : List Handle := l.finish.handles.filter fun handle => handle.cell = l.cell

/-- The calls made through the generator and its clones. -/
def calls : List Call := l.story.2.on l.cell

/-- The identifiers it issued, clones included. -/
def ids : List Id := Call.ids l.calls

/-- The seed, then what the identifiers tell. -/
def slots : List Slot := l.settings.seed :: l.ids.map Id.slot

/-- The checkpoint at the end. -/
def checkpoint : Option (Except Error Slot) := l.finish.checkpoint? l.handle

theorem fits : l.settings.seed.Fits := by
  obtain ⟨made, h⟩ := l.accepted
  apply Slot.check_eq_ok_iff.mp
  unfold Settings.build Settings.construct at h
  cases hc : l.settings.seed.check with
  | ok => rfl
  | error error => rw [hc] at h; exact absurd h (by simp)

theorem built : (l.before.step (.build l.settings)).1 = l.before.add l.settings := by
  rw [Session.step_build l.fits]

/-- **To its cell, the life of a generator is a row of calls** that begins at the seed. -/
theorem serves : ∃ cell, l.finish.At l.cell l.settings.generator cell ∧
    (Cell.new l.settings.seed).Serves l.settings.generator l.calls cell := by
  have hclosed : l.before.Closed :=
    Session.run_closed l.earlier (Session.start_closed l.clock)
  have h := Session.run_at l.later (Session.add_at hclosed l.settings)
  rw [← l.built] at h
  exact h

/-- The generator is on its cell. -/
theorem shares_handle : l.Shares l.handle := by
  have hadd : (l.before.add l.settings).handles[l.handle]? =
      some ⟨l.settings.generator, l.cell⟩ := List.getElem?_concat_length
  rw [← l.built] at hadd
  exact ⟨_, Session.run_handles_getElem? hadd l.later, rfl⟩

/-- What a generator on the cell leads to. -/
theorem find?_of_shares {g : Nat} {cell : Cell}
    (hat : l.finish.At l.cell l.settings.generator cell) (h : l.Shares g) :
    l.finish.find? g = some (⟨l.settings.generator, l.cell⟩, cell) := by
  obtain ⟨handle, hg, hcell⟩ := h
  have hgen := hat.generator handle (List.mem_of_getElem? hg) hcell
  refine Session.find?_eq_some.mpr ⟨?_, hat.cell⟩
  rw [hg, ← hgen, ← hcell]

theorem checkpoint?_of_shares {g : Nat} {cell : Cell}
    (hat : l.finish.At l.cell l.settings.generator cell) (h : l.Shares g) :
    l.finish.checkpoint? g = some cell.checkpoint :=
  Session.checkpoint?_of_find? (l.find?_of_shares hat h)

end Life

end Snowflake
