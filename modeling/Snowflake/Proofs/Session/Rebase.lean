import Snowflake.Proofs.Generator.Rebase
import Snowflake.Proofs.Session.Failure

/-!
# Sessions with another origin of time

A session in turns, each with readings on a tape, and the same session with the origins of all its
generators moved by some seconds and all its readings later by as much. Looking a generator up,
adding one and calling one all commute with the move. So the two go through the same turns: they
make the same calls, with the same identifiers, errors and sleeps, and leave the same checkpoints.

Results:
* `Session.turn_rebase`: one turn with other origins is that turn.
* **`Session.turns_rebase`**: so is a run in turns.
* **`Session.offset_is_origin`**: calls and checkpoints do not tell the two runs apart.
-/

namespace Snowflake

/-! ## Everything with another origin -/

/-- The settings with an origin that is moved by `k` seconds. -/
def Settings.rebase (k : Int) (settings : Settings) : Settings :=
  { settings with offset := rebaseOffset k settings.offset }

/-- The handle of the generator with the other origin. -/
def Handle.rebase (k : Int) (handle : Handle) : Handle :=
  { handle with generator := handle.generator.rebase k }

/-- The calls of generators with the other origin. The calls are the same. -/
def Log.rebase (k : Int) (log : Log) : Log := log.map fun e => (e.1.rebase k, e.2)

theorem Log.calls_rebase (k : Int) (log : Log) :
    (log.rebase k).map Prod.snd = log.map Prod.snd := by
  unfold rebase
  rw [List.map_map]
  rfl

namespace Session

/-- The session with other origins and later readings. Its cells are the same. -/
def rebase (k : Int) (s : Session Tape) : Session Tape :=
  ⟨s.clock.rebase k, s.cells, s.handles.map (Handle.rebase k)⟩

/-- The step with other origins and later readings. -/
def Step.rebase (k : Int) : Step Tape → Step Tape
  | .build settings => .build (settings.rebase k)
  | .clone g => .clone g
  | .resume g settings => .resume g (settings.rebase k)
  | .call g => .call g
  | .clock tape => .clock (tape.rebase k)

/-- The turn with other origins and later readings. -/
def Turn.rebase (k : Int) (t : Turn Tape) : Turn Tape := ⟨t.clock.rebase k, t.step.rebase k⟩

/-- The origins of all generators can be moved. -/
def OriginsMove (k : Int) (s : Session Tape) : Prop :=
  ∀ handle ∈ s.handles, OffsetMoves k handle.generator.offset

/-- The readings of the turn can be later, and the origin of a generator that it makes can be moved.
-/
def Turn.OriginMoves (k : Int) (t : Turn Tape) : Prop :=
  (∀ millis ∈ t.clock.readings, ReadingMoves k millis) ∧
    ∀ settings ∈ t.step.settings?, OffsetMoves k settings.offset

instance (k : Int) (t : Turn Tape) : Decidable (t.OriginMoves k) :=
  @instDecidableAnd _ _ (List.decidableBAll _ _) (Option.decidableForallMem _)

variable {k : Int} {s : Session Tape} {t : Turn Tape}

/-! ## Looking generators up -/

theorem handles_rebase_getElem? (g : Nat) :
    (s.rebase k).handles[g]? = s.handles[g]?.map (Handle.rebase k) := List.getElem?_map

theorem find?_rebase (g : Nat) :
    (s.rebase k).find? g = (s.find? g).map fun (handle, cell) => (handle.rebase k, cell) := by
  unfold find?
  rw [handles_rebase_getElem?]
  cases s.handles[g]? with
  | none => rfl
  | some handle =>
    change (do let cell ← s.cells[handle.cell]?; some (handle.rebase k, cell)) =
      (do let cell ← s.cells[handle.cell]?; some (handle, cell)).map _
    cases s.cells[handle.cell]? <;> rfl

theorem checkpoint?_rebase (g : Nat) : (s.rebase k).checkpoint? g = s.checkpoint? g := by
  unfold checkpoint?
  rw [find?_rebase, Option.map_map]
  rfl

/-! ## Making generators -/

theorem add_rebase (settings : Settings) :
    (s.rebase k).add (settings.rebase k) = (s.add settings).rebase k := by
  unfold add rebase
  rw [List.map_append]
  rfl

/-- Building fails with other origins exactly if it does: the seed is the same. -/
theorem extend_rebase (settings : Settings) :
    (s.rebase k).extend ((s.rebase k).build (settings.rebase k)).1 =
      (s.extend (s.build settings).1).rebase k := by
  by_cases hfits : settings.seed.Fits
  · have hfits' : (settings.rebase k).seed.Fits := hfits
    rw [build_eq_ok hfits, build_eq_ok hfits']
    exact add_rebase settings
  · have hfits' : ¬ (settings.rebase k).seed.Fits := hfits
    rw [extend_of_misfit s hfits, extend_of_misfit _ hfits']

/-! ## Turns -/

/-- A step with other origins is that step, one constructor at a time. -/
theorem step_rebase (st : Step Tape) (hs : s.OriginsMove k)
    (hreadings : ∀ millis ∈ s.clock.readings, ReadingMoves k millis) :
    (s.rebase k).step (st.rebase k) = ((s.step st).1.rebase k, (s.step st).2.rebase k) := by
  cases st with
  | build settings => exact Prod.ext (extend_rebase settings) rfl
  | clone g =>
    simp only [step, Step.rebase, clone, handles_rebase_getElem?]
    cases s.handles[g]? with
    | none => rfl
    | some handle =>
      refine Prod.ext ?_ rfl
      simp [rebase]
  | resume g settings =>
    simp only [step, Step.rebase, resume, checkpoint?_rebase]
    cases s.checkpoint? g with
    | none => rfl
    | some checkpoint =>
      cases checkpoint with
      | error error => rfl
      | ok slot => exact Prod.ext (extend_rebase (settings.change (.resumeFrom slot))) rfl
  | call g =>
    cases hf : s.find? g with
    | none =>
      simp only [step, Step.rebase, next, find?_rebase, hf]
      cases s.handles[g]? <;> cases (s.rebase k).handles[g]? <;> rfl
    | some found =>
      obtain ⟨handle, cell⟩ := found
      have hh := (find?_eq_some.mp hf).1
      have hf' : (s.rebase k).find? g = some (handle.rebase k, cell) := by
        rw [find?_rebase, hf]
        rfl
      have hh' := (find?_eq_some.mp hf').1
      rcases hmade : cell.next handle.generator s.clock with ⟨call, cell', clock'⟩
      have hmade' : cell.next (handle.rebase k).generator (s.rebase k).clock =
          (call, cell', clock'.rebase k) :=
        Cell.next_rebase (hs handle (List.mem_of_getElem? hh)) hreadings hmade
      have hcall := step_call hh' (next_of_find? hf' hmade')
      rw [step_call hh (next_of_find? hf hmade)]
      exact hcall
  | clock tape => rfl

/-- **A turn with other origins is that turn.** -/
theorem turn_rebase (hs : s.OriginsMove k) (ht : t.OriginMoves k) :
    (s.rebase k).turn (t.rebase k) = ((s.turn t).1.rebase k, (s.turn t).2.rebase k) := by
  have hstep := @step_rebase k { s with clock := t.clock } t.step hs ht.1
  exact hstep

/-- After a turn the origins can still be moved. -/
theorem turn_originsMove (hs : s.OriginsMove k) (ht : t.OriginMoves k) :
    (s.turn t).1.OriginsMove k := by
  intro handle hmem
  rcases step_generators t.step handle hmem with hold | ⟨settings, hmade, hgen⟩
  · exact hs handle hold
  · rw [hgen]
    exact ht.2 settings hmade

/-- **A run with other origins is that run.** -/
theorem turns_rebase {list : List (Turn Tape)} (hs : s.OriginsMove k)
    (hlist : ∀ t ∈ list, t.OriginMoves k) :
    (s.rebase k).turns (list.map (Turn.rebase k)) =
      (s.turns list).map fun after => (after.1.rebase k, after.2.rebase k) := by
  induction list generalizing s with
  | nil => rfl
  | cons first rest ih =>
    have hfirst := hlist first List.mem_cons_self
    simp only [List.map_cons, turns]
    rw [turn_rebase hs hfirst]
    exact congrArg _ (ih (turn_originsMove hs hfirst) fun t ht =>
      hlist t (List.mem_cons_of_mem _ ht))

/-! ## What can be told -/

/-- **The offset is only a change of origin.** Move the origins of all generators of a session by
`k` seconds, and let every reading of its run be as much later. Then each turn makes the same call,
with the same identifier or the same error, the same sleeps and the same reports, and every
generator has the same checkpoint after it. -/
theorem offset_is_origin {list : List (Turn Tape)} (hs : s.OriginsMove k)
    (hlist : ∀ t ∈ list, t.OriginMoves k) :
    (((s.rebase k).turns (list.map (Turn.rebase k))).map fun after => after.2.map Prod.snd) =
        ((s.turns list).map fun after => after.2.map Prod.snd) ∧
      (((s.rebase k).turns (list.map (Turn.rebase k))).map fun after => after.1.checkpoint?) =
        ((s.turns list).map fun after => after.1.checkpoint?) := by
  rw [turns_rebase hs hlist, List.map_map, List.map_map]
  constructor
  · exact List.map_congr_left fun after _ => after.2.calls_rebase k
  · exact List.map_congr_left fun after _ => funext checkpoint?_rebase

/-- Turns of a generator that counts seconds from an origin after 1970, and of one whose ticks lie
past the end of the word. -/
def farOrigins : List (Turn Tape) :=
  [⟨⟨[]⟩, .build ⟨1, -10, ⟨7, 2047⟩, true, .second⟩⟩, ⟨⟨[17250, 18000]⟩, .call 0⟩,
    ⟨⟨[]⟩, .build ⟨2, 9223372036854775807, ⟨0, 0⟩, true, .millisecond⟩⟩, ⟨⟨[7]⟩, .call 1⟩]

/-- Three seconds later the first generator still sleeps for three quarters of a second and issues
number zero of the eighth, and the second is still refused with the tick at the end of the word. -/
theorem offset_is_origin_farOrigins :
    farOrigins.map (Turn.rebase 3) =
        [⟨⟨[]⟩, .build ⟨1, -13, ⟨7, 2047⟩, true, .second⟩⟩, ⟨⟨[20250, 21000]⟩, .call 0⟩,
          ⟨⟨[]⟩, .build ⟨2, 9223372036854775804, ⟨0, 0⟩, true, .millisecond⟩⟩,
          ⟨⟨[3007]⟩, .call 1⟩] ∧
      (((start (Tape.mk [])).turns (farOrigins.map (Turn.rebase 3))).map fun after =>
          after.2.map Prod.snd).flatten.map (fun call => (call.outcome, call.sleeps)) =
        [(.issued ((⟨8, 0⟩ : Slot).toId 1), [750]),
          (.refused (.timestampOverflow 9223372036854775807), [])] ∧
      (((start (Tape.mk [])).turns (farOrigins.map (Turn.rebase 3))).map fun after =>
          after.1.checkpoint?).map (fun look => look 0) =
        [some (.ok ⟨7, 2047⟩), some (.ok ⟨8, 0⟩), some (.ok ⟨8, 0⟩), some (.ok ⟨8, 0⟩)] := by
  have hstart : (start (Tape.mk [])).OriginsMove 3 := fun handle hmem =>
    absurd hmem List.not_mem_nil
  have hturns : ∀ t ∈ farOrigins, t.OriginMoves 3 := by decide
  obtain ⟨hcalls, hchecks⟩ := offset_is_origin hstart hturns
  have hsame : (start (Tape.mk [])).rebase 3 = start (Tape.mk []) := rfl
  rw [hsame] at hcalls hchecks
  refine ⟨rfl, ?_, ?_⟩
  · rw [hcalls]
    decide
  · rw [hchecks]
    rfl

end Session

end Snowflake
