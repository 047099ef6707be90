import Snowflake.Proofs.Session.Run

/-!
# Poisoned cells

A clock that fails in a call poisons the cell that the call holds, for good and for every generator
on it. Nothing else poisons a cell, and a cell is all that a call changes besides the clock. So what
a generator on another cell answers from then on depends on its cell and on the clocks that its calls
find, such as tapes with the readings they are to take, and is the same without the call that failed
(`Session.AnswersAs`).

Results:
* `Cell.next_ne_lockPoisoned`: a call on a cell that is not poisoned is not refused for it.
* `Session.find?_of_run`: a cell is poisoned exactly if the clock has failed in a call on it.
* **`Session.shut_of_faulted`**: its generators are shut for good.
* **`Session.At.answersAs`**: generators with the same fixed part on equal cells answer alike.
* **`Session.poison_law`**: poisoning is permanent, has no other cause, and is contained.
-/

namespace Snowflake

variable {σ : Type} [Clock σ]

/-! ## One cell -/

namespace Generator

variable {g : Generator} {last : Slot}

theorem attempt_ne_lockPoisoned {millis : UInt64} {reports : List Event} :
    g.attempt last millis ≠ .refuse .lockPoisoned reports := by
  intro h
  cases leadsTo_of_attempt h

theorem await_ne_lockPoisoned {waited : Bool} {patience : Nat} {clock clock' : σ} {call : Call}
    {slot : Slot} (h : g.await last waited patience clock = (call, slot, clock')) :
    call.outcome ≠ .refused .lockPoisoned := by
  rw [await_eq_iff] at h
  induction h with
  | unfinished => simp [Call.immediate]
  | fault => simp [Call.single]
  | issue => simp [Call.single]
  | refuse _ attempt =>
    intro heq
    rw [Outcome.refused.inj heq] at attempt
    exact attempt_ne_lockPoisoned attempt
  | wait _ _ _ ih => exact ih -- the call ends as what comes after the wait does

end Generator

/-- A call on a cell that is not poisoned is not refused for it. -/
theorem Cell.next_ne_lockPoisoned {cell cell' : Cell} {g : Generator} {clock clock' : σ}
    {call : Call} (hsound : cell.poisoned = false)
    (h : cell.next g clock = (call, cell', clock')) : call.outcome ≠ .refused .lockPoisoned := by
  rw [next_of_sound hsound] at h
  cases h
  exact Generator.await_ne_lockPoisoned rfl

theorem Id.checkField_ne_lockPoisoned {field : Field} {value max : UInt64} :
    checkField field value max ≠ .error .lockPoisoned := by
  unfold checkField
  split <;> simp

theorem Slot.check_ne_lockPoisoned (slot : Slot) : slot.check ≠ .error .lockPoisoned := by
  unfold check
  cases ht : Id.checkTimestamp slot.tick with
  | error error =>
    intro h
    rw [Except.error.inj h] at ht
    exact Id.checkField_ne_lockPoisoned ht
  | ok => exact Id.checkField_ne_lockPoisoned

theorem Settings.new_ne_lockPoisoned (generatorId : UInt16) :
    new generatorId ≠ .error .lockPoisoned := by
  unfold new
  cases hid : Id.checkGeneratorId generatorId with
  | error error =>
    intro h
    rw [Except.error.inj h] at hid
    exact Id.checkField_ne_lockPoisoned hid
  | ok => simp [bind, Except.bind, pure, Except.pure]

namespace Session

variable {s s' t : Session σ} {log : Log} {steps : List (Step σ)} {g a b c d : Nat}
  {handle : Handle} {cell : Cell} {gen : Generator} {call : Call}

omit [Clock σ] in
theorem build_ne_lockPoisoned (s : Session σ) (settings : Settings) :
    (s.build settings).1 ≠ .error .lockPoisoned := by
  unfold build Settings.construct
  cases hc : settings.seed.check with
  | ok => simp
  | error error =>
    intro heq
    rw [Except.error.inj heq] at hc
    exact settings.seed.check_ne_lockPoisoned hc

/-- **A cell is poisoned exactly if the clock has failed in a call on it.** -/
theorem find?_of_run {clock : σ} (h : (start clock).run steps = (s, log))
    (hg : s.handles[g]? = some handle) :
    ∃ cell, s.At handle.cell handle.generator cell ∧ s.find? g = some (handle, cell) ∧
      cell.poisoned = (log.on handle.cell).any Call.faulted := by
  have hmem : handle ∈ ((start clock).run steps).1.handles := by
    rw [h]
    exact List.mem_of_getElem? hg
  have hstart := start_closed clock
  obtain ⟨settings, cell, -, hat, hserves⟩ :=
    run_served steps hstart (Nat.zero_le _) (run_closed steps hstart handle hmem)
  rw [← hat.generator handle hmem rfl] at hat
  rw [h] at hat hserves
  refine ⟨cell, hat, find?_eq_some.mpr ⟨hg, hat.cell⟩, ?_⟩
  rw [hserves.poisoned]
  rfl

/-! ## Answers of a generator -/

/-- Whatever is asked of generator `g` is refused since its cell is poisoned. A call that is refused
so leaves the session as it is, and so the clock, which it does not read. -/
structure Shut (s : Session σ) (g : Nat) : Prop where
  checkpoint : s.checkpoint? g = some (.error .lockPoisoned)
  next : s.next g = some (.immediate (.refused .lockPoisoned), s)
  resume (settings : Settings) : s.resume g settings = some (.error .lockPoisoned, [])

/-- Nothing that is asked of generator `g` is refused for that. -/
structure Sound (s : Session σ) (g : Nat) : Prop where
  checkpoint : ∃ last, s.checkpoint? g = some (.ok last)
  next : ∃ call s', s.next g = some (call, s') ∧ call.outcome ≠ .refused .lockPoisoned
  resume (settings : Settings) :
    ∃ made events, s.resume g settings = some (made, events) ∧ made ≠ .error .lockPoisoned

omit [Clock σ] in
theorem resume_of_checkpoint? {slot : Slot} {settings : Settings}
    (hc : s.checkpoint? g = some (.ok slot)) :
    s.resume g settings = some (s.build (settings.change (.resumeFrom slot))) := by
  unfold Session.resume
  rw [hc, Option.map_some]

theorem shut_of_find? (hf : s.find? g = some (handle, cell)) (h : cell.poisoned = true) :
    s.Shut g := by
  have hcheckpoint : s.checkpoint? g = some (.error .lockPoisoned) := by
    rw [checkpoint?_of_find? hf, Cell.checkpoint, if_pos h]
  constructor
  · exact hcheckpoint
  · obtain ⟨hlt, hcell⟩ := List.getElem?_eq_some_iff.mp (find?_eq_some.mp hf).2
    rw [next_of_find? hf (Cell.next_of_poisoned h), ← hcell, List.set_getElem_self]
  · intro settings
    unfold Session.resume
    rw [hcheckpoint, Option.map_some]

theorem sound_of_find? (hf : s.find? g = some (handle, cell)) (h : cell.poisoned = false) :
    s.Sound g := by
  have hcheckpoint : s.checkpoint? g = some (.ok cell.last) := by
    rw [checkpoint?_of_find? hf, Cell.checkpoint_of_sound h]
  constructor
  · exact ⟨_, hcheckpoint⟩
  · rcases hn : cell.next handle.generator s.clock with ⟨call, cell', clock'⟩
    exact ⟨call, _, next_of_find? hf hn, Cell.next_ne_lockPoisoned h hn⟩
  · intro settings
    exact ⟨_, _, resume_of_checkpoint? hcheckpoint, s.build_ne_lockPoisoned _⟩

/-- **Once the clock has failed in a call, the generators on its cell are shut for good**, those that
come later included. -/
theorem shut_of_faulted (hat : s.At handle.cell gen cell) (hg : s.handles[g]? = some handle)
    (h : s.next g = some (call, s')) (hfault : call.faulted = true) (later : List (Step σ)) {a : Nat}
    {other : Handle} (hother : (s'.run later).1.handles[a]? = some other)
    (hcell : other.cell = handle.cell) : (s'.run later).1.Shut a := by
  -- the call and what comes later are a run from `s`, with the call in its log
  obtain ⟨cell', hat', hserves⟩ := run_at (.call g :: later) hat
  simp only [run, step_call hg h] at hat' hserves
  have hpoisoned : cell'.poisoned = true := by
    rw [hserves.poisoned, Log.on_append]
    simp [Log.on, hfault]
  refine shut_of_find? (find?_eq_some.mpr ⟨hother, ?_⟩) hpoisoned
  rw [hcell]
  exact hat'.cell

/-! ## Other cells -/

/-- Generator `a` of one session answers from here on as generator `b` of the other: they have the
same checkpoint now, and whenever the calls on their cells find the clocks in the same states, these
are the same calls and leave the same checkpoint. -/
def AnswersAs (s : Session σ) (a : Nat) (t : Session σ) (b : Nat) : Prop :=
  ∃ u v, s.handles[a]? = some u ∧ t.handles[b]? = some v ∧
    s.checkpoint? a = t.checkpoint? b ∧
    ∀ later later', s.met u.cell later = t.met v.cell later' →
      (s.run later).2.on u.cell = (t.run later').2.on v.cell ∧
      (s.run later).1.checkpoint? a = (t.run later').1.checkpoint? b

omit [Clock σ] in
theorem At.checkpoint? (hat : s.At c gen cell) (ha : s.handles[a]? = some ⟨gen, c⟩) :
    s.checkpoint? a = some cell.checkpoint :=
  checkpoint?_of_find? (find?_eq_some.mpr ⟨ha, hat.cell⟩)

/-- **Generators with the same fixed part on equal cells answer alike.** -/
theorem At.answersAs (hs : s.At c gen cell) (ht : t.At d gen cell)
    (ha : s.handles[a]? = some ⟨gen, c⟩) (hb : t.handles[b]? = some ⟨gen, d⟩) :
    s.AnswersAs a t b := by
  refine ⟨_, _, ha, hb, by rw [hs.checkpoint? ha, ht.checkpoint? hb], fun later later' hmet => ?_⟩
  obtain ⟨cell₁, hat₁, hvisits₁⟩ := run_visits later hs
  obtain ⟨cell₂, hat₂, hvisits₂⟩ := run_visits later' ht
  rw [hmet, hvisits₂] at hvisits₁
  obtain ⟨hcalls, rfl⟩ := Prod.mk.inj hvisits₁
  refine ⟨hcalls.symm, ?_⟩
  rw [hat₁.checkpoint? (run_handles_getElem? ha later),
    hat₂.checkpoint? (run_handles_getElem? hb later')]

/-- A call leaves what is on other cells as it was. -/
theorem At.next (hat : s.At c gen cell) (hg : s.handles[g]? = some handle) (hne : handle.cell ≠ c)
    (h : s.next g = some (call, s')) : s'.At c gen cell ∧ s'.handles = s.handles := by
  have hmove := s.step_moves (.call g)
  rw [step_call hg h] at hmove
  cases hmove with
  | calls mem found made =>
    exact ⟨⟨(List.getElem?_set_ne hne).trans hat.cell, hat.generator⟩, rfl⟩

/-- What a step makes a generator from, if it makes one. -/
def makes? (s : Session σ) : Step σ → Option Settings
  | .build settings => some settings
  | .resume g settings =>
    match s.checkpoint? g with
    | some (.ok slot) => some (settings.change (.resumeFrom slot))
    | _ => none
  | _ => none

theorem step_of_makes? {st : Step σ} {settings : Settings} (h : s.makes? st = some settings)
    (hfits : settings.seed.Fits) : s.step st = (s.add settings, []) := by
  cases st with
  | build settings' =>
    obtain rfl := Option.some.inj h
    exact step_build hfits
  | resume g settings' =>
    simp only [makes?] at h
    cases hc : s.checkpoint? g with
    | none => rw [hc] at h; exact absurd h (by simp)
    | some checkpoint =>
      rw [hc] at h
      cases checkpoint with
      | error error => exact absurd h (by simp)
      | ok slot =>
        obtain rfl := Option.some.inj h
        simp only [step, resume_of_checkpoint? hc, build_eq_ok hfits, extend]
  | _ => exact absurd h (by simp [makes?])

/-- Generators made from the same settings answer alike, whatever sessions they are made in. -/
theorem answersAs_of_makes? {st st' : Step σ} {settings : Settings} (hs : s.Closed) (ht : t.Closed)
    (h : s.makes? st = some settings) (h' : t.makes? st' = some settings)
    (hfits : settings.seed.Fits) :
    (s.step st).1.AnswersAs s.handles.length (t.step st').1 t.handles.length := by
  rw [step_of_makes? h hfits, step_of_makes? h' hfits]
  exact (add_at hs settings).answersAs (add_at ht settings) List.getElem?_concat_length
    List.getElem?_concat_length

/-! ## The law -/

/-- **Poisoning is permanent, has no other cause, and is contained.** After any run of a session,
whatever is asked of a generator is refused for a poisoned cell if the clock has failed in a call on
its cell, and nothing is if it has not; nor are new settings and new generators.

Let the clock fail in a call. From then on all generators on the cell of that call are shut, at any
time, also clones made later. A generator that is there and on another cell answers from then on as
it would have without the call. And so does a generator that is built or resumed later. -/
theorem poison_law {clock : σ} {steps : List (Step σ)} (h : (start clock).run steps = (s, log)) :
    (∀ g handle, s.handles[g]? = some handle →
      ((∃ call ∈ log.on handle.cell, call.faulted = true) → s.Shut g) ∧
      ((∀ call ∈ log.on handle.cell, call.faulted = false) → s.Sound g)) ∧
    (∀ id, Settings.new id ≠ .error .lockPoisoned) ∧
    (∀ settings, (s.build settings).1 ≠ .error .lockPoisoned) ∧
    ∀ g handle call s', s.handles[g]? = some handle → s.next g = some (call, s') →
      call.faulted = true →
      (∀ later g' other, (s'.run later).1.handles[g']? = some other → other.cell = handle.cell →
        (s'.run later).1.Shut g') ∧
      (∀ g' other, s.handles[g']? = some other → other.cell ≠ handle.cell →
        s'.AnswersAs g' s g') ∧
      ∀ mid mid' st st' settings, (s'.run mid).1.makes? st = some settings →
        (s.run mid').1.makes? st' = some settings → settings.seed.Fits →
        ((s'.run mid).1.step st).1.AnswersAs (s'.run mid).1.handles.length
          ((s.run mid').1.step st').1 (s.run mid').1.handles.length := by
  refine ⟨fun g handle hg => ?_, Settings.new_ne_lockPoisoned, s.build_ne_lockPoisoned, ?_⟩
  · obtain ⟨cell, -, hf, hpoisoned⟩ := find?_of_run h hg
    refine ⟨fun hfault => shut_of_find? hf ?_, fun hnone => sound_of_find? hf ?_⟩
    · rw [hpoisoned]
      exact List.any_eq_true.mpr hfault
    · rw [hpoisoned]
      exact Call.any_faulted_eq_false.mpr hnone
  · intro g handle call s' hg hnext hfault
    obtain ⟨cell, hat, -, -⟩ := find?_of_run h hg
    refine ⟨fun later g' other hother hcell =>
      shut_of_faulted hat hg hnext hfault later hother hcell, fun g' other hother hne => ?_, ?_⟩
    · obtain ⟨cell', hat', -, -⟩ := find?_of_run h hother
      obtain ⟨hsame, hhandles⟩ := hat'.next hg (Ne.symm hne) hnext
      exact hsame.answersAs hat' (by rw [hhandles]; exact hother) hother
    · intro mid mid' st st' settings hmakes hmakes' hfits
      have hs : s.Closed := by
        have hclosed := run_closed steps (start_closed clock)
        rwa [h] at hclosed
      have hs' : s'.Closed := by
        have hclosed := (s.step_moves (.call g)).closed hs
        rwa [step_call hg hnext] at hclosed
      exact answersAs_of_makes? (run_closed mid hs') (run_closed mid' hs) hmakes hmakes' hfits

/-- A generator that has used up tick 0 and waits, another one, and a clone of the first. -/
def threesome : List (Step Script) :=
  [.build ⟨1, 0, ⟨0, 2047⟩, true, .millisecond⟩, .build ⟨2, 0, ⟨0, 0⟩, true, .millisecond⟩,
    .clone 0]

/-- The clock fails after a wait of the first generator. -/
theorem poison_law_threesome :
    ∃ call s', ((start (Script.mk [some 0, none] 0)).run threesome).1.next 0 = some (call, s') ∧
      call.readings = 2 ∧ call.sleeps = [1] ∧ call.faulted = true ∧
      s'.Shut 2 ∧ (s'.run [.clone 0]).1.Shut 3 ∧
      s'.AnswersAs 1 ((start (Script.mk [some 0, none] 0)).run threesome).1 1 := by
  refine ⟨_, _, rfl, by decide, by decide, by decide, ?_⟩
  have hrun : (start (Script.mk [some 0, none] 0)).run threesome = (_, []) := rfl
  obtain ⟨-, -, -, hlaw⟩ := poison_law hrun
  obtain ⟨hshut, hothers, -⟩ := hlaw 0 _ _ _ rfl rfl (by decide)
  exact ⟨hshut [] 2 _ rfl rfl, hshut [.clone 0] 3 _ rfl rfl, hothers 1 _ rfl (by decide)⟩

end Session

end Snowflake
