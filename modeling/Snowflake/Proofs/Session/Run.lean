import Snowflake.Proofs.Generator.Call

/-!
# Runs of a session

`Session.run` is any run of a session: generators are built, cloned, resumed and called in any
order, and in between the clock is put into any state, so that it may jump, stand still or go
back. The calls made are logged, each with the generator it went through.

Results:
* **`Session.step_moves`**: the four things that a step can do to a session.
* **`Session.run_visits`**, `Session.run_at`: to one cell, a run of the session is a row of calls of
  one generator, and the clocks they find decide it.
* `Session.times_of_find?`: a number of calls depend on what the generator leads to.
* `Session.run_closed`, `Session.run_handles_grow`: every generator is on a cell of the session, and
  keeps its number.
* **`Session.run_served`**, `Session.run_generators`: where its cell and its fixed part come from.
-/

namespace Snowflake

/-- The calls made in a session, each with the generator it went through. -/
abbrev Log := List (Handle × Call)

/-- The calls on a cell, in their order. -/
def Log.on (log : Log) (c : Nat) : List Call := (log.filter fun e => e.1.cell = c).map Prod.snd

theorem Log.on_append (log more : Log) (c : Nat) : (log ++ more).on c = log.on c ++ more.on c := by
  unfold Log.on
  rw [List.filter_append, List.map_append]

theorem Log.on_eq_nil {log : Log} {c : Nat} (h : ∀ e ∈ log, e.1.cell ≠ c) : log.on c = [] := by
  unfold Log.on
  rw [List.map_eq_nil_iff, List.filter_eq_nil_iff]
  exact fun e hmem heq => h e hmem (of_decide_eq_true heq)

namespace Session

/-! ## Steps -/

/-- One thing that happens in a session. -/
inductive Step (σ : Type) where
  /-- A generator is built. -/
  | build (settings : Settings)
  /-- A generator is cloned. -/
  | clone (g : Nat)
  /-- A generator is built from the checkpoint of another. -/
  | resume (g : Nat) (settings : Settings)
  /-- A generator is called. -/
  | call (g : Nat)
  /-- The clock is put into another state. -/
  | clock (clock : σ)

variable {σ : Type}

/-- The session with a new generator on a new cell. -/
def add (s : Session σ) (settings : Settings) : Session σ :=
  { s with
    cells := s.cells ++ [.new settings.seed]
    handles := s.handles ++ [⟨settings.generator, s.cells.length⟩] }

theorem build_eq_ok {s : Session σ} {settings : Settings} (h : settings.seed.Fits) :
    s.build settings = (.ok (s.add settings), [.built settings.generator settings.seed]) := by
  unfold build Settings.construct
  rw [Slot.check_eq_ok_iff.mpr h]
  rfl

/-- Building adds a generator if the seed fits, and nothing if it does not. -/
theorem build_cases (s : Session σ) (settings : Settings) :
    (settings.seed.Fits ∧ (s.build settings).1 = .ok (s.add settings)) ∨
      ∃ error, (s.build settings).1 = .error error := by
  cases hc : settings.seed.check with
  | ok =>
    have h := Slot.check_eq_ok_iff.mp hc
    exact .inl ⟨h, by rw [build_eq_ok h]⟩
  | error error =>
    refine .inr ⟨error, ?_⟩
    unfold build Settings.construct
    rw [hc]

/-- The session that building gave, or the one before it. -/
def extend (s : Session σ) : Except Error (Session σ) → Session σ
  | .ok made => made
  | .error _ => s

theorem extend_of_misfit (s : Session σ) {settings : Settings} (h : ¬ settings.seed.Fits) :
    s.extend (s.build settings).1 = s := by
  rcases s.build_cases settings with ⟨hfits, -⟩ | ⟨error, herror⟩
  · exact absurd hfits h
  · rw [herror]
    rfl

theorem find?_eq_some {s : Session σ} {g : Nat} {handle : Handle} {cell : Cell} :
    s.find? g = some (handle, cell) ↔
      s.handles[g]? = some handle ∧ s.cells[handle.cell]? = some cell := by
  simp only [find?, Option.bind_eq_bind, Option.bind_eq_some_iff, Option.pure_def,
    Option.some.injEq, Prod.mk.injEq]
  constructor
  · rintro ⟨h, hh, c, hc, rfl, rfl⟩
    exact ⟨hh, hc⟩
  · rintro ⟨hh, hc⟩
    exact ⟨handle, hh, cell, hc, rfl, rfl⟩

theorem checkpoint?_of_find? {s : Session σ} {g : Nat} {handle : Handle} {cell : Cell}
    (h : s.find? g = some (handle, cell)) : s.checkpoint? g = some cell.checkpoint := by
  unfold checkpoint?
  rw [h]
  rfl

variable [Clock σ]

/-- The session after a step, and the call made in it. A step that fails changes nothing. -/
def step (s : Session σ) : Step σ → Session σ × Log
  | .build settings => (s.extend (s.build settings).1, [])
  | .clone g => ((s.clone g).getD s, [])
  | .resume g settings =>
    match s.resume g settings with
    | some (made, _) => (s.extend made, [])
    | none => (s, [])
  | .call g =>
    match s.handles[g]?, s.next g with
    | some handle, some (call, s') => (s', [(handle, call)])
    | _, _ => (s, [])
  | .clock clock => ({ s with clock }, [])

theorem step_build {s : Session σ} {settings : Settings} (h : settings.seed.Fits) :
    s.step (.build settings) = (s.add settings, []) := by
  simp only [step, build_eq_ok h, extend]

/-- **A run of a session**: the session after it and the calls made in it. -/
def run (s : Session σ) : List (Step σ) → Session σ × Log
  | [] => (s, [])
  | first :: rest =>
    let (s, made) := s.step first
    let (s, log) := s.run rest
    (s, made ++ log)

/-- What a step does, whatever it was meant to do. -/
inductive Moves (s : Session σ) : Session σ → Log → Prop where
  | adds (settings : Settings) (fits : settings.seed.Fits) : Moves s (s.add settings) []
  | clones (handle : Handle) (mem : handle ∈ s.handles) :
      Moves s { s with handles := s.handles ++ [handle] } []
  | calls {handle : Handle} {cell cell' : Cell} {call : Call} {clock : σ}
      (mem : handle ∈ s.handles) (found : s.cells[handle.cell]? = some cell)
      (made : cell.next handle.generator s.clock = (call, cell', clock)) :
      Moves s { s with clock, cells := s.cells.set handle.cell cell' } [(handle, call)]
  | ticks (clock : σ) : Moves s { s with clock } []

theorem moves_extend (s : Session σ) (settings : Settings) :
    s.Moves (s.extend (s.build settings).1) [] := by
  rcases s.build_cases settings with ⟨hfits, hok⟩ | ⟨error, herror⟩
  · rw [hok]
    exact .adds settings hfits
  · rw [herror]
    exact .ticks s.clock

/-- **Each step adds a generator or a clone, makes a call, or only moves the clock.** -/
theorem step_moves (s : Session σ) (st : Step σ) : s.Moves (s.step st).1 (s.step st).2 := by
  cases st with
  | build settings => exact s.moves_extend settings
  | clone g =>
    simp only [step, clone]
    cases hg : s.handles[g]? with
    | none => exact .ticks s.clock
    | some handle => exact .clones handle (List.mem_of_getElem? hg)
  | resume g settings =>
    simp only [step, resume]
    cases hc : s.checkpoint? g with
    | none => exact .ticks s.clock
    | some checkpoint =>
      cases checkpoint with
      | error error => exact .ticks s.clock
      | ok slot => exact s.moves_extend (settings.change (.resumeFrom slot))
  | call g =>
    simp only [step, next]
    cases hf : s.find? g with
    | none =>
      cases s.handles[g]? <;> exact .ticks s.clock
    | some found =>
      obtain ⟨handle, cell⟩ := found
      obtain ⟨hh, hcell⟩ := find?_eq_some.mp hf
      rw [hh]
      exact .calls (List.mem_of_getElem? hh) hcell rfl
  | clock clock => exact .ticks clock

/-! ## What a run does to one cell -/

/-- Cell `c` is `cell`, and every generator on it has the fixed part `g`. -/
structure At (s : Session σ) (c : Nat) (g : Generator) (cell : Cell) : Prop where
  cell : s.cells[c]? = some cell
  generator : ∀ handle ∈ s.handles, handle.cell = c → handle.generator = g

variable {s s' : Session σ} {log : Log} {c : Nat} {g : Generator} {cell : Cell}

omit [Clock σ] in
theorem At.lt (h : s.At c g cell) : c < s.cells.length :=
  (List.getElem?_eq_some_iff.mp h.cell).1

/-- To one cell, a step is nothing or a call of its generator, which finds the clock as it is. -/
theorem Moves.visits (h : s.Moves s' log) (hat : s.At c g cell) :
    ∃ cell', s'.At c g cell' ∧
      cell.visits g ((log.on c).map fun _ => s.clock) = (log.on c, cell') := by
  cases h with
  | adds settings _ =>
    refine ⟨cell, ⟨?_, fun handle hmem hcell => ?_⟩, rfl⟩
    · exact (List.getElem?_append_left hat.lt).trans hat.cell
    · rcases List.mem_append.mp hmem with hmem | hmem
      · exact hat.generator handle hmem hcell
      · -- the new generator is on a new cell
        obtain rfl := List.mem_singleton.mp hmem
        exact absurd hcell (Nat.ne_of_gt hat.lt)
  | clones handle mem =>
    refine ⟨cell, ⟨hat.cell, fun other hmem hcell => ?_⟩, rfl⟩
    rcases List.mem_append.mp hmem with hmem | hmem
    · exact hat.generator other hmem hcell
    · obtain rfl := List.mem_singleton.mp hmem
      exact hat.generator other mem hcell
  | @calls handle old new call clock mem found made =>
    by_cases hc : handle.cell = c
    · obtain rfl := hc
      obtain rfl := hat.generator handle mem rfl
      obtain rfl := Option.some.inj (found.symm.trans hat.cell)
      refine ⟨new, ⟨List.getElem?_set_self hat.lt, hat.generator⟩, ?_⟩
      simp only [Log.on, List.filter_cons, decide_true, if_true, List.filter_nil, List.map_cons,
        List.map_nil, Cell.visits, made]
    · refine ⟨cell, ⟨(List.getElem?_set_ne hc).trans hat.cell, hat.generator⟩, ?_⟩
      simp only [Log.on, List.filter_cons, hc, decide_false, Bool.false_eq_true, if_false,
        List.filter_nil, List.map_nil, Cell.visits]
  | ticks clock => exact ⟨cell, ⟨hat.cell, hat.generator⟩, rfl⟩

/-- The states in which the calls on cell `c` find the clock, in their order. -/
def met (s : Session σ) (c : Nat) : List (Step σ) → List σ
  | [] => []
  | first :: rest =>
    let (next, log) := s.step first
    (log.on c).map (fun _ => s.clock) ++ next.met c rest

/-- **What a run does to one cell depends on its last slot, its generator and the states in which
calls on it find the clock**, and on nothing else in the session. -/
theorem run_visits (steps : List (Step σ)) (hat : s.At c g cell) :
    ∃ cell', (s.run steps).1.At c g cell' ∧
      cell.visits g (s.met c steps) = ((s.run steps).2.on c, cell') := by
  induction steps generalizing s cell with
  | nil => exact ⟨cell, hat, rfl⟩
  | cons first rest ih =>
    obtain ⟨mid, hmid, hfirst⟩ := (s.step_moves first).visits hat
    obtain ⟨cell', hcell', hrest⟩ := ih hmid
    refine ⟨cell', hcell', ?_⟩
    simp only [run, met]
    rw [Log.on_append]
    exact Cell.visits_append hfirst hrest

/-- **To one cell, a run is a row of calls of its generator.** -/
theorem run_at (steps : List (Step σ)) (hat : s.At c g cell) :
    ∃ cell', (s.run steps).1.At c g cell' ∧ cell.Serves g ((s.run steps).2.on c) cell' := by
  obtain ⟨cell', hcell', hvisits⟩ := run_visits steps hat
  exact ⟨cell', hcell', Cell.visits_serves hvisits⟩

/-! ## Calls of one generator -/

section Times

variable {i : Nat} {handle : Handle} {cell' : Cell}

theorem next_of_find? {call : Call} {clock' : σ} (hf : s.find? i = some (handle, cell))
    (h : cell.next handle.generator s.clock = (call, cell', clock')) :
    s.next i =
      some (call, { s with clock := clock', cells := s.cells.set handle.cell cell' }) := by
  unfold next
  rw [hf, Option.map_some]
  simp only [h]

theorem step_call {call : Call} (hh : s.handles[i]? = some handle)
    (h : s.next i = some (call, s')) : s.step (.call i) = (s', [(handle, call)]) := by
  simp only [step, hh, h]

omit [Clock σ] in
/-- A generator leads to its cell as a call has left it. -/
theorem find?_set {clock' : σ} (hf : s.find? i = some (handle, cell)) :
    ({ s with clock := clock', cells := s.cells.set handle.cell cell' } : Session σ).find? i =
      some (handle, cell') := by
  obtain ⟨hh, hcell⟩ := find?_eq_some.mp hf
  exact find?_eq_some.mpr ⟨hh, List.getElem?_set_self (List.getElem?_eq_some_iff.mp hcell).1⟩

/-- A call leaves the checkpoint of the cell as the call has left it. -/
theorem exists_next_of_find? {call : Call} {clock' : σ} (hf : s.find? i = some (handle, cell))
    (h : cell.next handle.generator s.clock = (call, cell', clock')) :
    ∃ t, s.next i = some (call, t) ∧ t.checkpoint? i = some cell'.checkpoint ∧ t.clock = clock' :=
  ⟨_, next_of_find? hf h, checkpoint?_of_find? (find?_set hf), rfl⟩

/-- **A number of calls depend on the cell, the fixed part and the clock alone.** -/
theorem times_of_find? {n : Nat} {calls : List Call} {clock' : σ}
    (hf : s.find? i = some (handle, cell))
    (h : cell.times handle.generator s.clock n = (calls, cell', clock')) :
    ∃ t, s.times i n = some (calls, t) ∧ t.find? i = some (handle, cell') ∧ t.clock = clock' := by
  induction n generalizing s cell calls with
  | zero =>
    cases h
    exact ⟨s, rfl, hf, rfl⟩
  | succ n ih =>
    rcases hn : cell.next handle.generator s.clock with ⟨call, mid, clock₁⟩
    rcases hr : mid.times handle.generator clock₁ n with ⟨rest, last, clock₂⟩
    simp only [Cell.times, hn, hr] at h
    cases h
    obtain ⟨t, htimes, htfind, htclock⟩ := ih (find?_set hf) hr
    refine ⟨t, ?_, htfind, htclock⟩
    simp only [times, next_of_find? hf hn, Option.bind_eq_bind, Option.bind_some]
    rw [htimes]
    rfl

end Times

/-! ## What every run keeps -/

/-- Every generator is on a cell of the session. -/
def Closed (s : Session σ) : Prop := ∀ handle ∈ s.handles, handle.cell < s.cells.length

omit [Clock σ] in
theorem start_closed (clock : σ) : (start clock).Closed := by
  simp [Closed, start]

theorem Moves.closed (h : s.Moves s' log) (hs : s.Closed) : s'.Closed := by
  cases h with
  | adds settings _ =>
    intro handle hmem
    simp only [add, List.length_append, List.length_singleton]
    rcases List.mem_append.mp hmem with hmem | hmem
    · exact Nat.lt_succ_of_lt (hs handle hmem)
    · obtain rfl := List.mem_singleton.mp hmem
      exact Nat.lt_succ_self _
  | clones handle mem =>
    intro other hmem
    rcases List.mem_append.mp hmem with hmem | hmem
    · exact hs other hmem
    · obtain rfl := List.mem_singleton.mp hmem
      exact hs other mem
  | calls mem found made =>
    intro handle hmem
    rw [List.length_set]
    exact hs handle hmem
  | ticks clock => exact hs

theorem run_closed (steps : List (Step σ)) (hs : s.Closed) : (s.run steps).1.Closed := by
  induction steps generalizing s with
  | nil => exact hs
  | cons first rest ih => exact ih ((s.step_moves first).closed hs)

theorem Moves.handles_grow (h : s.Moves s' log) : s.handles <+: s'.handles := by
  cases h with
  | adds => exact List.prefix_append _ _
  | clones => exact List.prefix_append _ _
  | calls => exact List.prefix_refl _
  | ticks => exact List.prefix_refl _

/-- Generators are added behind those that are there. -/
theorem run_handles_grow (steps : List (Step σ)) : s.handles <+: (s.run steps).1.handles := by
  induction steps generalizing s with
  | nil => exact List.prefix_refl _
  | cons first rest ih => exact (s.step_moves first).handles_grow.trans ih

/-- What a number leads to, it leads to at the end of every run. -/
theorem run_handles_getElem? {i : Nat} {handle : Handle} (h : s.handles[i]? = some handle)
    (steps : List (Step σ)) : (s.run steps).1.handles[i]? = some handle := by
  obtain ⟨more, hmore⟩ : s.handles <+: (s.run steps).1.handles := run_handles_grow steps
  rw [← hmore, List.getElem?_append_left (List.getElem?_eq_some_iff.mp h).1]
  exact h

omit [Clock σ] in
/-- A new generator is alone on its cell. -/
theorem add_at (hs : s.Closed) (settings : Settings) :
    (s.add settings).At s.cells.length settings.generator (.new settings.seed) := by
  refine ⟨List.getElem?_concat_length, fun handle hmem hcell => ?_⟩
  rcases List.mem_append.mp hmem with hmem | hmem
  · exact absurd hcell (Nat.ne_of_lt (hs handle hmem))
  · obtain rfl := List.mem_singleton.mp hmem
    rfl

/-! ## Where cells, generators and calls come from -/

/-- A cell that a step adds is that of a new generator. -/
theorem Moves.added (h : s.Moves s' log) (hc : s.cells.length ≤ c) (hlt : c < s'.cells.length) :
    ∃ settings : Settings, settings.seed.Fits ∧ c = s.cells.length ∧ s' = s.add settings := by
  cases h with
  | adds settings fits =>
    simp only [add, List.length_append, List.length_singleton] at hlt
    exact ⟨settings, fits, by omega, rfl⟩
  | clones => exact absurd hlt (Nat.not_lt.mpr hc)
  | calls =>
    rw [List.length_set] at hlt
    exact absurd hlt (Nat.not_lt.mpr hc)
  | ticks => exact absurd hlt (Nat.not_lt.mpr hc)

/-- A call goes through a generator of the session. -/
theorem Moves.mem_handles (h : s.Moves s' log) : ∀ e ∈ log, e.1 ∈ s.handles := by
  cases h with
  | calls mem => simpa using mem
  | _ => simp

/-- On a cell that is still to come there are no calls. -/
theorem Moves.on_eq_nil (h : s.Moves s' log) (hs : s.Closed) (hc : s.cells.length ≤ c) :
    log.on c = [] :=
  Log.on_eq_nil fun e hmem =>
    Nat.ne_of_lt (Nat.lt_of_lt_of_le (hs e.1 (h.mem_handles e hmem)) hc)

/-- **A cell that a run has added serves a row of calls**, from the seed of the generator that it was
added for. -/
theorem run_served (steps : List (Step σ)) (hs : s.Closed) (hc : s.cells.length ≤ c)
    (hlt : c < (s.run steps).1.cells.length) :
    ∃ (settings : Settings) (cell : Cell), settings.seed.Fits ∧
      (s.run steps).1.At c settings.generator cell ∧
      (Cell.new settings.seed).Serves settings.generator ((s.run steps).2.on c) cell := by
  induction steps generalizing s with
  | nil => exact absurd hlt (Nat.not_lt.mpr hc)
  | cons first rest ih =>
    have hmove := s.step_moves first
    simp only [run]
    rw [Log.on_append, hmove.on_eq_nil hs hc, List.nil_append]
    by_cases hmid : (s.step first).1.cells.length ≤ c
    · exact ih (hmove.closed hs) hmid hlt
    · -- the first step adds the cell
      obtain ⟨settings, hfits, rfl, hadd⟩ := hmove.added hc (Nat.not_le.mp hmid)
      rw [hadd]
      obtain ⟨cell, hat, hserves⟩ := run_at rest (add_at hs settings)
      exact ⟨settings, cell, hfits, hat, hserves⟩

/-- Every call of a run goes through a generator that is there at the end. -/
theorem run_mem_handles (steps : List (Step σ)) :
    ∀ e ∈ (s.run steps).2, e.1 ∈ (s.run steps).1.handles := by
  induction steps generalizing s with
  | nil => simp [run]
  | cons first rest ih =>
    intro e hmem
    rcases List.mem_append.mp hmem with hmem | hmem
    · have hmove := s.step_moves first
      have hmid := hmove.handles_grow.subset (hmove.mem_handles e hmem)
      exact (run_handles_grow rest).subset hmid
    · exact ih e hmem

/-- The settings that a step makes a generator from. -/
def Step.settings? : Step σ → Option Settings
  | .build settings => some settings
  | .resume _ settings => some settings
  | _ => none

omit [Clock σ] in
theorem mem_handles_extend {settings : Settings} {handle : Handle}
    (h : handle ∈ (s.extend (s.build settings).1).handles) :
    handle ∈ s.handles ∨ handle.generator = settings.generator := by
  rcases s.build_cases settings with ⟨-, hok⟩ | ⟨error, herror⟩
  · rw [hok] at h
    rcases List.mem_append.mp h with h | h
    · exact .inl h
    · rw [List.mem_singleton.mp h]
      exact .inr rfl
  · rw [herror] at h
    exact .inl h

/-- A generator after a step was there before, has the fixed part of one that was, or is made from
the settings of the step. -/
theorem step_generators (st : Step σ) : ∀ handle ∈ (s.step st).1.handles,
    handle ∈ s.handles ∨ ∃ settings ∈ st.settings?, handle.generator = settings.generator := by
  intro handle h
  cases st with
  | build settings =>
    exact (mem_handles_extend h).imp_right fun heq => ⟨settings, rfl, heq⟩
  | clone g =>
    simp only [step, clone] at h
    cases hg : s.handles[g]? with
    | none =>
      rw [hg] at h
      exact .inl h
    | some cloned =>
      rw [hg] at h
      rcases List.mem_append.mp h with h | h
      · exact .inl h
      · rw [List.mem_singleton.mp h]
        exact .inl (List.mem_of_getElem? hg)
  | resume g settings =>
    simp only [step, resume] at h
    cases hc : s.checkpoint? g with
    | none =>
      rw [hc] at h
      exact .inl h
    | some checkpoint =>
      rw [hc] at h
      cases checkpoint with
      | error error => exact .inl h
      | ok slot => exact (mem_handles_extend h).imp_right fun heq => ⟨settings, rfl, heq⟩
  | call g =>
    have hsame : (s.step (.call g)).1.handles = s.handles := by
      simp only [step, next]
      cases s.handles[g]? <;> cases s.find? g <;> rfl
    rw [hsame] at h
    exact .inl h
  | clock clock => exact .inl h

/-- **Every generator of a run has the fixed part of settings in one of its steps.** -/
theorem run_generators (steps : List (Step σ)) : ∀ handle ∈ (s.run steps).1.handles,
    handle ∈ s.handles ∨ ∃ st ∈ steps, ∃ settings ∈ st.settings?,
      handle.generator = settings.generator := by
  induction steps generalizing s with
  | nil => exact fun handle h => .inl h
  | cons first rest ih =>
    intro handle h
    rcases ih handle h with h | ⟨st, hst, made⟩
    · exact (step_generators first handle h).imp_right fun made =>
        ⟨first, List.mem_cons_self, made⟩
    · exact .inr ⟨st, List.mem_cons_of_mem _ hst, made⟩

end Session

end Snowflake
