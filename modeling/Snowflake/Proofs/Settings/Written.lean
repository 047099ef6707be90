import Snowflake.Proofs.Id.Parts
import Snowflake.Proofs.Session.Run
import Snowflake.Proofs.Settings.Origin

/-!
# What changes leave in settings

Changes overlap: one writes both parts of the seed, three write the resolution, two the rule for a
tick that is used up. What each of them writes to a field is told field by field (`Change.offset?`
and its like). A list of changes leaves in a field what its last write to that field was, whatever
was written before and whatever was written elsewhere; nothing is looked at until a generator is
built, and then only what is left.

Results:
* `Settings.get_changes`: the last write to a field stays, for any field.
* `Settings.changes_of_new`: what a list of changes makes of new settings.
* `Slot.check_eq_error_iff`: which seeds are refused, and for what.
* **`Settings.last_write_stays`**: from new settings over any changes to the generator.
-/

namespace Snowflake

attribute [ext] Slot Settings

namespace Change

/-! ## What a change writes -/

/-- The offset that a change writes. -/
def offset? : Change → Option Int64
  | .offset seconds => some seconds
  | _ => none

/-- The tick that a change writes to the seed. -/
def tick? : Change → Option UInt64
  | .lastTick tick => some tick
  | .resumeFrom slot => some slot.tick
  | _ => none

/-- The sequence number that a change writes to the seed. -/
def sequence? : Change → Option UInt16
  | .lastSequence sequence => some sequence
  | .resumeFrom slot => some slot.sequence
  | _ => none

/-- What a change writes of waiting for the next tick. -/
def waits? : Change → Option Bool
  | .wait => some true
  | .noWait => some false
  | _ => none

/-- The resolution that a change writes. -/
def resolution? : Change → Option Resolution
  | .resolution length => some length
  | .inSeconds => some .second
  | .inMilliseconds => some .millisecond
  | _ => none

/-- The last write of a list of changes to a field, or what stood there before. -/
def lastWrite {α : Type} (write? : Change → Option α) (before : α) (list : List Change) : α :=
  (list.filterMap write?).getLastD before

theorem lastWrite_cons {α : Type} (write? : Change → Option α) (before : α) (c : Change)
    (list : List Change) :
    lastWrite write? before (c :: list) = lastWrite write? ((write? c).getD before) list := by
  unfold lastWrite
  cases hc : write? c with
  | none => rw [List.filterMap_cons_none hc, Option.getD_none]
  | some a => rw [List.filterMap_cons_some hc, List.getLastD_cons, Option.getD_some]

end Change

/-! ## Seeds that are refused -/

/-- The seed does not fit, and the error names the first part that does not. -/
inductive Slot.Misfit (slot : Slot) : Error → Prop where
  | tick (h : 2 ^ 42 - 1 < slot.tick.toNat) :
      Misfit slot (.fieldOutOfRange .timestamp slot.tick 4398046511103)
  | sequence (htick : slot.tick.toNat ≤ 2 ^ 42 - 1) (h : 2047 < slot.sequence.toNat) :
      Misfit slot (.fieldOutOfRange .sequence slot.sequence.toUInt64 2047)

theorem Slot.fits_iff (slot : Slot) :
    slot.Fits ↔ slot.tick.toNat ≤ 2 ^ 42 - 1 ∧ slot.sequence.toNat ≤ 2047 :=
  ⟨fun h => ⟨UInt64.le_iff_toNat_le.mp h.tick, UInt16.le_iff_toNat_le.mp h.sequence⟩,
    fun ⟨htick, hsequence⟩ =>
      ⟨UInt64.le_iff_toNat_le.mpr htick, UInt16.le_iff_toNat_le.mpr hsequence⟩⟩

/-- The check stops at the first part that does not fit. -/
theorem Slot.Misfit.check {slot : Slot} {error : Error} (h : slot.Misfit error) :
    slot.check = .error error := by
  unfold Slot.check Id.checkTimestamp Id.checkSequence
  cases h with
  | tick htick =>
    have hlt : Layout.maxTimestamp < slot.tick := UInt64.lt_iff_toNat_lt.mpr htick
    rw [Id.checkField_of_lt hlt]
    rfl
  | sequence htick hsequence =>
    have hle : slot.tick ≤ Layout.maxTimestamp := UInt64.le_iff_toNat_le.mpr htick
    have hlt : Layout.maxSequence < slot.sequence := UInt16.lt_iff_toNat_lt.mpr hsequence
    rw [Id.checkField_eq_ok_iff.mpr hle, Id.checkField_toUInt64_of_lt hlt]
    rfl

/-- A seed fits, or one of its parts is the first that does not. -/
theorem Slot.fits_or_misfit (slot : Slot) : slot.Fits ∨ ∃ error, slot.Misfit error := by
  rcases Nat.lt_or_ge (2 ^ 42 - 1) slot.tick.toNat with htick | htick
  · exact .inr ⟨_, .tick htick⟩
  · rcases Nat.lt_or_ge 2047 slot.sequence.toNat with hsequence | hsequence
    · exact .inr ⟨_, .sequence htick hsequence⟩
    · exact .inl (slot.fits_iff.mpr ⟨htick, hsequence⟩)

/-- **The check refuses the seeds that do not fit**, for the first part that does not. -/
theorem Slot.check_eq_error_iff {slot : Slot} {error : Error} :
    slot.check = .error error ↔ slot.Misfit error := by
  refine ⟨fun h => ?_, Misfit.check⟩
  rcases slot.fits_or_misfit with hfits | ⟨first, hfirst⟩
  · rw [check_eq_ok_iff.mpr hfits] at h
    exact absurd h (by simp)
  · rw [hfirst.check] at h
    rw [← Except.error.inj h]
    exact hfirst

/-- Building a generator fails as the check of the seed does. -/
theorem Session.build_eq_error_iff {σ : Type} {s : Session σ} {settings : Settings}
    {error : Error} :
    (s.build settings).1 = .error error ↔ settings.seed.Misfit error := by
  rw [← Slot.check_eq_error_iff]
  unfold build Settings.construct
  cases settings.seed.check <;> simp

/-- A generator is built exactly if the seed fits. -/
theorem Session.exists_build_iff {σ : Type} {s : Session σ} {settings : Settings} :
    (∃ made, (s.build settings).1 = .ok made) ↔ settings.seed.Fits := by
  constructor
  · rintro ⟨made, hmade⟩
    rcases s.build_cases settings with ⟨hfits, -⟩ | ⟨error, herror⟩
    · exact hfits
    · rw [herror] at hmade
      exact absurd hmade (by simp)
  · exact fun hfits => ⟨s.add settings, by rw [build_eq_ok hfits]⟩

/-- A generator that was built tells the settings, in its place in the session. -/
theorem Session.info?_of_build {σ : Type} {s made : Session σ} {settings : Settings}
    (h : (s.build settings).1 = .ok made) :
    made.info? s.handles.length = some ⟨settings.generator, .ok settings.seed⟩ := by
  have hfits := exists_build_iff.mp ⟨made, h⟩
  rw [build_eq_ok hfits] at h
  obtain rfl := Except.ok.inj h
  have hfind : (s.add settings).find? s.handles.length =
      some (⟨settings.generator, s.cells.length⟩, .new settings.seed) :=
    find?_eq_some.mpr ⟨List.getElem?_concat_length, List.getElem?_concat_length⟩
  unfold info?
  rw [hfind]
  rfl

namespace Settings

variable {id : UInt16} {base : Settings}

/-! ## The last write stays -/

/-- **The last write to a field stays**, whatever the field, as long as `write?` tells what single
changes do to it. -/
theorem get_changes {α : Type} (get : Settings → α) (write? : Change → Option α)
    (hchange : ∀ settings c, get (settings.change c) = (write? c).getD (get settings))
    (settings : Settings) (list : List Change) :
    get (settings.changes list) = Change.lastWrite write? (get settings) list := by
  induction list generalizing settings with
  | nil => rfl
  | cons c list ih =>
    have hrest := ih (settings.change c)
    rw [hchange] at hrest
    rw [Change.lastWrite_cons]
    exact hrest

/-- What a list of changes leaves in new settings: the last write to each field, or its default. -/
def written (id : UInt16) (list : List Change) : Settings where
  generatorId := id
  offset := Change.lastWrite Change.offset? (-1483228800) list
  seed := ⟨Change.lastWrite Change.tick? 0 list, Change.lastWrite Change.sequence? 0 list⟩
  waits := Change.lastWrite Change.waits? true list
  resolution := Change.lastWrite Change.resolution? .millisecond list

/-- New settings, when they are made, hold the id and the defaults. -/
theorem new_eq_ok (h : new id = .ok base) : base = written id [] := by
  unfold new at h
  cases hc : Id.checkGeneratorId id with
  | error error =>
    rw [hc] at h
    exact absurd h (by simp [bind, Except.bind])
  | ok =>
    rw [hc] at h
    exact (Except.ok.inj h).symm

/-- **A list of changes leaves the last write to each field.** -/
theorem changes_of_new (h : new id = .ok base) (list : List Change) :
    base.changes list = written id list := by
  rw [new_eq_ok h]
  have hid := (written id []).generatorId_changes list
  have hoffset := get_changes offset Change.offset?
    (fun settings c => by cases c <;> rfl) (written id []) list
  have htick := get_changes (fun settings => settings.seed.tick) Change.tick?
    (fun settings c => by cases c <;> rfl) (written id []) list
  have hsequence := get_changes (fun settings => settings.seed.sequence) Change.sequence?
    (fun settings c => by cases c <;> rfl) (written id []) list
  have hwaits := get_changes waits Change.waits?
    (fun settings c => by cases c <;> rfl) (written id []) list
  have hresolution := get_changes resolution Change.resolution?
    (fun settings c => by cases c <;> rfl) (written id []) list
  exact Settings.ext hid hoffset (Slot.ext htick hsequence) hwaits hresolution

/-! ## From new settings to a generator -/

/-- **The last write stays, and only what stays is looked at.** From new settings over any list of
changes, in any order: every field holds what the last change that writes it wrote, or its default.
A generator is built exactly if the tick and the sequence number that stay fit; otherwise the error
names the first of them that does not. The generator that is built tells the values that stay. -/
theorem last_write_stays {σ : Type} (h : new id = .ok base) (list : List Change)
    (s : Session σ) :
    base.changes list = written id list ∧
    ((base.changes list).isInSeconds = true ↔
      Change.lastWrite Change.resolution? .millisecond list = .second) ∧
    ((∃ made, (s.build (base.changes list)).1 = .ok made) ↔
      (Change.lastWrite Change.tick? 0 list).toNat ≤ 2 ^ 42 - 1 ∧
        (Change.lastWrite Change.sequence? 0 list).toNat ≤ 2047) ∧
    (∀ error, (s.build (base.changes list)).1 = .error error ↔
      Slot.Misfit ⟨Change.lastWrite Change.tick? 0 list,
        Change.lastWrite Change.sequence? 0 list⟩ error) ∧
    ∀ made, (s.build (base.changes list)).1 = .ok made →
      made.info? s.handles.length = some
        { generator :=
            { generatorId := id
              offset := Change.lastWrite Change.offset? (-1483228800) list
              resolution := Change.lastWrite Change.resolution? .millisecond list
              waits := Change.lastWrite Change.waits? true list }
          checkpoint := .ok ⟨Change.lastWrite Change.tick? 0 list,
            Change.lastWrite Change.sequence? 0 list⟩ } := by
  rw [changes_of_new h list]
  exact ⟨rfl, beq_iff_eq, Session.exists_build_iff.trans (written id list).seed.fits_iff,
    fun error => Session.build_eq_error_iff, fun made hmade => Session.info?_of_build hmade⟩

/-- A tick and a sequence number that do not fit, both written over before the generator is
built. -/
def overwritten : List Change :=
  [.lastTick 4398046511104, .inSeconds, .lastSequence 5000, .resumeFrom ⟨7, 2048⟩, .noWait, .offset 0,
    .lastSequence 9]

/-- The seventh change writes over the sequence number of the fourth, which fits no better than that
of the third. Without it the generator is not built. -/
theorem last_write_stays_overwritten :
    ∃ base made, new 160 = .ok base ∧
      ((Session.start ()).build (base.changes overwritten)).1 = .ok made ∧
      made.info? 0 = some ⟨⟨160, 0, .second, false⟩, .ok ⟨7, 9⟩⟩ ∧
      ((Session.start ()).build (base.changes overwritten.dropLast)).1 =
        .error (.fieldOutOfRange .sequence 2048 2047) := by
  have hnew : new 160 = .ok (written 160 []) := rfl
  obtain ⟨-, -, hbuilds, -, hinfo⟩ := last_write_stays hnew overwritten (Session.start ())
  obtain ⟨-, -, -, hfails, -⟩ := last_write_stays hnew overwritten.dropLast (Session.start ())
  obtain ⟨made, hmade⟩ := hbuilds.mpr (by decide)
  exact ⟨_, made, hnew, hmade, hinfo made hmade,
    (hfails _).mpr (.sequence (by decide) (by decide))⟩

end Settings

end Snowflake
