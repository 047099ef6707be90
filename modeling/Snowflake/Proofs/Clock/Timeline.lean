import Snowflake.Proofs.Generator.Issue

/-!
# Calls on a monotonic clock in use

While a monotonic clock is in use, time passes, its ticker publishes what it measured a while ago or
just now, and somebody sets the wall clock. A `Timeline` is a monotonic clock with the wall clock
beside it and with whatever happens before each of the readings to come. A call that sleeps lets
time pass; that the ticker has published by then is not taken for granted.

Of all this only the ticker moves the readings, and only forward (`MonotonicClock.Later`), as long
as they do not outgrow the word; one that does is a fault. So a last tick that is not ahead of the
clock stays so.

Results:
* `MonotonicClock.reading_eq_ok_iff`, `MonotonicClock.reading_eq_error_iff`: what a reading is, and
  when there is none.
* `Timeline.after_pass`: `MonotonicClock.pass` is time that passes under a ticker that keeps up.
* **`MonotonicClock.Later.millis_le`**: within the word a later reading is no lower.
* `Generator.await_later`, `Cell.next_later`: a call moves the clock to a later time.
* **`Generator.await_onTime`**, `Cell.next_onTime`: a call after a tick that is not ahead of the
  clock is not refused for being behind, and leaves a last tick that is not ahead of the clock.
-/

namespace Snowflake

namespace MonotonicClock

/-- The ticker has published no more than has passed. -/
def Sound (clock : MonotonicClock) : Prop :=
  clock.published.toNat ≤ clock.elapsed / nanosPerMilli

/-- The time of the clock, in milliseconds, fits the word. -/
def InRange (clock : MonotonicClock) : Prop :=
  clock.anchor.toNat + clock.elapsed / nanosPerMilli < 2 ^ 64

/-- `clock'` is `clock` at a later time, or at the same. -/
structure Later (clock clock' : MonotonicClock) : Prop where
  anchor : clock'.anchor = clock.anchor
  elapsed : clock.elapsed ≤ clock'.elapsed
  published : clock.published ≤ clock'.published
  sound : clock.Sound → clock'.Sound

variable {clock clock' clock'' : MonotonicClock}

theorem Later.refl (clock : MonotonicClock) : clock.Later clock :=
  ⟨rfl, Nat.le_refl _, UInt64.le_refl _, id⟩

theorem Later.trans (h : clock.Later clock') (h' : clock'.Later clock'') : clock.Later clock'' :=
  ⟨h'.anchor.trans h.anchor, Nat.le_trans h.elapsed h'.elapsed,
    UInt64.le_trans h.published h'.published, h'.sound ∘ h.sound⟩

theorem start_sound (anchor : UInt64) : (start anchor).Sound := Nat.zero_le _

theorem Later.inRange (h : clock.Later clock') (hrange : clock'.InRange) : clock.InRange := by
  unfold InRange at hrange ⊢
  have hdiv := Nat.div_le_div_right (c := nanosPerMilli) h.elapsed
  rw [h.anchor] at hrange
  omega

theorem toNat_max (a b : UInt64) : (max a b).toNat = max a.toNat b.toNat := by
  change (if a ≤ b then b else a).toNat = _
  by_cases h : a ≤ b
  · rw [if_pos h, Nat.max_eq_right (UInt64.le_iff_toNat_le.mp h)]
  · rw [if_neg h, Nat.max_eq_left]
    exact Nat.le_of_lt (UInt64.lt_iff_toNat_lt.mp (UInt64.not_le.mp h))

/-- Publishing what was measured brings the clock no further back. -/
theorem later_publish (clock : MonotonicClock) {measured : UInt64}
    (h : measured.toNat ≤ clock.elapsed / nanosPerMilli) : clock.Later (clock.publish measured) := by
  have hmax : (clock.publish measured).published.toNat =
      max clock.published.toNat measured.toNat := toNat_max _ _
  refine ⟨rfl, Nat.le_refl _, ?_, fun hsound => ?_⟩
  · rw [UInt64.le_iff_toNat_le, hmax]
    omega
  · unfold Sound at hsound ⊢
    rw [hmax]
    exact Nat.max_le.mpr ⟨hsound, h⟩

/-- **A reading is the exact sum of the anchor and what was published.** -/
theorem reading_eq_ok_iff {millis : UInt64} : clock.reading = .ok millis ↔
    millis.toNat = clock.anchor.toNat + clock.published.toNat := by
  have hsize : UInt64.size = 2 ^ 64 := rfl
  have hsum : clock.millis.toNat = (clock.anchor.toNat + clock.published.toNat) % 2 ^ 64 :=
    UInt64.toNat_add _ _
  unfold reading
  constructor
  · intro h
    split at h
    · obtain rfl := Except.ok.inj h
      omega
    · exact absurd h (by simp)
  · intro h
    have hlt := millis.toNat_lt
    have hword : clock.millis = millis := UInt64.toNat_inj.mp (by omega)
    rw [if_pos (by omega), hword]

/-- There is none exactly if the word does not hold the sum. -/
theorem reading_eq_error_iff :
    clock.reading = .error .overflow ↔ 2 ^ 64 ≤ clock.anchor.toNat + clock.published.toNat := by
  have hsize : UInt64.size = 2 ^ 64 := rfl
  unfold reading
  split <;> simp <;> omega

theorem millis_of_reading {millis : UInt64} (h : clock.reading = .ok millis) :
    clock.millis = millis := by
  unfold reading at h
  split at h
  · exact Except.ok.inj h
  · exact absurd h (by simp)

/-- A reading that fits the word is the anchor and what was published. -/
theorem toNat_millis (hsound : clock.Sound) (hrange : clock.InRange) :
    clock.millis.toNat = clock.anchor.toNat + clock.published.toNat := by
  unfold Sound at hsound
  unfold InRange at hrange
  unfold millis
  rw [UInt64.toNat_add]
  omega

/-- **Within the word a later reading is no lower.** -/
theorem Later.millis_le (h : clock.Later clock') (hsound : clock.Sound) (hrange : clock'.InRange) :
    clock.millis ≤ clock'.millis := by
  have hle := UInt64.le_iff_toNat_le.mp h.published
  rw [UInt64.le_iff_toNat_le, toNat_millis hsound (h.inRange hrange),
    toNat_millis (h.sound hsound) hrange, h.anchor]
  omega

end MonotonicClock

/-! ## What happens around a clock -/

/-- Something that happens around a monotonic clock. -/
inductive Happening where
  /-- Nanoseconds pass. -/
  | passes (nanos : Nat)
  /-- The ticker publishes what it measured when `nanos` had passed since the start, or measures it
  now if that is still to come. -/
  | ticks (nanos : Nat)
  /-- The wall clock is set, forward or back. -/
  | wallSet (nanos : Int)
  deriving DecidableEq, Repr

/-- A monotonic clock in use. -/
structure Timeline where
  clock : MonotonicClock
  /-- The time of day, which the monotonic clock does not look at. -/
  wall : WallClock
  /-- What happens before each of the readings to come. -/
  ahead : List (List Happening)
  deriving DecidableEq, Repr

namespace Timeline

/-- The timeline after something has happened. -/
def happen (t : Timeline) : Happening → Timeline
  | .passes nanos =>
    { t with
      clock := { t.clock with elapsed := t.clock.elapsed + nanos }
      wall := t.wall.move nanos }
  | .ticks nanos =>
    { t with
      clock := t.clock.publish (UInt64.ofNat (min nanos t.clock.elapsed / nanosPerMilli)) }
  | .wallSet nanos => { t with wall := t.wall.move nanos }

/-- The timeline after many things have happened. -/
def after (t : Timeline) (list : List Happening) : Timeline := list.foldl happen t

/-- The timeline at its next reading. -/
def reach (t : Timeline) : Timeline :=
  match t.ahead with
  | [] => t
  | list :: rest => { t.after list with ahead := rest }

/-- A call may wait until everything ahead has happened. -/
instance : Clock Timeline where
  startCall := id
  read t := (t.reach.clock.reading, t.reach)
  sleep millis t := t.happen (.passes (millis.toNat * nanosPerMilli))
  patience t := t.ahead.length + 4

/-- A reading is taken at the time that is reached by then. -/
theorem reading_of_read {t after : Timeline} {reading : Except Clock.Fault UInt64}
    (h : Clock.read t = (reading, after)) : t.reach.clock.reading = reading ∧ t.reach = after :=
  Prod.mk.inj h

/-- **Time that passes under a ticker that keeps up.** -/
theorem after_pass (t : Timeline) (nanos : Nat) :
    (t.after [.passes nanos, .ticks (t.clock.elapsed + nanos)]).clock = t.clock.pass nanos := by
  simp only [after, List.foldl_cons, List.foldl_nil, happen, Nat.min_self, MonotonicClock.pass]

theorem later_happen (t : Timeline) (h : Happening) : t.clock.Later (t.happen h).clock := by
  cases h with
  | passes nanos =>
    refine ⟨rfl, Nat.le_add_right _ _, UInt64.le_refl _, fun hsound => ?_⟩
    exact Nat.le_trans hsound (Nat.div_le_div_right (Nat.le_add_right _ _))
  | ticks nanos =>
    apply MonotonicClock.later_publish
    rw [UInt64.toNat_ofNat']
    exact Nat.le_trans (Nat.mod_le _ _) (Nat.div_le_div_right (Nat.min_le_right _ _))
  | wallSet nanos => exact .refl _

theorem later_after (t : Timeline) (list : List Happening) :
    t.clock.Later (t.after list).clock := by
  induction list generalizing t with
  | nil => exact .refl _
  | cons first rest ih => exact (t.later_happen first).trans (ih (t.happen first))

theorem later_reach (t : Timeline) : t.clock.Later t.reach.clock := by
  unfold reach
  cases t.ahead with
  | nil => exact .refl _
  | cons list rest => exact t.later_after list

end Timeline

/-! ## Calls -/

/-- The call is not refused for being behind, and what it issues is not before the tick `start`. -/
structure Call.OnTime (call : Call) (start : Int) : Prop where
  forward : ∀ now last, call.outcome ≠ .refused (.clockRegression now last)
  notBefore : ∀ id, call.outcome = .issued id → start ≤ id.timestamp.toNat

namespace Generator

variable {g : Generator} {last slot : Slot} {millis : UInt64} {t t' : Timeline} {call : Call}
  {waited : Bool} {patience : Nat} {start : Int}

/-- Only a reading before the last tick is refused for being behind. -/
theorem lt_of_attempt_regression (hfits : last.Fits) {now : Int64} {tick : UInt64}
    {reports : List Event} (h : g.attempt last millis = .refuse (.clockRegression now tick) reports) :
    (g.tick millis).toInt < last.tick.toNat := by
  cases leadsTo_of_attempt h with
  | behind advance => exact (Slot.advance_eq_behind_iff hfits).mp advance

theorem toInt_tick_le {clock clock' : MonotonicClock} (h : clock.Later clock')
    (hsound : clock.Sound) (hrange : clock'.InRange) :
    (g.tick clock.millis).toInt ≤ (g.tick clock'.millis).toInt :=
  Resolution.toInt_tick_mono (h.millis_le hsound hrange)

/-- **A call moves the clock to a later time.** -/
theorem await_later (h : g.await last waited patience t = (call, slot, t')) :
    t.clock.Later t'.clock := by
  rw [await_eq_iff] at h
  induction h with
  | unfinished => exact .refl _
  | @fault _ _ t _ _ read =>
    obtain ⟨-, rfl⟩ := Timeline.reading_of_read read
    exact t.later_reach
  | @issue _ _ t _ _ _ read =>
    obtain ⟨-, rfl⟩ := Timeline.reading_of_read read
    exact t.later_reach
  | @refuse _ _ t _ _ _ _ read =>
    obtain ⟨-, rfl⟩ := Timeline.reading_of_read read
    exact t.later_reach
  | @wait _ _ t _ _ _ _ _ _ read _ _ ih =>
    obtain ⟨-, rfl⟩ := Timeline.reading_of_read read
    exact (t.later_reach.trans (t.reach.later_happen _)).trans ih

/-- **A call after a tick that is not ahead of the clock is on time**, and the last tick after it is
not ahead of the clock either. -/
theorem await_onTime (hfits : last.Fits) (hsound : t.clock.Sound)
    (hstart : start ≤ (g.tick t.clock.millis).toInt)
    (hlast : (last.tick.toNat : Int) ≤ (g.tick t.clock.millis).toInt)
    (h : g.await last waited patience t = (call, slot, t')) (hrange : t'.clock.InRange) :
    call.OnTime start ∧ (slot.tick.toNat : Int) ≤ (g.tick t'.clock.millis).toInt := by
  rw [await_eq_iff] at h
  induction h with
  | unfinished => exact ⟨⟨by simp [Call.immediate], by simp [Call.immediate]⟩, hlast⟩
  | @fault _ _ t _ _ read =>
    obtain ⟨-, rfl⟩ := Timeline.reading_of_read read
    have hmono := toInt_tick_le (g := g) t.later_reach hsound hrange
    exact ⟨⟨by simp [Call.single], by simp [Call.single]⟩, Int.le_trans hlast hmono⟩
  | @issue _ _ t _ _ _ read attempt =>
    obtain ⟨hreading, rfl⟩ := Timeline.reading_of_read read
    obtain rfl := MonotonicClock.millis_of_reading hreading
    have hmono := toInt_tick_le (g := g) t.later_reach hsound hrange
    obtain ⟨hfollows, htick⟩ := (Slot.advance_eq_next_iff hfits).mp (advance_of_attempt attempt)
    refine ⟨⟨by simp [Call.single], fun id hid => ?_⟩, by omega⟩
    obtain rfl := Outcome.issued.inj hid
    rw [Slot.timestamp_toId (hfollows.fits hfits)]
    omega
  | @refuse _ _ t _ _ _ _ read attempt =>
    obtain ⟨hreading, rfl⟩ := Timeline.reading_of_read read
    obtain rfl := MonotonicClock.millis_of_reading hreading
    have hmono := toInt_tick_le (g := g) t.later_reach hsound hrange
    refine ⟨⟨fun now tick herror => ?_, by simp [Call.single]⟩, Int.le_trans hlast hmono⟩
    obtain rfl := Outcome.refused.inj herror
    have hlt := lt_of_attempt_regression hfits attempt
    omega
  | @wait _ _ t _ _ _ pause _ _ read _ more ih =>
    obtain ⟨-, rfl⟩ := Timeline.reading_of_read read
    -- after the sleep it is later still, and the last tick has not moved
    have hslept := t.later_reach.trans (t.reach.later_happen (.passes (pause.toNat * nanosPerMilli)))
    have hend := (await_later more.await_eq).inRange hrange
    have hmono := toInt_tick_le (g := g) hslept hsound hend
    obtain ⟨honTime, hslot⟩ := ih (hslept.sound hsound) (Int.le_trans hstart hmono)
      (Int.le_trans hlast hmono) hrange
    exact ⟨⟨honTime.forward, honTime.notBefore⟩, hslot⟩

end Generator

/-! ## Calls under the lock -/

namespace Cell

variable {g : Generator} {cell cell' : Cell} {t t' : Timeline} {call : Call} {start : Int}

theorem next_later (h : cell.next g t = (call, cell', t')) : t.clock.Later t'.clock := by
  cases hp : cell.poisoned with
  | true =>
    rw [next_of_poisoned hp] at h
    cases h
    exact .refl _
  | false =>
    rw [next_of_sound hp] at h
    cases h
    exact Generator.await_later rfl

theorem next_onTime (hfits : cell.last.Fits) (hsound : t.clock.Sound)
    (hstart : start ≤ (g.tick t.clock.millis).toInt)
    (hlast : (cell.last.tick.toNat : Int) ≤ (g.tick t.clock.millis).toInt)
    (h : cell.next g t = (call, cell', t')) (hrange : t'.clock.InRange) :
    call.OnTime start ∧ (cell'.last.tick.toNat : Int) ≤ (g.tick t'.clock.millis).toInt := by
  cases hp : cell.poisoned with
  | true =>
    rw [next_of_poisoned hp] at h
    cases h
    exact ⟨⟨by simp [Call.immediate], by simp [Call.immediate]⟩, hlast⟩
  | false =>
    rw [next_of_sound hp] at h
    cases h
    exact Generator.await_onTime hfits hsound hstart hlast rfl hrange

end Cell

end Snowflake
