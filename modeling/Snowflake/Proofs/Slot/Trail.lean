import Mathlib.Data.List.Chain
import Snowflake.Proofs.Id.Layout

/-!
# What follows a slot

A generator goes from one slot to the next in one of two ways (`Slot.Follows`): to the next number
of the same tick, or to number zero of a later one. A run of a generator is a trail of such steps
(`Slot.Trail`).

Results:
* `Slot.Trail.fits`: a trail that begins at a slot that fits stays with slots that fit.
* `Slot.Trail.rank_pairwise`, `Slot.Trail.toId_pairwise`: the slots of a trail rise, and so do
  their identifiers.
* **`Slot.Trail.mem_of_between`**: between two slots of one tick a trail leaves no number out.
* `Slot.Trail.mem_up_to_last`: nor does it on its way to its last slot.
-/

namespace Snowflake

namespace Slot

/-! ## One step -/

/-- `b` may be given out right after `a`. -/
inductive Follows (a : Slot) : Slot → Prop where
  /-- The next number of the same tick, while there is one. -/
  | within (h : a.sequence.toNat + 1 ≤ Layout.maxSequence.toNat) :
      Follows a ⟨a.tick, a.sequence + 1⟩
  /-- The start of a later tick that the timestamp field holds. -/
  | later (tick : UInt64) (h : a.tick < tick) (hmax : tick ≤ Layout.maxTimestamp) :
      Follows a ⟨tick, 0⟩

variable {a b : Slot} {slots : List Slot}

theorem toNat_sequence_succ (h : a.sequence.toNat + 1 ≤ Layout.maxSequence.toNat) :
    (a.sequence + 1).toNat = a.sequence.toNat + 1 := by
  change _ ≤ 2047 at h
  rw [UInt16.toNat_add]
  change (a.sequence.toNat + 1) % 2 ^ 16 = _
  omega

theorem Follows.fits (h : Follows a b) (ha : a.Fits) : b.Fits := by
  cases h with
  | within h =>
    refine ⟨ha.tick, UInt16.le_iff_toNat_le.mpr ?_⟩
    rw [toNat_sequence_succ h]
    exact h
  | later tick _ hmax => exact ⟨hmax, UInt16.zero_le⟩

theorem Follows.tick_le (h : Follows a b) : a.tick.toNat ≤ b.tick.toNat := by
  cases h with
  | within => exact Nat.le_refl _
  | later tick h _ => exact Nat.le_of_lt (UInt64.lt_iff_toNat_lt.mp h)

/-- A slot that follows another is the higher one. -/
theorem Follows.rank_lt (h : Follows a b) (ha : a.Fits) : a.rank < b.rank := by
  have hs := ha.sequence_lt
  cases h with
  | within h =>
    simp only [rank, toNat_sequence_succ h]
    omega
  | later tick h _ =>
    have := UInt64.lt_iff_toNat_lt.mp h
    simp only [rank, UInt16.toNat_zero]
    omega

/-! ## Many steps -/

/-- From `a` through `slots` to `b`, each slot following the one before it. -/
inductive Trail : Slot → List Slot → Slot → Prop where
  | nil (a : Slot) : Trail a [] a
  | cons {a b c : Slot} {slots : List Slot} (head : Follows a b) (tail : Trail b slots c) :
      Trail a (b :: slots) c

theorem Trail.isChain (h : Trail a slots b) : (a :: slots).IsChain Follows := by
  induction h with
  | nil a => exact List.isChain_singleton a
  | cons head _ ih => exact List.isChain_cons_cons.mpr ⟨head, ih⟩

theorem Trail.getLast_eq (h : Trail a slots b) :
    (a :: slots).getLast (List.cons_ne_nil _ _) = b := by
  induction h with
  | nil => rfl
  | cons _ _ ih => rw [List.getLast_cons (List.cons_ne_nil _ _)]; exact ih

theorem Trail.fits (h : Trail a slots b) (ha : a.Fits) : ∀ s ∈ a :: slots, s.Fits := by
  induction h with
  | nil => simpa using ha
  | cons head _ ih =>
    intro s hs
    rcases List.mem_cons.mp hs with rfl | hs
    · exact ha
    · exact ih (head.fits ha) s hs

theorem Trail.last_mem (h : Trail a slots b) : b ∈ a :: slots := by
  rw [← h.getLast_eq]
  exact List.getLast_mem _

theorem Trail.tick_le (h : Trail a slots b) : ∀ s ∈ slots, a.tick.toNat ≤ s.tick.toNat := by
  induction h with
  | nil => simp
  | cons head _ ih =>
    intro s hs
    rcases List.mem_cons.mp hs with rfl | hs
    · exact head.tick_le
    · exact Nat.le_trans head.tick_le (ih s hs)

/-- **The slots of a trail rise**, its first one included. -/
theorem Trail.rank_pairwise (h : Trail a slots b) (ha : a.Fits) :
    (a :: slots).Pairwise fun x y => x.rank < y.rank := by
  induction h with
  | nil => exact List.pairwise_singleton _ _
  | cons head _ ih =>
    have hrest := ih (head.fits ha)
    refine List.pairwise_cons.mpr ⟨fun s hs => ?_, hrest⟩
    rcases List.mem_cons.mp hs with rfl | hs
    · exact head.rank_lt ha
    · exact Nat.lt_trans (head.rank_lt ha) ((List.pairwise_cons.mp hrest).1 s hs)

/-- The last slot of a trail is its highest. -/
theorem Trail.rank_le_last (h : Trail a slots b) (ha : a.Fits) :
    ∀ s ∈ a :: slots, s.rank ≤ b.rank := by
  induction h with
  | nil a =>
    intro s hs
    rw [List.mem_singleton.mp hs]
  | cons head _ ih =>
    intro s hs
    have hrest := ih (head.fits ha)
    rcases List.mem_cons.mp hs with rfl | hs
    · exact Nat.le_trans (Nat.le_of_lt (head.rank_lt ha)) (hrest _ List.mem_cons_self)
    · exact hrest s hs

/-- **So do the identifiers made from them.** -/
theorem Trail.toId_pairwise (h : Trail a slots b) (ha : a.Fits) (g : UInt16) :
    ((a :: slots).map fun slot => slot.toId g).Pairwise fun x y => x.bits < y.bits := by
  rw [List.pairwise_map]
  refine (h.rank_pairwise ha).imp_of_mem fun hx hy hlt => ?_
  exact toId_lt (h.fits ha _ hx) (h.fits ha _ hy) hlt g g

/-- Up to any slot of its first tick a trail leaves no number out. -/
theorem Trail.mem_of_le (h : Trail a slots b) {n : UInt16} (hn : a.sequence ≤ n) :
    ∀ s ∈ a :: slots, s.tick = a.tick → n ≤ s.sequence → ⟨a.tick, n⟩ ∈ a :: slots := by
  induction h with
  | nil a =>
    intro s hs _ hns
    obtain rfl := List.mem_singleton.mp hs
    rw [UInt16.le_antisymm hns hn]
    exact List.mem_cons_self
  | @cons a _ _ _ head tail ih =>
    intro s hs htick hns
    by_cases heq : n = a.sequence
    · rw [heq]
      exact List.mem_cons_self
    rcases List.mem_cons.mp hs with rfl | hs
    · exact absurd (UInt16.le_antisymm hns hn) heq
    cases head with
    | within h =>
      -- the next slot has the next number, which is at most `n`
      have hlt := UInt16.lt_iff_toNat_lt.mp (UInt16.lt_of_le_of_ne hn (Ne.symm heq))
      refine List.mem_cons_of_mem _ (ih ?_ s hs htick hns)
      rw [UInt16.le_iff_toNat_le, toNat_sequence_succ h]
      exact hlt
    | later tick h _ =>
      -- a trail that has left the tick does not come back
      have hle : tick.toNat ≤ s.tick.toNat := by
        rcases List.mem_cons.mp hs with rfl | hs
        · exact Nat.le_refl _
        · exact tail.tick_le s hs
      rw [htick] at hle
      exact absurd (UInt64.lt_iff_toNat_lt.mp h) (Nat.not_lt.mpr hle)

/-- **Between two slots of one tick a trail leaves no number out.** -/
theorem Trail.mem_of_between (h : Trail a slots b) (ha : a.Fits) {n : UInt16} :
    ∀ x ∈ a :: slots, ∀ y ∈ a :: slots, x.tick = y.tick → x.sequence ≤ n → n ≤ y.sequence →
      ⟨x.tick, n⟩ ∈ a :: slots := by
  induction h with
  | nil a =>
    intro x hx y hy htick hxn hny
    obtain rfl := List.mem_singleton.mp hx
    exact (Trail.nil x).mem_of_le hxn y hy htick.symm hny
  | @cons a _ _ _ head tail ih =>
    intro x hx y hy htick hxn hny
    rcases List.mem_cons.mp hx with rfl | hx'
    · exact (Trail.cons head tail).mem_of_le hxn y hy htick.symm hny
    rcases List.mem_cons.mp hy with rfl | hy'
    · -- `x` comes after `y` in the same tick, so its number is the higher one
      have hrank := (List.pairwise_cons.mp ((Trail.cons head tail).rank_pairwise ha)).1 x hx'
      have hle := UInt16.le_iff_toNat_le.mp (UInt16.le_trans hxn hny)
      unfold rank at hrank
      rw [htick] at hrank
      omega
    · exact List.mem_cons_of_mem _ (ih (head.fits ha) x hx' y hy' htick hxn hny)

/-- **A trail has come to its last slot by all the numbers of that tick before it**, from zero on, or
from the one after its start if it began in that tick. -/
theorem Trail.mem_up_to_last (h : Trail a slots b) {n : UInt16} (hn : n ≤ b.sequence)
    (hstart : b.tick = a.tick → a.sequence < n) : ⟨b.tick, n⟩ ∈ slots := by
  induction h with
  | nil a => exact absurd hn (UInt16.not_le.mpr (hstart rfl))
  | @cons a x b _ head _ ih =>
    by_cases hx : b.tick = x.tick → x.sequence < n
    · exact List.mem_cons_of_mem _ (ih hn hx)
    · -- the first step has come to the number already
      obtain ⟨htick, hle⟩ := Classical.not_imp.mp hx
      have hle := UInt16.le_iff_toNat_le.mp (UInt16.not_lt.mp hle)
      have hnum : n = x.sequence := by
        apply UInt16.toNat_inj.mp
        cases head with
        | within h =>
          have hlt := UInt16.lt_iff_toNat_lt.mp (hstart htick)
          rw [toNat_sequence_succ h] at hle ⊢
          omega
        | later tick h _ => exact Nat.le_antisymm hle (Nat.zero_le _)
      rw [htick, hnum]
      exact List.mem_cons_self

end Slot

end Snowflake
