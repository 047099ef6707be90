import Snowflake.Proofs.Clock.Tape

/-!
# Another origin of time

The offset and the readings of the clock only ever meet in the time since the origin. If the origin
is moved back by some seconds and every reading is later by as much, then that time is the same, and
with it every tick, every sleep and every answer of a call. The ends of the word make no difference:
what lies outside it before the move does so after it.

Results:
* `Resolution.shifted_rebase`: the time since the origin is the same.
* **`Generator.attempt_rebase`**: so is what a reading leads to.
* **`Generator.await_rebase`**, `Cell.next_rebase`: and what a call does.
-/

namespace Snowflake

/-! ## Readings and offsets -/

/-- The reading that is `k` seconds later. -/
def rebaseReading (k : Int) (millis : UInt64) : UInt64 :=
  UInt64.ofNat (millis.toNat + 1000 * k).toNat

/-- The offset that moves the origin by `k` seconds. -/
def rebaseOffset (k : Int) (offset : Int64) : Int64 := Int64.ofInt (offset.toInt - k)

/-- There is a reading that is `k` seconds later. -/
def ReadingMoves (k : Int) (millis : UInt64) : Prop :=
  0 ≤ millis.toNat + 1000 * k ∧ millis.toNat + 1000 * k < UInt64.size

/-- There is an offset that moves the origin by `k` seconds. -/
def OffsetMoves (k : Int) (offset : Int64) : Prop :=
  Int64.minValue.toInt ≤ offset.toInt - k ∧ offset.toInt - k ≤ Int64.maxValue.toInt

instance (k : Int) (millis : UInt64) : Decidable (ReadingMoves k millis) :=
  inferInstanceAs (Decidable (_ ∧ _))

instance (k : Int) (offset : Int64) : Decidable (OffsetMoves k offset) :=
  inferInstanceAs (Decidable (_ ∧ _))

variable {k : Int} {millis : UInt64} {offset : Int64}

theorem toNat_rebaseReading (h : ReadingMoves k millis) :
    ((rebaseReading k millis).toNat : Int) = millis.toNat + 1000 * k := by
  obtain ⟨hmin, hmax⟩ := h
  have hsize : UInt64.size = 18446744073709551616 := rfl
  unfold rebaseReading
  rw [UInt64.toNat_ofNat']
  omega

theorem toInt_rebaseOffset (h : OffsetMoves k offset) :
    (rebaseOffset k offset).toInt = offset.toInt - k :=
  Int64.toInt_ofInt_of_le h.1 (Int.lt_of_le_of_lt h.2 (by decide))

namespace Resolution

variable {r : Resolution} {target : UInt64}

/-- **The time since the origin is the same.** -/
theorem shifted_rebase (hmillis : ReadingMoves k millis) (hoffset : OffsetMoves k offset) :
    shifted (rebaseReading k millis) (rebaseOffset k offset) = shifted millis offset := by
  unfold shifted
  rw [toNat_rebaseReading hmillis, toInt_rebaseOffset hoffset]
  omega

theorem tick_rebase (hmillis : ReadingMoves k millis) (hoffset : OffsetMoves k offset) :
    r.tick (rebaseReading k millis) (rebaseOffset k offset) = r.tick millis offset := by
  unfold tick exactTick
  rw [shifted_rebase hmillis hoffset]

theorem millisUntil_rebase (hmillis : ReadingMoves k millis) (hoffset : OffsetMoves k offset) :
    r.millisUntil target (rebaseReading k millis) (rebaseOffset k offset) =
      r.millisUntil target millis offset := by
  unfold millisUntil
  rw [shifted_rebase hmillis hoffset]

end Resolution

/-! ## Calls -/

/-- The readings of the tape, each `k` seconds later. -/
def Tape.rebase (k : Int) (tape : Tape) : Tape := ⟨tape.readings.map (rebaseReading k)⟩

namespace Generator

/-- The generator with an origin that is moved by `k` seconds. -/
def rebase (k : Int) (g : Generator) : Generator := { g with offset := rebaseOffset k g.offset }

variable {g : Generator} {last slot : Slot}

/-- **What a reading leads to is the same.** -/
theorem attempt_rebase (hmillis : ReadingMoves k millis) (hoffset : OffsetMoves k g.offset) :
    (g.rebase k).attempt last (rebaseReading k millis) = g.attempt last millis := by
  have htick : (g.rebase k).tick (rebaseReading k millis) = g.tick millis :=
    Resolution.tick_rebase hmillis hoffset
  have hpause : (g.rebase k).pause last (rebaseReading k millis) = g.pause last millis :=
    congrArg (max 1) (Resolution.millisUntil_rebase hmillis hoffset)
  rw [attempt_eq, attempt_eq, htick, hpause]
  rfl

/-- **So is what a call does.** -/
theorem await_rebase {waited : Bool} {patience : Nat} {tape tape' : Tape} {call : Call}
    (hoffset : OffsetMoves k g.offset) (htape : ∀ millis ∈ tape.readings, ReadingMoves k millis)
    (h : g.await last waited patience tape = (call, slot, tape')) :
    (g.rebase k).await last waited patience (tape.rebase k) = (call, slot, tape'.rebase k) := by
  rw [await_eq_iff] at h ⊢
  induction h with
  | unfinished => exact .unfinished
  | @fault _ _ tape _ _ read =>
    obtain ⟨readings⟩ := tape
    cases readings with
    | nil =>
      cases read
      exact .fault rfl
    | cons first rest => exact absurd (congrArg Prod.fst read) (by simp [Clock.read, Tape.read])
  | @issue _ _ tape _ _ _ read attempt =>
    obtain ⟨readings⟩ := tape
    obtain rfl := Tape.readings_of_read read
    exact .issue rfl ((attempt_rebase (htape _ List.mem_cons_self) hoffset).trans attempt)
  | @refuse _ _ tape _ _ _ _ read attempt =>
    obtain ⟨readings⟩ := tape
    obtain rfl := Tape.readings_of_read read
    exact .refuse rfl ((attempt_rebase (htape _ List.mem_cons_self) hoffset).trans attempt)
  | @wait _ _ tape _ _ _ _ _ _ read attempt _ ih =>
    obtain ⟨readings⟩ := tape
    obtain rfl := Tape.readings_of_read read
    exact .wait rfl ((attempt_rebase (htape _ List.mem_cons_self) hoffset).trans attempt)
      (ih fun m hm => htape m (List.mem_cons_of_mem _ hm))

end Generator

/-- The same under the lock. -/
theorem Cell.next_rebase {g : Generator} {cell cell' : Cell} {tape tape' : Tape} {call : Call}
    (hoffset : OffsetMoves k g.offset) (htape : ∀ millis ∈ tape.readings, ReadingMoves k millis)
    (h : cell.next g tape = (call, cell', tape')) :
    cell.next (g.rebase k) (tape.rebase k) = (call, cell', tape'.rebase k) := by
  cases hp : cell.poisoned with
  | true =>
    rw [next_of_poisoned hp] at h ⊢
    cases h
    rfl
  | false =>
    rcases hcall : g.next cell.last tape with ⟨call₀, slot, tape₀⟩
    rw [next_of_sound hp, hcall] at h
    cases h
    have hlength : (tape.rebase k).readings.length = tape.readings.length := List.length_map _
    have hnext : (g.rebase k).next cell.last (tape.rebase k) = (call₀, slot, tape₀.rebase k) := by
      change (g.rebase k).await cell.last false ((tape.rebase k).readings.length + 1) _ = _
      rw [hlength]
      exact Generator.await_rebase hoffset htape hcall
    rw [next_of_sound hp, hnext]

end Snowflake
