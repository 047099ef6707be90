import Snowflake.Proofs.Clock.Timeline

/-!
# A monotonic clock and its clones

Clones of a monotonic clock share its counter, and each keeps a copy of the anchor. The ticker
publishes to the counter whatever it has measured, in time or late, once or again, and the counter
keeps the largest. A reading adds anchor and counter and fails if the sum does not fit the word: the
anchor may be any word, and nothing looks at it when the clock is made.

Results:
* `MonotonicClock.Family.after_holds`: at any time all of them hold the anchor, and the counter
  holds the largest value published.
* **`MonotonicClock.Family.reading_law`**: what each of them reads at any time, until the sum
  outgrows the word; from then on readings fail.
* `MonotonicClock.Family.reading_faults`: with the largest anchor that is after a millisecond.
-/

namespace Snowflake.MonotonicClock

/-- Something that is done with a clock and its clones, other than reading them. -/
inductive Use where
  /-- The ticker publishes what it measured. -/
  | publish (measured : UInt64)
  /-- The clock of that number is cloned. -/
  | clone (i : Nat)
  deriving DecidableEq, Repr

namespace Use

/-- The largest of a number and what is published. -/
def raise (n : Nat) : Use → Nat
  | .publish measured => max n measured.toNat
  | .clone _ => n

/-- **The largest value published**; zero before the ticker has published anything. -/
def largest (uses : List Use) : Nat := uses.foldl raise 0

theorem le_raise (n : Nat) (use : Use) : n ≤ use.raise n := by
  cases use with
  | publish measured => exact Nat.le_max_left _ _
  | clone => exact Nat.le_refl n

theorem le_foldl_raise (n : Nat) (uses : List Use) : n ≤ uses.foldl raise n := by
  induction uses generalizing n with
  | nil => exact Nat.le_refl n
  | cons use rest ih => exact Nat.le_trans (use.le_raise n) (ih (use.raise n))

/-- The largest value published does not fall. -/
theorem largest_le_append (uses more : List Use) : largest uses ≤ largest (uses ++ more) := by
  unfold largest
  rw [List.foldl_append]
  exact le_foldl_raise _ more

end Use

/-- A clock and its clones, numbered from zero in the order in which they were made. -/
structure Family where
  /-- The clock that was made first, with the counter that all of them share. -/
  first : MonotonicClock
  /-- The copy of the anchor that each of them keeps. -/
  anchors : List UInt64

namespace Family

/-- The clock of a number: its own anchor on the shared counter. -/
def clock? (family : Family) (i : Nat) : Option MonotonicClock :=
  family.anchors[i]?.map fun anchor => { family.first with anchor }

/-- A new clock, which has no clones yet. -/
def start (anchor : UInt64) : Family := ⟨.start anchor, [anchor]⟩

/-- The clocks after one of them is used or the ticker has published. -/
def use (family : Family) : Use → Family
  | .publish measured => { family with first := family.first.publish measured }
  | .clone i => { family with anchors := family.anchors ++ family.anchors[i]?.toList }

/-- A clock that was made with the anchor, and its clones, after all that was done with them. -/
def after (anchor : UInt64) (uses : List Use) : Family := uses.foldl use (start anchor)

/-! ## What they hold -/

/-- All the clocks hold the anchor, and their counter holds `n`. -/
structure Holds (family : Family) (anchor : UInt64) (n : Nat) : Prop where
  anchors : ∀ a ∈ family.anchors, a = anchor
  published : family.first.published.toNat = n

variable {family : Family} {anchor : UInt64} {n i : Nat} {clock : MonotonicClock}

theorem start_holds (anchor : UInt64) : (start anchor).Holds anchor 0 :=
  ⟨fun _ => List.mem_singleton.mp, rfl⟩

/-- Publishing raises the counter, and cloning copies the anchor. -/
theorem Holds.use (h : family.Holds anchor n) (u : Use) :
    (family.use u).Holds anchor (u.raise n) := by
  cases u with
  | publish measured =>
    refine ⟨h.anchors, ?_⟩
    rw [← h.published]
    exact toNat_max _ _
  | clone i =>
    refine ⟨fun a hmem => ?_, h.published⟩
    rcases List.mem_append.mp hmem with hmem | hmem
    · exact h.anchors a hmem
    · rw [Option.mem_toList] at hmem
      exact h.anchors a (List.mem_of_getElem? hmem)

theorem Holds.foldl (h : family.Holds anchor n) (uses : List Use) :
    (uses.foldl Family.use family).Holds anchor (uses.foldl Use.raise n) := by
  induction uses generalizing family n with
  | nil => exact h
  | cons u rest ih => exact ih (h.use u)

/-- **At any time all clocks hold the anchor, and the counter the largest value published.** -/
theorem after_holds (anchor : UInt64) (uses : List Use) :
    (after anchor uses).Holds anchor (Use.largest uses) :=
  (start_holds anchor).foldl uses

/-! ## What they read -/

theorem Holds.of_clock? (h : family.Holds anchor n) (hclock : family.clock? i = some clock) :
    clock.anchor = anchor ∧ clock.published.toNat = n := by
  obtain ⟨a, ha, rfl⟩ := Option.map_eq_some_iff.mp hclock
  exact ⟨h.anchors a (List.mem_of_getElem? ha), h.published⟩

/-- **A reading is the exact sum of what a clock holds.** -/
theorem Holds.read_eq_ok_iff (h : family.Holds anchor n) (hclock : family.clock? i = some clock)
    {reading : UInt64} :
    Clock.read clock = (.ok reading, clock) ↔ reading.toNat = anchor.toNat + n := by
  obtain ⟨rfl, rfl⟩ := h.of_clock? hclock
  rw [← reading_eq_ok_iff]
  exact Prod.mk_left_inj

/-- There is none exactly if the word does not hold the sum. -/
theorem Holds.read_eq_error_iff (h : family.Holds anchor n)
    (hclock : family.clock? i = some clock) :
    Clock.read clock = (.error .overflow, clock) ↔ 2 ^ 64 ≤ anchor.toNat + n := by
  obtain ⟨rfl, rfl⟩ := h.of_clock? hclock
  rw [← reading_eq_error_iff]
  exact Prod.mk_left_inj

/-- **As long as the word holds the anchor and the largest value published, a monotonic clock reads
their sum**, itself and through every clone, and a reading leaves it as it is. Such a reading is at
or above the anchor, and no later one, whichever of the clocks it is taken from, is below it. **Once
the word does not hold the sum, every reading fails**, for all of them and for good. -/
theorem reading_law (anchor : UInt64) (before : List Use)
    (h : (after anchor before).clock? i = some clock) :
    (anchor.toNat + Use.largest before < 2 ^ 64 →
      ∃ reading, Clock.read clock = (.ok reading, clock) ∧
        reading.toNat = anchor.toNat + Use.largest before ∧ anchor ≤ reading ∧
        ∀ more j clock' reading', (after anchor (before ++ more)).clock? j = some clock' →
          Clock.read clock' = (.ok reading', clock') → reading ≤ reading') ∧
    (2 ^ 64 ≤ anchor.toNat + Use.largest before →
      ∀ more j clock', (after anchor (before ++ more)).clock? j = some clock' →
        Clock.read clock' = (.error .overflow, clock')) := by
  constructor
  · intro hfits
    have hword : (UInt64.ofNat (anchor.toNat + Use.largest before)).toNat =
        anchor.toNat + Use.largest before := UInt64.toNat_ofNat_of_lt' hfits
    refine ⟨_, ((after_holds anchor before).read_eq_ok_iff h).mpr hword, hword, ?_, ?_⟩
    · rw [UInt64.le_iff_toNat_le, hword]
      exact Nat.le_add_right _ _
    · intro more j clock' reading' h' hread
      have hsum := ((after_holds anchor (before ++ more)).read_eq_ok_iff h').mp hread
      have hgrows := Use.largest_le_append before more
      rw [UInt64.le_iff_toNat_le, hword, hsum]
      omega
  · intro hover more j clock' h'
    have hgrows := Use.largest_le_append before more
    exact ((after_holds anchor (before ++ more)).read_eq_error_iff h').mpr (by omega)

/-- A clone of a clone is read after a late publication, right below the top of the word. One
millisecond later no clock can be read any more. -/
theorem reading_law_clone :
    ∃ clock reading clock' reading' clock'',
      (after 18446744073709551613 [.publish 1, .clone 0]).clock? 1 = some clock ∧
      Clock.read clock = (.ok reading, clock) ∧ reading.toNat = 2 ^ 64 - 2 ∧
      (after 18446744073709551613
        [.publish 1, .clone 0, .publish 2, .publish 1, .clone 1]).clock? 2 = some clock' ∧
      Clock.read clock' = (.ok reading', clock') ∧ reading'.toNat = 2 ^ 64 - 1 ∧
      reading ≤ reading' ∧
      (after 18446744073709551613 [.publish 3, .publish 1, .clone 0]).clock? 1 = some clock'' ∧
      Clock.read clock'' = (.error .overflow, clock'') := by
  obtain ⟨reading, hread, hsum, -, hlater⟩ :=
    (reading_law (i := 1) 18446744073709551613 [.publish 1, .clone 0] rfl).1 (by decide)
  obtain ⟨reading', hread', hsum', -, -⟩ :=
    (reading_law (i := 2) 18446744073709551613
      [.publish 1, .clone 0, .publish 2, .publish 1, .clone 1] rfl).1 (by decide)
  have hover := (reading_law (i := 0) 18446744073709551613 [.publish 3] rfl).2 (by decide)
    [.publish 1, .clone 0] 1 _ rfl
  exact ⟨_, reading, _, reading', _, rfl, hread, hsum, rfl, hread', hsum',
    hlater [.publish 2, .publish 1, .clone 1] 2 _ reading' rfl hread', rfl, hover⟩

/-- **At the top of the word there is no reading.** The clock is made with the largest anchor, and
is read before and after one millisecond: the second reading is not the anchor and the millisecond,
but fails. -/
theorem reading_faults :
    ∃ clock clock',
      (after 18446744073709551615 []).clock? 0 = some clock ∧
      Clock.read clock = (.ok 18446744073709551615, clock) ∧
      (after 18446744073709551615 [.publish 1]).clock? 0 = some clock' ∧
      Clock.read clock' = (.error .overflow, clock') ∧
      ∀ reading : UInt64, reading.toNat ≠ 18446744073709551615 + Use.largest [.publish 1] :=
  ⟨_, _, rfl, rfl, rfl, rfl, fun reading => Nat.ne_of_lt reading.toNat_lt⟩

end Family

end Snowflake.MonotonicClock
