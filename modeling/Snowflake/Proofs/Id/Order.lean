import Snowflake.Proofs.Id.Bytes
import Snowflake.Proofs.Id.Canonical

/-!
# The order of identifiers

Identifiers are ordered as integers. The word is a number written in digits of two kinds: its fields,
with the top bit in front of them, and its bytes. In either way of writing the higher digit decides,
and the next one where it does not; so the order of the integers is that of the fields, timestamp
first, and that of the bytes.

Results:
* `Id.compare_digits`: numbers of two digits are compared digit by digit.
* `Id.compareLex_bigEndian`: bytes of one length are compared as the numbers that they denote.
* `Id.compare_eq_compareFields`, `Id.compare_eq_compareBytes`: the two readings of the order.
* **`Id.ordering_law`**: both, and which bytes are read as an identifier.
-/

namespace Snowflake.Id

/-! ## Words and digits -/

/-- What is ordered and told apart by a number is compared by it. -/
theorem compareOfLessAndEq_eq_compare {α : Type} [LT α] [DecidableLT α] [DecidableEq α]
    {f : α → Nat} (hlt : ∀ {a b : α}, a < b ↔ f a < f b) (heq : ∀ {a b : α}, f a = f b ↔ a = b)
    (a b : α) : compareOfLessAndEq a b = compare (f a) (f b) := by
  unfold compareOfLessAndEq
  rcases Nat.lt_trichotomy (f a) (f b) with h | h | h
  · rw [if_pos (hlt.mpr h), Nat.compare_eq_lt.mpr h]
  · rw [if_neg (by rw [hlt]; omega), if_pos (heq.mp h), Nat.compare_eq_eq.mpr h]
  · rw [if_neg (by rw [hlt]; omega), if_neg (by rw [← heq]; omega), Nat.compare_eq_gt.mpr h]

theorem compare_uint8 (a b : UInt8) : compare a b = compare a.toNat b.toNat :=
  compareOfLessAndEq_eq_compare UInt8.lt_iff_toNat_lt UInt8.toNat_inj a b

theorem compare_uint16 (a b : UInt16) : compare a b = compare a.toNat b.toNat :=
  compareOfLessAndEq_eq_compare UInt16.lt_iff_toNat_lt UInt16.toNat_inj a b

theorem compare_uint64 (a b : UInt64) : compare a b = compare a.toNat b.toNat :=
  compareOfLessAndEq_eq_compare UInt64.lt_iff_toNat_lt UInt64.toNat_inj a b

/-- **Of two digits the higher one decides**, and the lower one where it does not. -/
theorem compare_digits {base high high' low low' : Nat} (h : low < base) (h' : low' < base) :
    compare (high * base + low) (high' * base + low') =
      (compare high high').then (compare low low') := by
  rcases Nat.lt_trichotomy high high' with hlt | rfl | hgt
  · have hmul := Nat.mul_le_mul_right base (Nat.succ_le_of_lt hlt)
    rw [Nat.succ_mul] at hmul
    rw [Nat.compare_eq_lt.mpr hlt, Ordering.lt_then, Nat.compare_eq_lt]
    omega
  · rw [Nat.compare_eq_eq.mpr rfl, Ordering.eq_then]
    rcases Nat.lt_trichotomy low low' with hlow | rfl | hlow
    · rw [Nat.compare_eq_lt.mpr hlow, Nat.compare_eq_lt]
      omega
    · rw [Nat.compare_eq_eq.mpr rfl, Nat.compare_eq_eq.mpr rfl]
    · rw [Nat.compare_eq_gt.mpr hlow, Nat.compare_eq_gt]
      omega
  · have hmul := Nat.mul_le_mul_right base (Nat.succ_le_of_lt hgt)
    rw [Nat.succ_mul] at hmul
    rw [Nat.compare_eq_gt.mpr hgt, Ordering.gt_then, Nat.compare_eq_gt]
    omega

/-! ## By fields -/

/-- The top bit, which belongs to no field. -/
def topBit (id : Id) : UInt64 := id.bits >>> 63

theorem toNat_topBit (id : Id) : id.topBit.toNat = id.bits.toNat / 2 ^ 63 := by
  unfold topBit
  rw [UInt64.toNat_shiftRight, Nat.shiftRight_eq_div_pow]
  rfl

/-- Timestamp first, then sequence number, then generator id. -/
def compareFields (a b : Id) : Ordering :=
  (compare a.timestamp b.timestamp).then <|
    (compare a.sequence b.sequence).then (compare a.generatorId b.generatorId)

/-- **The word in its digits**: the top bit and the three fields. -/
theorem toNat_bits (id : Id) : id.bits.toNat =
    id.topBit.toNat * 2 ^ 63 + (id.timestamp.toNat * 2 ^ 21 +
      (id.sequence.toNat * 2 ^ 10 + id.generatorId.toNat)) := by
  have hlt := id.bits.toNat_lt
  rw [toNat_topBit, toNat_timestamp, toNat_sequence, toNat_generatorId]
  omega

/-- The order of integers is that of the fields, with the top bit in front of them. -/
theorem compare_eq_compareFields (a b : Id) :
    compare a b = (compare a.topBit b.topBit).then (compareFields a b) := by
  have hwidths : ∀ id : Id, id.generatorId.toNat < 2 ^ 10 ∧
      id.sequence.toNat * 2 ^ 10 + id.generatorId.toNat < 2 ^ 21 ∧
      id.timestamp.toNat * 2 ^ 21 + (id.sequence.toNat * 2 ^ 10 + id.generatorId.toNat) <
        2 ^ 63 := by
    intro id
    rw [toNat_timestamp, toNat_sequence, toNat_generatorId]
    omega
  obtain ⟨hgen, hseq, htime⟩ := hwidths a
  obtain ⟨hgen', hseq', htime'⟩ := hwidths b
  change compare a.bits b.bits = _
  unfold compareFields
  rw [compare_uint64 a.bits, compare_uint64 a.topBit, compare_uint64 a.timestamp,
    compare_uint16 a.sequence, compare_uint16 a.generatorId, toNat_bits, toNat_bits b,
    compare_digits htime htime', compare_digits hseq hseq', compare_digits hgen hgen']

/-- A word is determined by its top bit and its fields. -/
theorem eq_of_fields {a b : Id} (htop : a.topBit = b.topBit) (ht : a.timestamp = b.timestamp)
    (hs : a.sequence = b.sequence) (hg : a.generatorId = b.generatorId) : a = b := by
  have hbits : a.bits = b.bits := by
    apply UInt64.toNat_inj.mp
    rw [toNat_bits a, toNat_bits b, htop, ht, hs, hg]
  cases a
  exact congrArg Id.mk hbits

/-! ## By bytes -/

/-- **Bytes of one length are compared as the numbers that they denote.** -/
theorem compareLex_bigEndian {list list' : List UInt8} (hlen : list.length = list'.length) :
    List.compareLex compare list list' = compare (bigEndian list) (bigEndian list') := by
  induction list generalizing list' with
  | nil =>
    rw [List.length_eq_zero_iff.mp hlen.symm, List.compareLex_nil_nil, Nat.compare_eq_eq.mpr rfl]
  | cons byte list ih =>
    cases list' with
    | nil => exact absurd hlen (by simp)
    | cons byte' list' =>
      have hlen := Nat.succ.inj hlen
      have hlt' := bigEndian_lt list'
      rw [← hlen] at hlt'
      rw [List.compareLex_cons_cons, ih hlen, bigEndian_cons, bigEndian_cons, ← hlen,
        compare_digits (bigEndian_lt list) hlt', compare_uint8]

/-- The order of integers is that of the bytes. -/
theorem compare_eq_compareBytes (a b : Id) :
    compare a b = List.compareLex compare a.bytes b.bytes := by
  have hbytes : List.compareLex compare a.bytes b.bytes =
      compare (bigEndian a.bytes) (bigEndian b.bytes) := compareLex_bigEndian rfl
  rw [hbytes, bigEndian_bytes, bigEndian_bytes]
  exact compare_uint64 a.bits b.bits

/-- Bytes that are not those of an identifier have another length than eight. -/
theorem ofBytes_eq_error {list : List UInt8} (h : ∀ id : Id, list ≠ id.bytes) :
    ofBytes list = .error (.invalidEncoding (.invalidLength byteCount list.length)) := by
  unfold ofBytes
  by_cases hlen : list.length = byteCount
  · have hok : ofBytes list = .ok ⟨UInt64.ofNat (bigEndian list)⟩ := if_pos hlen
    exact absurd (ofBytes_eq_ok_iff.mp hok) (h _)
  · rw [if_neg hlen]

/-! ## The law -/

/-- **One order, read in three ways.** Of any two words the order as integers is the lexicographic
one of top bit, timestamp, sequence number and generator id, and the lexicographic one of their
bytes. Words without the top bit are ordered by their fields alone, and a word is determined by top
bit and fields. Bytes are read as an identifier exactly if they are its bytes, and other bytes are
refused for their length. -/
theorem ordering_law (a b : Id) (list : List UInt8) :
    compare a b = compare a.bits.toNat b.bits.toNat ∧
    compare a b = (compare a.topBit b.topBit).then (compareFields a b) ∧
    compare a b = List.compareLex compare a.bytes b.bytes ∧
    (a.topBit = 0 → b.topBit = 0 → compare a b = compareFields a b) ∧
    (a.topBit = b.topBit → a.timestamp = b.timestamp → a.sequence = b.sequence →
      a.generatorId = b.generatorId → a = b) ∧
    (∀ id, ofBytes list = .ok id ↔ list = id.bytes) ∧
    ((∀ id : Id, list ≠ id.bytes) →
      ofBytes list = .error (.invalidEncoding (.invalidLength 8 list.length))) := by
  refine ⟨compare_uint64 a.bits b.bits, compare_eq_compareFields a b, compare_eq_compareBytes a b,
    fun ha hb => ?_, eq_of_fields, fun id => ofBytes_eq_ok_iff, ofBytes_eq_error⟩
  have hself : compare (0 : UInt64) 0 = .eq := by decide
  rw [compare_eq_compareFields, ha, hb, hself, Ordering.eq_then]

/-- The last number of a tick and the first of the next one, and seven bytes. -/
theorem ordering_law_next_tick :
    let a : Id := (⟨7, 2047⟩ : Slot).toId 255
    let b : Id := (⟨8, 0⟩ : Slot).toId 0
    compare a b = .lt ∧ compareFields a b = .lt ∧
      List.compareLex compare a.bytes b.bytes = .lt ∧
      ofBytes (a.bytes.take 7) = .error (.invalidEncoding (.invalidLength 8 7)) := by
  intro a b
  obtain ⟨hint, -, hbytes, hfields, -, -, herror⟩ := ordering_law a b (a.bytes.take 7)
  have hlt : compare a b = .lt := hint.trans (by decide)
  have hshort : ∀ id : Id, a.bytes.take 7 ≠ id.bytes := by
    intro id heq
    have hlen : 7 = 8 := congrArg List.length heq
    exact absurd hlen (by decide)
  exact ⟨hlt, (hfields (by decide) (by decide)).symm.trans hlt, hbytes.symm.trans hlt,
    herror hshort⟩

end Snowflake.Id
