import Mathlib.Algebra.Group.Nat.Defs
import Snowflake.Id

/-!
# The bytes of an identifier

The binary form is the word in base 256, eight digits with the highest first. As in every base, a
number has one form of a given length, so that eight bytes are the form of the word they denote and
of no other.

Results:
* `Id.bigEndian_inj`: bytes of one length that denote the same number are the same.
* `Id.bigEndian_bytes`: the bytes of an identifier denote its word.
* **`Id.ofBytes_eq_ok_iff`**: bytes are read as an identifier exactly if they are its bytes.
-/

namespace Snowflake.Id

/-! ## Numbers in base 256 -/

theorem bigEndian_foldl (n : Nat) (list : List UInt8) :
    list.foldl (fun n byte => n * 256 + byte.toNat) n = n * 256 ^ list.length + bigEndian list := by
  unfold bigEndian
  induction list generalizing n with
  | nil => simp
  | cons byte list ih =>
    rw [List.foldl_cons, List.foldl_cons, ih, ih (0 * 256 + byte.toNat), List.length_cons,
      Nat.pow_succ']
    simp only [Nat.zero_mul, Nat.zero_add, Nat.add_mul, Nat.mul_assoc, Nat.add_assoc]

theorem bigEndian_cons (byte : UInt8) (list : List UInt8) :
    bigEndian (byte :: list) = byte.toNat * 256 ^ list.length + bigEndian list := by
  rw [bigEndian, List.foldl_cons, bigEndian_foldl, Nat.zero_mul, Nat.zero_add]

theorem bigEndian_lt (list : List UInt8) : bigEndian list < 256 ^ list.length := by
  induction list with
  | nil => exact Nat.one_pos
  | cons byte list ih =>
    have hbyte : byte.toNat + 1 ≤ 256 := byte.toNat_lt
    have hmul := Nat.mul_le_mul_right (256 ^ list.length) hbyte
    rw [bigEndian_cons, List.length_cons, Nat.pow_succ']
    rw [Nat.add_mul, Nat.one_mul] at hmul
    omega

/-- **A number has one form of each length.** -/
theorem bigEndian_inj {list list' : List UInt8} (hlen : list.length = list'.length)
    (h : bigEndian list = bigEndian list') : list = list' := by
  induction list generalizing list' with
  | nil => exact (List.length_eq_zero_iff.mp hlen.symm).symm
  | cons byte list ih =>
    cases list' with
    | nil => exact absurd hlen (by simp)
    | cons byte' list' =>
      have hlen := Nat.succ.inj hlen
      have hlt := bigEndian_lt list
      have hlt' := bigEndian_lt list'
      rw [bigEndian_cons, bigEndian_cons, ← hlen, Nat.mul_comm, Nat.mul_comm byte'.toNat] at h
      rw [← hlen] at hlt'
      -- the first digit is the quotient, and the others are the remainder
      have hquot := congrArg (· / 256 ^ list.length) h
      have hrem := congrArg (· % 256 ^ list.length) h
      have hpos : 0 < 256 ^ list.length := Nat.pow_pos (by decide)
      simp only [Nat.mul_add_div hpos, Nat.div_eq_of_lt hlt, Nat.div_eq_of_lt hlt', Nat.add_zero]
        at hquot
      simp only [Nat.mul_add_mod, Nat.mod_eq_of_lt hlt, Nat.mod_eq_of_lt hlt'] at hrem
      rw [UInt8.toNat_inj.mp hquot, ih hlen hrem]

/-! ## The binary form -/

theorem length_bytes (id : Id) : id.bytes.length = byteCount := rfl

theorem bigEndian_bytes (id : Id) : bigEndian id.bytes = id.bits.toNat := by
  have hlt := id.bits.toNat_lt
  simp only [bytes, List.map_cons, List.map_nil, bigEndian, List.foldl_cons, List.foldl_nil,
    UInt8.toNat_ofNat', Nat.shiftRight_eq_div_pow]
  omega

/-- **Bytes are read as an identifier exactly if they are its bytes.** -/
theorem ofBytes_eq_ok_iff {list : List UInt8} {id : Id} :
    ofBytes list = .ok id ↔ list = id.bytes := by
  unfold ofBytes
  constructor
  · intro h
    split at h
    · rename_i hlen
      have hlt := bigEndian_lt list
      rw [hlen] at hlt
      apply bigEndian_inj hlen
      rw [bigEndian_bytes, ← Except.ok.inj h]
      exact (UInt64.toNat_ofNat_of_lt' hlt).symm
    · exact absurd h (by simp)
  · rintro rfl
    rw [if_pos (length_bytes id), bigEndian_bytes, UInt64.ofNat_toNat]

end Snowflake.Id
