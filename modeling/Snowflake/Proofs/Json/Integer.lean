import Snowflake.Json.Token

/-!
# Integers are read back from their text

Digits are written without zeros in front and read back one by one, and as long as the number fits
64 bits all of them fit the significand. A number has nothing to close it: it ends where the next
character could not go on with it, which is what `Ends` says.

Floats are left out: nothing that is stored has one.

Results:
* `accumulate_decimals`: the digits of a word make up the word.
* `literal_unsigned`, `literal_signed`: digits, with a sign or without, are one literal.
* **`literal_text`**: the text of an integer is scanned as a literal of that value.
-/

namespace Snowflake.Json

/-! ## Digits -/

/-- The digits of a number, as numbers. -/
def decimals (n : Nat) : List Nat := (Nat.toDigits 10 n).map fun c => c.toNat - 48

theorem decimals_of_lt {n : Nat} (h : n < 10) : decimals n = [n] := by
  simp [decimals, Nat.toDigits_of_lt_base h, Nat.toNat_digitChar_sub_48_of_lt_ten h]

theorem decimals_of_le {n : Nat} (h : 10 ≤ n) : decimals n = decimals (n / 10) ++ [n % 10] := by
  have hlast : n % 10 < 10 := Nat.mod_lt n (by decide)
  simp [decimals, Nat.toDigits_of_base_le (by decide) h,
    Nat.toNat_digitChar_sub_48_of_lt_ten hlast]

/-- There is a digit to start with. -/
theorem exists_toDigits (n : Nat) :
    ∃ first more, Nat.toDigits 10 n = first :: more ∧ first.isDigit = true := by
  obtain ⟨first, more, hdigits⟩ := List.exists_cons_of_ne_nil (@Nat.toDigits_ne_nil n 10)
  have hmem : first ∈ Nat.toDigits 10 n := hdigits ▸ List.mem_cons_self
  exact ⟨first, more, hdigits, Nat.isDigit_of_mem_toDigits (by decide) (by decide) hmem⟩

/-- A number above zero does not start with the digit zero. -/
theorem exists_decimals_of_pos (n : Nat) (h : 0 < n) :
    ∃ first more, decimals n = (first + 1) :: more := by
  by_cases hn : n < 10
  · exact ⟨n - 1, [], by rw [decimals_of_lt hn, Nat.sub_add_cancel h]⟩
  · obtain ⟨first, more, heq⟩ := exists_decimals_of_pos (n / 10) (by omega)
    exact ⟨first, more ++ [n % 10], by rw [decimals_of_le (by omega), heq]; rfl⟩

/-! ### The significand -/

/-- Digits that fit are accumulated before those that follow. -/
theorem accumulate_append {s n : Nat} {front : List Nat} (back : List Nat)
    (h : accumulate s front = (n, 0)) : accumulate s (front ++ back) = accumulate n back := by
  induction front generalizing s with
  | nil =>
    obtain ⟨rfl, -⟩ := Prod.mk.inj h
    rfl
  | cons digit front ih =>
    unfold accumulate at h
    split at h
    case isTrue hfit => rw [List.cons_append, accumulate, if_pos hfit, ih h]
    case isFalse => exact absurd (Prod.mk.inj h).2 (Nat.succ_ne_zero _)

/-- All digits of a word fit the significand, and make up the word. -/
theorem accumulate_decimals (n : Nat) (h : n < UInt64.size) :
    accumulate 0 (decimals n) = (n, 0) := by
  by_cases hn : n < 10
  · rw [decimals_of_lt hn, accumulate, if_pos (by omega), Nat.zero_mul, Nat.zero_add, accumulate]
  · have hfront := accumulate_decimals (n / 10) (by omega)
    have hback : n / 10 * 10 + n % 10 = n := Nat.div_add_mod' n 10
    rw [decimals_of_le (by omega), accumulate_append _ hfront, accumulate, hback, if_pos h,
      accumulate]

/-! ## Integers -/

/-- A number as it is written for an integer: the sign is there exactly if it is needed. -/
def Number.Integral : Number → Prop
  | .unsigned _ => True
  | .signed n => n.toInt < 0
  | .float _ => False

/-- What follows does not go on with a number. -/
def Ends (rest : List Char) : Prop :=
  ∀ c ∈ rest.head?, c.isDigit = false ∧ c ≠ '.' ∧ c ≠ 'e' ∧ c ≠ 'E'

theorem Ends.nil : Ends [] := by
  intro c hc
  exact absurd hc (by simp)

theorem digits_toDigits {rest : List Char} (n : Nat) (h : Ends rest) :
    digits (Nat.toDigits 10 n ++ rest) = (decimals n, rest) := by
  have hall : ∀ c ∈ Nat.toDigits 10 n, c.isDigit = true := fun c =>
    Nat.isDigit_of_mem_toDigits (by decide) (by decide)
  have htake : rest.takeWhile Char.isDigit = [] := by
    cases rest with
    | nil => rfl
    | cons c rest => rw [List.takeWhile_cons_of_neg (by simp [(h c rfl).1])]
  have hdrop : rest.dropWhile Char.isDigit = rest := by
    cases rest with
    | nil => rfl
    | cons c rest => rw [List.dropWhile_cons_of_neg (by simp [(h c rfl).1])]
  unfold digits
  rw [List.takeWhile_append_of_pos hall, List.dropWhile_append_of_pos hall, htake, hdrop,
    List.append_nil]
  rfl

theorem whole_toDigits {rest : List Char} (n : Nat) (h : Ends rest) :
    whole? (Nat.toDigits 10 n ++ rest) = some (decimals n, rest) := by
  unfold whole?
  rw [digits_toDigits n h]
  obtain rfl | hn := Nat.eq_zero_or_pos n
  · rfl
  · obtain ⟨first, more, heq⟩ := exists_decimals_of_pos n hn
    rw [heq]
    rfl

theorem fraction_of_ends {rest : List Char} (h : Ends rest) : fraction? rest = some ([], rest) := by
  unfold fraction?
  split
  case h_1 s => exact absurd rfl (h '.' rfl).2.1
  case h_2 => rfl

theorem exponent_of_ends {rest : List Char} (h : Ends rest) :
    exponent? rest = some (none, rest) := by
  cases rest with
  | nil => rfl
  | cons c rest =>
    obtain ⟨-, -, he, hE⟩ := h c rfl
    simp [exponent?, he, hE]

/-- The literal of an integer with a sign or without. -/
def plainLiteral (negative : Bool) (n : Nat) : Literal := ⟨negative, decimals n, [], none⟩

theorem literal_signed {rest : List Char} (n : Nat) (h : Ends rest) :
    literal? ('-' :: (Nat.toDigits 10 n ++ rest)) = some (plainLiteral true n, rest) := by
  simp only [literal?, whole_toDigits n h, fraction_of_ends h, exponent_of_ends h,
    Option.bind_eq_bind, Option.bind_some]
  rfl

theorem literal_unsigned {rest : List Char} (n : Nat) (h : Ends rest) :
    literal? (Nat.toDigits 10 n ++ rest) = some (plainLiteral false n, rest) := by
  -- The text starts with a digit, so no sign is taken off.
  have hsign : ∀ s, Nat.toDigits 10 n ++ rest ≠ '-' :: s := by
    intro s heq
    obtain ⟨c, more, hdigits, hc⟩ := exists_toDigits n
    rw [hdigits, List.cons_append] at heq
    rw [(List.cons.inj heq).1] at hc
    exact absurd hc (by decide)
  unfold literal?
  split
  rename_i negative s hsplit
  split at hsplit
  case h_1 s heq => exact absurd heq (hsign s)
  case h_2 =>
    obtain ⟨rfl, rfl⟩ := Prod.mk.inj hsplit
    simp only [whole_toDigits n h, fraction_of_ends h, exponent_of_ends h,
      Option.bind_eq_bind, Option.bind_some]
    rfl

theorem number_unsigned (n : UInt64) :
    (plainLiteral false n.toNat).number = some (.unsigned n) := by
  have h := accumulate_decimals n.toNat n.toNat_lt
  simp [Literal.number, plainLiteral, h, Literal.isWhole]

theorem number_signed {n : Int64} (hneg : n.toInt < 0) :
    (plainLiteral true n.toInt.natAbs).number = some (.signed n) := by
  have hmin : Int64.minValue.toInt ≤ n.toInt := n.minValue_le_toInt
  have hfits : n.toInt.natAbs < UInt64.size := by
    have hminValue : Int64.minValue.toInt = -2 ^ 63 := by decide
    have hsize : UInt64.size = 2 ^ 64 := rfl
    omega
  have h := accumulate_decimals n.toInt.natAbs hfits
  have hback : -(n.toInt.natAbs : Int) = n.toInt := by omega
  have hpos : 0 < n.toInt.natAbs := by omega
  unfold Literal.number
  simp only [plainLiteral, h]
  rw [if_neg (by simp), if_pos ⟨rfl, trivial, hpos, hback.symm ▸ hmin⟩, hback, Int64.ofInt_toInt]

/-- **The text of an integer is scanned as a literal of that value.** -/
theorem literal_text {number : Number} {rest : List Char} (hnumber : number.Integral)
    (h : Ends rest) :
    ∃ literal, literal? (number.text ++ rest) = some (literal, rest) ∧
      literal.number = some number := by
  cases number with
  | unsigned n => exact ⟨plainLiteral false n.toNat, literal_unsigned _ h, number_unsigned n⟩
  | signed n =>
    have htext : Number.text (.signed n) = '-' :: Nat.toDigits 10 n.toInt.natAbs :=
      if_pos hnumber
    rw [htext]
    exact ⟨plainLiteral true n.toInt.natAbs, literal_signed _ h, number_signed hnumber⟩
  | float x => exact hnumber.elim

end Snowflake.Json
