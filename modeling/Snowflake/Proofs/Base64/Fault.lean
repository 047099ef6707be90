import Snowflake.Proofs.Base64.Canonical

/-!
# What is wrong with a text that is not decoded

Of the four faults each tells something of the bytes (`Faulty`): there is a byte at the offset that
is no symbol, or there are only symbols but too many by one, or the last of them has spare bits that
are not zero, or symbols are followed by pads. A pad is a stray byte only where no writer would put
one; behind two symbols of the last group it is padding. The last three faults exclude each other,
so that each of them is found exactly where it is.

Results:
* `value?_eq_some_iff`: the values of bytes are the places of their symbols in the alphabet.
* **`exists_decode_iff`**, `length_of_decode`: which bytes are decoded, and to how many.
* **`decode_faulty`**: what is found is there.
* **`decode_eq_invalidPadding_iff`**, `decode_eq_invalidLength_iff`,
  `decode_eq_invalidLastSymbol_iff`.
-/

namespace Snowflake.Base64

/-! ## The alphabet -/

/-- The symbols in the order of their values. -/
def alphabet : List Char :=
  ['A', 'B', 'C', 'D', 'E', 'F', 'G', 'H', 'I', 'J', 'K', 'L', 'M', 'N', 'O', 'P', 'Q', 'R', 'S',
    'T', 'U', 'V', 'W', 'X', 'Y', 'Z', 'a', 'b', 'c', 'd', 'e', 'f', 'g', 'h', 'i', 'j', 'k', 'l',
    'm', 'n', 'o', 'p', 'q', 'r', 's', 't', 'u', 'v', 'w', 'x', 'y', 'z', '0', '1', '2', '3', '4',
    '5', '6', '7', '8', '9', '-', '_']

/-- The byte is that of a symbol. -/
def IsSymbol (byte : UInt8) : Prop := ∃ c ∈ alphabet, c.toNat = byte.toNat

instance (byte : UInt8) : Decidable (IsSymbol byte) := List.decidableBEx _ _

theorem alphabet_getElem? : ∀ value < 64, alphabet[value]? = some (symbol value) := by
  decide +kernel

theorem toNat_symbolByte : ∀ value < 64, (symbolByte value).toNat = (symbol value).toNat := by
  decide +kernel

/-- **The value of a byte is the place of its symbol in the alphabet.** -/
theorem value?_eq_some_iff {byte : UInt8} {value : Nat} :
    value? byte = some value ↔ ∃ c, alphabet[value]? = some c ∧ c.toNat = byte.toNat := by
  constructor
  · intro h
    obtain ⟨hlt, rfl⟩ := value?_eq_some h
    exact ⟨_, alphabet_getElem? value hlt, (toNat_symbolByte value hlt).symm⟩
  · rintro ⟨c, hc, hbyte⟩
    have hlt : value < 64 := (List.getElem?_eq_some_iff.mp hc).1
    obtain rfl := Option.some.inj ((alphabet_getElem? value hlt).symm.trans hc)
    rw [← toNat_symbolByte value hlt, UInt8.toNat_inj] at hbyte
    rw [← hbyte]
    exact value?_symbolByte value hlt

theorem exists_value?_iff {byte : UInt8} : (∃ value, value? byte = some value) ↔ IsSymbol byte := by
  unfold IsSymbol
  simp only [value?_eq_some_iff, List.mem_iff_getElem?]
  exact ⟨fun ⟨value, c, hc, h⟩ => ⟨c, ⟨value, hc⟩, h⟩, fun ⟨c, ⟨value, hc⟩, h⟩ => ⟨value, c, hc, h⟩⟩

theorem value?_eq_none_iff {byte : UInt8} : value? byte = none ↔ ¬ IsSymbol byte := by
  rw [← exists_value?_iff, ← Option.isSome_iff_exists, Option.not_isSome_iff_eq_none]

theorem isSymbol_of_value? {byte : UInt8} {value : Nat} (h : value? byte = some value) :
    IsSymbol byte := exists_value?_iff.mp ⟨value, h⟩

/-- Symbols are ASCII. -/
theorem IsSymbol.lt {byte : UInt8} (h : IsSymbol byte) : byte.toNat < 128 := by
  have hall : ∀ value < 64, (symbolByte value).toNat < 128 := by decide +kernel
  obtain ⟨value, hvalue⟩ := exists_value?_iff.mpr h
  obtain ⟨hlt, rfl⟩ := value?_eq_some hvalue
  exact hall value hlt

theorem not_isSymbol_pad : ¬ IsSymbol pad := value?_eq_none_iff.mp value?_pad

variable {bytes data : List UInt8} {found : List Nat} {e : DecodeError}

theorem symbols_of_map_value? (h : bytes.map value? = found.map some) :
    ∀ byte ∈ bytes, IsSymbol byte := by
  intro byte hmem
  have hsome : value? byte ∈ found.map some := by
    rw [← h]
    exact List.mem_map_of_mem hmem
  obtain ⟨value, -, hvalue⟩ := List.mem_map.mp hsome
  exact isSymbol_of_value? hvalue.symm

theorem exists_map_value?_iff :
    (∃ found : List Nat, bytes.map value? = found.map some) ↔ ∀ byte ∈ bytes, IsSymbol byte := by
  refine ⟨fun ⟨found, h⟩ => symbols_of_map_value? h, fun h => ?_⟩
  induction bytes with
  | nil => exact ⟨[], rfl⟩
  | cons byte bytes ih =>
    obtain ⟨value, hvalue⟩ := exists_value?_iff.mpr (h byte List.mem_cons_self)
    obtain ⟨found, hfound⟩ := ih fun b hb => h b (List.mem_cons_of_mem _ hb)
    exact ⟨value :: found, by rw [List.map_cons, List.map_cons, hvalue, hfound]⟩

/-! ## What is decoded -/

/-- The spare bits of the last symbol are zero. -/
def SpareClear (bytes : List UInt8) : Prop :=
  ∀ byte value, bytes.getLast? = some byte → value? byte = some value →
    value % spare (bytes.length % 4) = 0

theorem spareClear_iff (h : bytes.map value? = found.map some) :
    SpareClear bytes ↔
      ∀ value, found.getLast? = some value → value % spare (found.length % 4) = 0 := by
  have hlast := getLast?_of_map_value? h
  unfold SpareClear
  rw [length_of_map_value? h]
  constructor
  · intro hclear value hvalue
    rw [hvalue] at hlast
    obtain ⟨byte, hbyte, hread⟩ := Option.map_eq_some_iff.mp hlast
    exact hclear byte value hbyte hread
  · intro hclear byte value hbyte hread
    rw [hbyte, Option.map_some, hread] at hlast
    obtain ⟨last, hvalue, heq⟩ := Option.map_eq_some_iff.mp hlast.symm
    rw [Option.some.inj heq] at hvalue
    exact hclear value hvalue

/-- **Decoded are symbols only**, if their number is possible and the spare bits are zero. -/
theorem exists_decode_iff : (∃ data, decode bytes = .ok data) ↔
    (∀ byte ∈ bytes, IsSymbol byte) ∧ bytes.length % 4 ≠ 1 ∧ SpareClear bytes := by
  constructor
  · rintro ⟨data, h⟩
    obtain ⟨found, hmap, hcanonical, -⟩ := decode_eq_ok_iff_canonical.mp h
    exact ⟨symbols_of_map_value? hmap, length_of_map_value? hmap ▸ hcanonical.length,
      (spareClear_iff hmap).mpr hcanonical.spare⟩
  · rintro ⟨hsymbols, hlength, hspare⟩
    obtain ⟨found, hmap⟩ := exists_map_value?_iff.mpr hsymbols
    refine ⟨join found, decode_eq_ok_iff_canonical.mpr ⟨found, hmap, ?_, rfl⟩⟩
    exact ⟨lt_of_map_value? hmap, length_of_map_value? hmap ▸ hlength,
      (spareClear_iff hmap).mp hspare⟩

/-- Six bits of each symbol make whole bytes. -/
theorem length_join : (join found).length = found.length * 3 / 4 := by
  fun_induction join found with
  | case1 a b c d rest n ih =>
    simp only [List.length_cons, ih]
    omega
  | case2 a b c n => simp
  | case3 a b => simp
  | case4 found hfour hthree htwo =>
    rcases found with _ | ⟨a, _ | ⟨b, _ | ⟨c, _ | ⟨d, rest⟩⟩⟩⟩
    · simp
    · simp
    · exact absurd rfl (htwo a b)
    · exact absurd rfl (hthree a b c)
    · exact absurd rfl (hfour a b c d rest)

theorem length_of_decode (h : decode bytes = .ok data) : data.length = bytes.length * 3 / 4 := by
  obtain ⟨found, hmap, -, rfl⟩ := decode_eq_ok_iff_canonical.mp h
  rw [length_join, length_of_map_value? hmap]

/-! ## What is not -/

/-- Symbols, with pads after them: the first pad is in the last group, behind two symbols or more.
-/
structure Padded (bytes front pads : List UInt8) : Prop where
  parts : bytes = front ++ pads
  symbols : ∀ byte ∈ front, IsSymbol byte
  only_pads : ∀ byte ∈ pads, byte = pad
  some_pad : pads ≠ []
  behind : leading bytes.length + 2 ≤ front.length

/-- What a fault says of the bytes in which it is found. -/
inductive Faulty (bytes : List UInt8) : DecodeError → Prop where
  /-- The byte at the offset is no symbol. If it is a pad, it is not in the place of one, or there is
  something else behind it. -/
  | invalidByte {offset : Nat} {byte : UInt8} (found : bytes[offset]? = some byte)
      (stray : ¬ IsSymbol byte) (misplaced : byte = pad →
        offset < leading bytes.length + 2 ∨ ∃ later ∈ bytes.drop (offset + 1), later ≠ pad) :
      Faulty bytes (.invalidByte offset byte)
  /-- There are only symbols, but no bytes have as many. -/
  | invalidLength (symbols : ∀ byte ∈ bytes, IsSymbol byte) (alone : bytes.length % 4 = 1) :
      Faulty bytes (.invalidLength bytes.length)
  /-- There are only symbols, and the spare bits of the last are not zero. -/
  | invalidLastSymbol {byte : UInt8} (symbols : ∀ byte ∈ bytes, IsSymbol byte)
      (possible : bytes.length % 4 ≠ 1) (last : bytes.getLast? = some byte)
      (spare : ¬ SpareClear bytes) : Faulty bytes (.invalidLastSymbol (bytes.length - 1) byte)
  /-- There is padding. -/
  | invalidPadding {front pads : List UInt8} (padded : Padded bytes front pads) :
      Faulty bytes .invalidPadding

theorem checkLoneByte_faulty (h : checkLoneByte bytes = .error e) : Faulty bytes e := by
  unfold checkLoneByte at h
  cases hlast : bytes.getLast? with
  | none => rw [hlast] at h; exact absurd h (by simp)
  | some byte =>
    simp only [hlast] at h
    split at h
    · obtain ⟨-, hpad, hnone⟩ : _ ∧ byte ≠ pad ∧ value? byte = none := by assumption
      cases h
      refine .invalidByte ?_ (value?_eq_none_iff.mp hnone) fun heq => absurd heq hpad
      rw [← List.getLast?_eq_getElem?]
      exact hlast
    · exact absurd h (by simp)

/-- Before the last group it is a stray byte that is found. -/
theorem values_eq_error {offset : Nat} (h : values offset bytes = .error e) :
    ∃ i byte, bytes[i]? = some byte ∧ ¬ IsSymbol byte ∧ e = .invalidByte (offset + i) byte := by
  induction bytes generalizing offset with
  | nil => exact absurd h (by simp [values])
  | cons byte bytes ih =>
    rw [values] at h
    cases hv : value? byte with
    | none =>
      rw [hv] at h
      cases h
      exact ⟨0, byte, rfl, value?_eq_none_iff.mp hv, rfl⟩
    | some value =>
      cases hrest : values (offset + 1) bytes with
      | ok more => rw [hv, hrest] at h; exact absurd h (by simp)
      | error fault =>
        rw [hv, hrest] at h
        cases h
        obtain ⟨i, stray, hi, hstray, rfl⟩ := ih hrest
        exact ⟨i + 1, stray, hi, hstray, by rw [Nat.add_assoc, Nat.add_comm 1 i]⟩

/-! ### The last group -/

section LastGroup

variable {start index place : Nat} {firstPad : Option Nat}

/-- Behind a pad only pads are read. -/
theorem pads_of_groupValues (h : groupValues start index (some place) bytes = .ok (found, firstPad)) :
    found = [] ∧ ∀ byte ∈ bytes, byte = pad := by
  induction bytes generalizing index with
  | nil =>
    cases h
    exact ⟨rfl, by simp⟩
  | cons byte bytes ih =>
    unfold groupValues at h
    split at h
    · split at h
      · exact absurd h (by simp)
      · obtain ⟨hfound, hpads⟩ := ih h
        exact ⟨hfound, List.forall_mem_cons.mpr ⟨by assumption, hpads⟩⟩
    · exact absurd h (by simp)

/-- Behind a pad in its place, anything else makes the first pad a stray byte. -/
theorem groupValues_error_of_pad (hindex : 2 ≤ index)
    (h : groupValues start index (some place) bytes = .error e) :
    e = .invalidByte (start + place) pad ∧ ∃ later ∈ bytes, later ≠ pad := by
  induction bytes generalizing index with
  | nil => exact absurd h (by simp [groupValues])
  | cons byte bytes ih =>
    unfold groupValues at h
    split at h
    · rw [if_neg (Nat.not_lt.mpr hindex)] at h
      obtain ⟨rfl, later, hmem, hlater⟩ := ih (Nat.le_succ_of_le hindex) h
      exact ⟨rfl, later, List.mem_cons_of_mem _ hmem, hlater⟩
    · cases h
      exact ⟨rfl, byte, List.mem_cons_self, by assumption⟩

/-- A pad that was met in its place comes after symbols. -/
theorem padded_of_groupValues
    (h : groupValues start index none bytes = .ok (found, some place)) :
    ∃ front pads, bytes = front ++ pads ∧ front.map value? = found.map some ∧
      (∀ byte ∈ pads, byte = pad) ∧ pads ≠ [] ∧ 2 ≤ index + found.length := by
  induction bytes generalizing index found with
  | nil => exact absurd h (by simp [groupValues])
  | cons byte bytes ih =>
    rw [groupValues] at h
    by_cases hpad : byte = pad
    · rw [if_pos hpad] at h
      split at h
      · exact absurd h (by simp)
      · obtain ⟨rfl, hpads⟩ := pads_of_groupValues h
        exact ⟨[], byte :: bytes, rfl, rfl, List.forall_mem_cons.mpr ⟨hpad, hpads⟩, by simp,
          by omega⟩
    · rw [if_neg hpad] at h
      cases hv : value? byte with
      | none => simp only [hv] at h; exact absurd h (by simp)
      | some value =>
        rcases hrest : groupValues start (index + 1) none bytes with fault | ⟨more, met⟩
        · simp only [hv, hrest] at h
          exact absurd h (by simp)
        · simp only [hv, hrest] at h
          cases h
          obtain ⟨front, pads, rfl, hfront, hpads, hsome, hbehind⟩ := ih hrest
          refine ⟨byte :: front, pads, rfl, ?_, hpads, hsome, ?_⟩
          · rw [List.map_cons, List.map_cons, hv, hfront]
          · rw [List.length_cons]
            omega

/-- A stray byte in the last group. -/
theorem groupValues_error (h : groupValues start index none bytes = .error e) :
    ∃ i byte, bytes[i]? = some byte ∧ ¬ IsSymbol byte ∧
      e = .invalidByte (start + (index + i)) byte ∧
      (byte = pad → index + i < 2 ∨ ∃ later ∈ bytes.drop (i + 1), later ≠ pad) := by
  induction bytes generalizing index with
  | nil => exact absurd h (by simp [groupValues])
  | cons byte bytes ih =>
    rw [groupValues] at h
    by_cases hpad : byte = pad
    · rw [if_pos hpad] at h
      refine ⟨0, byte, rfl, hpad ▸ not_isSymbol_pad, ?_⟩
      split at h
      · cases h
        exact ⟨rfl, fun _ => .inl (by assumption)⟩
      · obtain ⟨rfl, hlater⟩ := groupValues_error_of_pad (by omega) h
        rw [hpad]
        exact ⟨rfl, fun _ => .inr hlater⟩
    · rw [if_neg hpad] at h
      cases hv : value? byte with
      | none =>
        simp only [hv] at h
        cases h
        exact ⟨0, byte, rfl, value?_eq_none_iff.mp hv, rfl, fun heq => absurd heq hpad⟩
      | some value =>
        rcases hrest : groupValues start (index + 1) none bytes with fault | ⟨more, met⟩
        · simp only [hv, hrest] at h
          cases h
          obtain ⟨i, stray, hi, hstray, rfl, hmisplaced⟩ := ih hrest
          have hnext : index + 1 + i = index + (i + 1) := by omega
          rw [hnext] at hmisplaced ⊢
          exact ⟨i + 1, stray, hi, hstray, rfl, hmisplaced⟩
        · simp only [hv, hrest] at h
          exact absurd h (by simp)

end LastGroup

/-- In a group of symbols that are not too few, the spare bits of the last are all that can be
wrong. -/
theorem lastGroup_error_of_symbols {start : Nat} {more : List Nat}
    (hgroup : groupValues start 0 none bytes = .ok (more, none))
    (hfew : ¬(bytes ≠ [] ∧ more.length < 2)) (h : lastGroup start bytes = .error e) :
    ∃ value byte, more.getLast? = some value ∧ bytes.getLast? = some byte ∧
      value % spare more.length ≠ 0 ∧ e = .invalidLastSymbol (start + more.length - 1) byte := by
  unfold lastGroup at h
  simp only [hgroup, if_neg hfew, Option.isSome_none, Bool.false_eq_true, if_false] at h
  split at h
  · split at h
    · cases h
      exact ⟨_, _, by assumption, by assumption, by assumption, rfl⟩
    · exact absurd h (by simp)
  · exact absurd h (by simp)

/-- Behind whole groups of symbols, what is found in the last group is there. -/
theorem lastGroup_faulty {head tail : List UInt8} (hhead : ∀ byte ∈ head, IsSymbol byte)
    (hstart : leading (head ++ tail).length = head.length)
    (h : lastGroup head.length tail = .error e) : Faulty (head ++ tail) e := by
  rcases hgroup : groupValues head.length 0 none tail with fault | ⟨found, firstPad⟩
  · simp only [lastGroup, hgroup] at h
    cases h
    obtain ⟨i, byte, hi, hstray, rfl, hmisplaced⟩ := groupValues_error hgroup
    rw [Nat.zero_add] at hmisplaced ⊢
    refine .invalidByte ?_ hstray fun hpad => ?_
    · rw [List.getElem?_append_right (Nat.le_add_right _ _), Nat.add_sub_cancel_left]
      exact hi
    · rw [hstart]
      refine (hmisplaced hpad).imp (Nat.add_lt_add_left · _) ?_
      rintro ⟨later, hmem, hne⟩
      rw [Nat.add_assoc, List.drop_length_add_append]
      exact ⟨later, hmem, hne⟩
  cases firstPad with
  | some place =>
    obtain ⟨front, pads, rfl, hfront, hpads, hsome, hbehind⟩ := padded_of_groupValues hgroup
    simp only [lastGroup, hgroup] at h
    rw [if_neg (by omega)] at h
    cases h
    refine .invalidPadding ⟨(List.append_assoc _ _ _).symm, ?_, hpads, hsome, ?_⟩
    · exact List.forall_mem_append.mpr ⟨hhead, symbols_of_map_value? hfront⟩
    · rw [hstart, List.length_append, ← length_of_map_value? hfront]
      omega
  | none =>
    have hmap := (groupValues_eq_ok_iff head.length 0).mp hgroup
    have hcount := length_of_map_value? hmap
    have hsymbols : ∀ byte ∈ head ++ tail, IsSymbol byte :=
      List.forall_mem_append.mpr ⟨hhead, symbols_of_map_value? hmap⟩
    have hlength : (head ++ tail).length = head.length + tail.length := List.length_append
    have hall : head.length + found.length = (head ++ tail).length := by rw [hcount, hlength]
    rw [leading_eq] at hstart
    by_cases hfew : tail ≠ [] ∧ found.length < 2
    · simp only [lastGroup, hgroup, if_pos hfew] at h
      cases h
      have hone := List.length_pos_iff.mpr hfew.1
      rw [hall]
      exact .invalidLength hsymbols (by omega)
    · obtain ⟨value, byte, hvalue, hbyte, hspare, rfl⟩ := lastGroup_error_of_symbols hgroup hfew h
      have hne : tail ≠ [] := by
        rintro rfl
        exact absurd hbyte (by simp)
      have htwo : 2 ≤ found.length := Nat.not_lt.mp fun hlt => hfew ⟨hne, hlt⟩
      have hlast : (head ++ tail).getLast? = some byte := by
        rw [List.getLast?_append, hbyte, Option.some_or]
      have hread : value? byte = some value := by
        have hends := getLast?_of_map_value? hmap
        rw [hbyte, hvalue] at hends
        exact Option.some.inj hends
      rw [hall]
      refine .invalidLastSymbol hsymbols (by omega) hlast fun hclear => hspare ?_
      have hmod : (head ++ tail).length % 4 = tail.length % 4 := by omega
      have hzero := hclear byte value hlast hread
      rw [hmod, spare_mod (by omega), ← hcount] at hzero
      exact hzero

/-- **What is found is there.** -/
theorem decode_faulty (h : decode bytes = .error e) : Faulty bytes e := by
  unfold decode at h
  cases hlone : checkLoneByte bytes with
  | error fault =>
    rw [hlone] at h
    cases h
    exact checkLoneByte_faulty hlone
  | ok =>
  have hleading : leading bytes.length ≤ bytes.length := by
    rw [leading_eq]
    omega
  cases hhead : values 0 (bytes.take (leading bytes.length)) with
  | error fault =>
    rw [hlone, hhead] at h
    cases h
    obtain ⟨i, byte, hi, hstray, rfl⟩ := values_eq_error hhead
    rw [Nat.zero_add]
    rw [List.getElem?_take] at hi
    split at hi
    · exact .invalidByte hi hstray fun _ => .inl (by omega)
    · exact absurd hi (by simp)
  | ok head =>
    cases htail : lastGroup (leading bytes.length) (bytes.drop (leading bytes.length)) with
    | ok tail => rw [hlone, hhead, htail] at h; exact absurd h (by simp)
    | error fault =>
      rw [hlone, hhead, htail] at h
      cases h
      have hparts : bytes.take (leading bytes.length) ++ bytes.drop (leading bytes.length) = bytes :=
        List.take_append_drop _ _
      have hcount : (bytes.take (leading bytes.length)).length = leading bytes.length :=
        List.length_take_of_le hleading
      rw [← hparts]
      apply lastGroup_faulty (symbols_of_map_value? (values_eq_ok_iff.mp hhead))
      · rw [hparts, hcount]
      · rw [hcount]
        exact htail

/-! ### One kind at a time -/

theorem Padded.not_symbols {front pads : List UInt8} (h : Padded bytes front pads) :
    ¬ ∀ byte ∈ bytes, IsSymbol byte := by
  intro hsymbols
  obtain ⟨first, hfirst⟩ := List.exists_mem_of_ne_nil _ h.some_pad
  have hmem : first ∈ bytes := by
    rw [h.parts]
    exact List.mem_append_right _ hfirst
  exact not_isSymbol_pad (h.only_pads first hfirst ▸ hsymbols first hmem)

/-- Of symbols only, what can be wrong is their number or the last of them. -/
theorem Faulty.of_symbols (h : Faulty bytes e) (hsymbols : ∀ byte ∈ bytes, IsSymbol byte) :
    (bytes.length % 4 = 1 ∧ e = .invalidLength bytes.length) ∨
      (bytes.length % 4 ≠ 1 ∧ ¬ SpareClear bytes ∧
        ∃ byte, bytes.getLast? = some byte ∧ e = .invalidLastSymbol (bytes.length - 1) byte) := by
  cases h with
  | invalidByte found stray _ => exact absurd (hsymbols _ (List.mem_of_getElem? found)) stray
  | invalidLength _ alone => exact .inl ⟨alone, rfl⟩
  | invalidLastSymbol _ possible last spare => exact .inr ⟨possible, spare, _, last, rfl⟩
  | invalidPadding padded => exact absurd hsymbols padded.not_symbols

/-- With padding nothing else is found: no pad of it is a stray byte. -/
theorem Faulty.of_padded {front pads : List UInt8} (h : Faulty bytes e)
    (hpadded : Padded bytes front pads) : e = .invalidPadding := by
  cases h with
  | @invalidByte offset byte found stray misplaced =>
    have hparts := hpadded.parts
    have hbehind := hpadded.behind
    by_cases hfront : offset < front.length
    · rw [hparts, List.getElem?_append_left hfront] at found
      exact absurd (hpadded.symbols byte (List.mem_of_getElem? found)) stray
    · rw [hparts, List.getElem?_append_right (Nat.not_lt.mp hfront)] at found
      have hpad := hpadded.only_pads byte (List.mem_of_getElem? found)
      rcases misplaced hpad with hlt | ⟨later, hmem, hne⟩
      · omega
      · rw [hparts, List.drop_append, List.drop_eq_nil_of_le (by omega), List.nil_append] at hmem
        exact absurd (hpadded.only_pads later (List.mem_of_mem_drop hmem)) hne
  | invalidLength symbols _ => exact absurd symbols hpadded.not_symbols
  | invalidLastSymbol symbols _ _ _ => exact absurd symbols hpadded.not_symbols
  | invalidPadding _ => rfl

/-- Bytes are decoded, or something is wrong with them. -/
theorem decode_cases (bytes : List UInt8) :
    (∃ data, decode bytes = .ok data) ∨ ∃ e, decode bytes = .error e ∧ Faulty bytes e := by
  cases h : decode bytes with
  | ok data => exact .inl ⟨data, rfl⟩
  | error e => exact .inr ⟨e, rfl, decode_faulty h⟩

/-- **Padding is found exactly where there is some.** -/
theorem decode_eq_invalidPadding_iff :
    decode bytes = .error .invalidPadding ↔ ∃ front pads, Padded bytes front pads := by
  constructor
  · intro h
    cases decode_faulty h with
    | invalidPadding padded => exact ⟨_, _, padded⟩
  · rintro ⟨front, pads, hpadded⟩
    rcases decode_cases bytes with hok | ⟨e, he, hfaulty⟩
    · exact absurd (exists_decode_iff.mp hok).1 hpadded.not_symbols
    · rw [he, hfaulty.of_padded hpadded]

/-- **A wrong number of symbols is found exactly where there is one.** -/
theorem decode_eq_invalidLength_iff {length : Nat} :
    decode bytes = .error (.invalidLength length) ↔
      (∀ byte ∈ bytes, IsSymbol byte) ∧ bytes.length % 4 = 1 ∧ length = bytes.length := by
  constructor
  · intro h
    cases decode_faulty h with
    | invalidLength symbols alone => exact ⟨symbols, alone, rfl⟩
  · rintro ⟨hsymbols, halone, rfl⟩
    rcases decode_cases bytes with hok | ⟨e, he, hfaulty⟩
    · exact absurd halone (exists_decode_iff.mp hok).2.1
    · rcases hfaulty.of_symbols hsymbols with ⟨-, rfl⟩ | ⟨hpossible, -⟩
      · exact he
      · exact absurd halone hpossible

/-- **A last symbol with spare bits that are not zero is found exactly where there is one.** -/
theorem decode_eq_invalidLastSymbol_iff {offset : Nat} {byte : UInt8} :
    decode bytes = .error (.invalidLastSymbol offset byte) ↔
      (∀ byte ∈ bytes, IsSymbol byte) ∧ bytes.length % 4 ≠ 1 ∧ ¬ SpareClear bytes ∧
        offset = bytes.length - 1 ∧ bytes.getLast? = some byte := by
  constructor
  · intro h
    cases decode_faulty h with
    | invalidLastSymbol symbols possible last spare =>
      exact ⟨symbols, possible, spare, rfl, last⟩
  · rintro ⟨hsymbols, hpossible, hspare, rfl, hlast⟩
    rcases decode_cases bytes with hok | ⟨e, he, hfaulty⟩
    · exact absurd (exists_decode_iff.mp hok).2.2 hspare
    · rcases hfaulty.of_symbols hsymbols with ⟨halone, -⟩ | ⟨-, -, last, hlast', rfl⟩
      · exact absurd halone hpossible
      · rw [he, Option.some.inj (hlast.symm.trans hlast')]

end Snowflake.Base64
