import Snowflake.Base64

/-!
# One text for each sequence of bytes

Decoding is strict: of all the texts whose symbols carry the same whole bytes it accepts one, the
one that encoding writes. Between bytes and text stand the six-bit values of the symbols. Those that
encoding produces are *canonical*: there are not one, five, nine, ... of them, and the spare bits of
the last are zero.

Results:
* `values_eq_ok_iff`, `lastGroup_eq_ok_iff`: what the two parts of the decoder accept.
* `join_sextets`, `sextets_join`: bytes and canonical values are the same thing.
* **`decode_eq_ok_iff`**: a text is accepted, with the bytes `data`, exactly if it is the text of
  `data`.
-/

namespace Snowflake.Base64

/-! ## Symbols -/

/-- The byte of a symbol. -/
def symbolByte (value : Nat) : UInt8 := UInt8.ofNat (symbol value).toNat

/-- A symbol is one byte. -/
theorem utf8EncodeChar_symbol :
    ∀ value < 64, String.utf8EncodeChar (symbol value) = [symbolByte value] := by
  decide +kernel

theorem value?_symbolByte : ∀ value < 64, value? (symbolByte value) = some value := by
  decide +kernel

/-- The value of a byte has six bits, and the byte is its symbol. -/
theorem value?_eq_some {byte : UInt8} {value : Nat} (h : value? byte = some value) :
    value < 64 ∧ byte = symbolByte value := by
  have hall : ∀ n < 256, ∀ value ∈ value? (UInt8.ofNat n),
      value < 64 ∧ UInt8.ofNat n = symbolByte value := by
    decide +kernel
  have hbyte := hall byte.toNat byte.toNat_lt value
  rw [UInt8.ofNat_toNat] at hbyte
  exact hbyte h

theorem value?_pad : value? pad = none := by
  rfl

variable {bytes data : List UInt8} {found : List Nat}

theorem lt_of_map_value? (h : bytes.map value? = found.map some) : ∀ value ∈ found, value < 64 := by
  intro value hmem
  have hsome : some value ∈ bytes.map value? := by
    rw [h]
    exact List.mem_map_of_mem hmem
  obtain ⟨byte, -, hbyte⟩ := List.mem_map.mp hsome
  exact (value?_eq_some hbyte).1

theorem getLast?_of_map_value? (h : bytes.map value? = found.map some) :
    bytes.getLast?.map value? = found.getLast?.map some := by
  rw [← List.getLast?_map, h, List.getLast?_map]

/-- Bytes with the given values are the symbols of these values. -/
theorem map_value?_eq_iff (hlt : ∀ value ∈ found, value < 64) :
    bytes.map value? = found.map some ↔ bytes = found.map symbolByte := by
  constructor
  · intro h
    induction bytes generalizing found with
    | nil =>
      rw [List.map_eq_nil_iff.mp h.symm]
      rfl
    | cons byte bytes ih =>
      cases found with
      | nil => exact absurd h (by simp)
      | cons value found =>
        obtain ⟨hbyte, hrest⟩ := List.cons.inj h
        rw [(value?_eq_some hbyte).2, ih (fun v hv => hlt v (List.mem_cons_of_mem _ hv)) hrest]
        rfl
  · rintro rfl
    rw [List.map_map]
    exact List.map_congr_left fun value hmem => value?_symbolByte value (hlt value hmem)

/-! ## What the parts of the decoder accept -/

theorem map_value?_cons_iff {byte : UInt8} :
    (byte :: bytes).map value? = found.map some ↔ ∃ value more, value? byte = some value ∧
      bytes.map value? = more.map some ∧ found = value :: more := by
  cases found with
  | nil => simp
  | cons v vs =>
    constructor
    · intro h
      obtain ⟨hbyte, hrest⟩ := List.cons.inj h
      exact ⟨v, vs, hbyte, hrest, rfl⟩
    · rintro ⟨value, more, hbyte, hrest, heq⟩
      rw [heq, List.map_cons, List.map_cons, hbyte, hrest]

theorem values_cons_iff {offset : Nat} {byte : UInt8} :
    values offset (byte :: bytes) = .ok found ↔ ∃ value more, value? byte = some value ∧
      values (offset + 1) bytes = .ok more ∧ found = value :: more := by
  rw [values]
  cases value? byte with
  | none => simp
  | some value =>
    cases values (offset + 1) bytes with
    | error e => simp
    | ok more => simp [eq_comm]

/-- Before the last group every byte is a symbol. -/
theorem values_eq_ok_iff {offset : Nat} :
    values offset bytes = .ok found ↔ bytes.map value? = found.map some := by
  induction bytes generalizing offset found with
  | nil => cases found <;> simp [values]
  | cons byte bytes ih =>
    rw [values_cons_iff, map_value?_cons_iff]
    simp only [ih]

/-- A pad that was met stays the first one. -/
theorem groupValues_of_pad {start index place : Nat} {firstPad : Option Nat}
    (h : groupValues start index (some place) bytes = .ok (found, firstPad)) :
    firstPad = some place := by
  induction bytes generalizing index with
  | nil =>
    unfold groupValues at h
    exact (Prod.mk.inj (Except.ok.inj h)).2.symm
  | cons byte bytes ih =>
    unfold groupValues at h
    split at h
    · split at h
      · exact absurd h (by simp)
      · exact ih h
    · exact absurd h (by simp)

theorem groupValues_cons_iff {start index : Nat} {byte : UInt8} :
    groupValues start index none (byte :: bytes) = .ok (found, none) ↔
      ∃ value more, value? byte = some value ∧
        groupValues start (index + 1) none bytes = .ok (more, none) ∧ found = value :: more := by
  rw [groupValues]
  by_cases hpad : byte = pad
  · -- a pad has no value, and what is read after it tells of it
    rw [if_pos hpad, hpad, value?_pad]
    split
    · simp
    · constructor
      · intro h
        exact absurd (groupValues_of_pad h) (by simp)
      · rintro ⟨value, more, hnone, -⟩
        exact absurd hnone (by simp)
  · rw [if_neg hpad]
    cases value? byte with
    | none => simp
    | some value =>
      rcases groupValues start (index + 1) none bytes with e | ⟨more, place⟩
      · simp
      · cases place with
        | none => simp [eq_comm]
        | some place => simp

/-- In the last group too, unless there is a pad. -/
theorem groupValues_eq_ok_iff (start index : Nat) :
    groupValues start index none bytes = .ok (found, none) ↔
      bytes.map value? = found.map some := by
  induction bytes generalizing index found with
  | nil => cases found <;> simp [groupValues]
  | cons byte bytes ih =>
    rw [groupValues_cons_iff, map_value?_cons_iff]
    simp only [ih]

/-- Of a group of symbols that are not too few only the spare bits of the last are left to check. -/
theorem lastGroup_of_symbols {start : Nat} {more : List Nat}
    (hgroup : groupValues start 0 none bytes = .ok (more, none))
    (hfew : ¬(bytes ≠ [] ∧ more.length < 2)) :
    lastGroup start bytes = .ok found ↔
      more = found ∧ ∀ value, more.getLast? = some value → value % spare more.length = 0 := by
  have hmap := (groupValues_eq_ok_iff start 0).mp hgroup
  unfold lastGroup
  simp only [hgroup, if_neg hfew, Option.isSome_none, Bool.false_eq_true, if_false]
  cases hlast : more.getLast? with
  | none => simp
  | some value =>
    have hbyte : bytes.getLast?.map value? = some (some value) := by
      rw [getLast?_of_map_value? hmap, hlast]
      rfl
    obtain ⟨byte, hbyte, -⟩ := Option.map_eq_some_iff.mp hbyte
    simp only [hbyte, Option.some.injEq, forall_eq']
    by_cases hspare : value % spare more.length = 0
    · simp [hspare]
    · simp [hspare]

/-- **The last group** holds two symbols or more, if any, and its spare bits are zero. -/
theorem lastGroup_eq_ok_iff {start : Nat} :
    lastGroup start bytes = .ok found ↔ bytes.map value? = found.map some ∧
      (bytes ≠ [] → 2 ≤ found.length) ∧
      ∀ value, found.getLast? = some value → value % spare found.length = 0 := by
  rw [← groupValues_eq_ok_iff start 0]
  rcases hgroup : groupValues start 0 none bytes with e | ⟨more, firstPad⟩
  · simp [lastGroup, hgroup]
  cases firstPad with
  | some place =>
    simp only [lastGroup, hgroup, Option.isSome_some, if_true, Except.ok.injEq, Prod.mk.injEq,
      reduceCtorEq, and_false, false_and, iff_false]
    split <;> simp
  | none =>
    simp only [Except.ok.injEq, Prod.mk.injEq, and_true]
    by_cases hfew : bytes ≠ [] ∧ more.length < 2
    · simp only [lastGroup, hgroup, if_pos hfew, reduceCtorEq, false_iff]
      rintro ⟨rfl, htwo, -⟩
      exact absurd (htwo hfew.1) (Nat.not_le.mpr hfew.2)
    · rw [lastGroup_of_symbols hgroup hfew]
      constructor
      · rintro ⟨rfl, hspare⟩
        exact ⟨rfl, fun hne => Nat.not_lt.mp fun hlt => hfew ⟨hne, hlt⟩, hspare⟩
      · rintro ⟨rfl, -, hspare⟩
        exact ⟨rfl, hspare⟩

/-! ## Bytes and values -/

/-- The six-bit values of the symbols that bytes are written with. -/
def sextets : List UInt8 → List Nat
  | a :: b :: c :: rest =>
    let n := (a.toNat * 256 + b.toNat) * 256 + c.toNat
    n / 262144 :: n / 4096 % 64 :: n / 64 % 64 :: n % 64 :: sextets rest
  | [a, b] =>
    let n := (a.toNat * 256 + b.toNat) * 4
    [n / 4096, n / 64 % 64, n % 64]
  | [a] =>
    let n := a.toNat * 16
    [n / 64, n % 64]
  | [] => []

theorem encode_eq_map_symbol : encode data = (sextets data).map symbol := by
  fun_induction sextets data with
  | case1 a b c rest n ih => simp [encode, ih, n]
  | case2 a b n => rfl
  | case3 a n => rfl
  | case4 => rfl

theorem toNat_ofNat (n : Nat) : (UInt8.ofNat n).toNat = n % 256 :=
  UInt8.toNat_ofNat'

theorem ofNat_eq {n : Nat} (byte : UInt8) (h : n % 256 = byte.toNat) : UInt8.ofNat n = byte := by
  apply UInt8.toNat_inj.mp
  rw [toNat_ofNat]
  exact h

/-- The values carry the bytes they were made from. -/
theorem join_sextets : join (sextets data) = data := by
  fun_induction sextets data with
  | case1 a b c rest n ih =>
    have ha := a.toNat_lt
    have hb := b.toNat_lt
    have hc := c.toNat_lt
    have hn : ((n / 262144 * 64 + n / 4096 % 64) * 64 + n / 64 % 64) * 64 + n % 64 = n := by omega
    simp only [join, ih, hn]
    rw [ofNat_eq a (by omega), ofNat_eq b (by omega),
      ofNat_eq c (by omega)]
  | case2 a b n =>
    have ha := a.toNat_lt
    have hb := b.toNat_lt
    simp only [join]
    rw [ofNat_eq a (by omega), ofNat_eq b (by omega)]
  | case3 a n =>
    have ha := a.toNat_lt
    simp only [join]
    rw [ofNat_eq a (by omega)]
  | case4 => rfl

/-- Values that encoding produces: they have six bits, their number is that of the symbols of some
bytes, and the spare bits of the last are zero. -/
structure Canonical (found : List Nat) : Prop where
  lt : ∀ value ∈ found, value < 64
  length : found.length % 4 ≠ 1
  spare : ∀ value, found.getLast? = some value → value % spare (found.length % 4) = 0

/-- Whole groups in front make no difference. -/
theorem canonical_append_iff {head : List Nat} (tail : List Nat) {k : Nat}
    (hk : head.length = 4 * k) :
    Canonical (head ++ tail) ↔ (∀ value ∈ head, value < 64) ∧ Canonical tail := by
  have hmod : (head ++ tail).length % 4 = tail.length % 4 := by
    rw [List.length_append]
    omega
  have hlast : tail ≠ [] → (head ++ tail).getLast? = tail.getLast? := fun hne => by
    rw [List.getLast?_append, List.getLast?_eq_some_getLast hne, Option.some_or]
  constructor
  · intro h
    refine ⟨fun v hv => h.lt v (List.mem_append_left _ hv),
      fun v hv => h.lt v (List.mem_append_right _ hv), hmod ▸ h.length, fun v hv => ?_⟩
    rw [← hmod]
    apply h.spare
    rw [hlast (by rintro rfl; simp at hv)]
    exact hv
  · rintro ⟨hhead, h⟩
    refine ⟨fun v hv => (List.mem_append.mp hv).elim (hhead v) (h.lt v), hmod ▸ h.length,
      fun v hv => ?_⟩
    rw [hmod]
    by_cases hne : tail = []
    · -- a whole group has no spare bits
      rw [hne]
      exact Nat.mod_one v
    · exact h.spare v (hlast hne ▸ hv)

theorem sextets_canonical : Canonical (sextets data) := by
  fun_induction sextets data with
  | case1 a b c rest n ih =>
    have ha := a.toNat_lt
    have hb := b.toNat_lt
    have hc := c.toNat_lt
    have hgroup : [n / 262144, n / 4096 % 64, n / 64 % 64, n % 64].length = 4 * 1 := rfl
    refine (canonical_append_iff (sextets rest) hgroup).mpr ⟨?_, ih⟩
    simp only [List.mem_cons, List.not_mem_nil, or_false]
    rintro v (rfl | rfl | rfl | rfl) <;> omega
  | case2 a b n =>
    have ha := a.toNat_lt
    have hb := b.toNat_lt
    refine ⟨?_, by simp, ?_⟩
    · simp only [List.mem_cons, List.not_mem_nil, or_false]
      rintro v (rfl | rfl | rfl) <;> omega
    · rintro v hv
      obtain rfl := Option.some.inj hv
      change n % 64 % 4 = 0
      omega
  | case3 a n =>
    have ha := a.toNat_lt
    refine ⟨?_, by simp, ?_⟩
    · simp only [List.mem_cons, List.not_mem_nil, or_false]
      rintro v (rfl | rfl) <;> omega
    · rintro v hv
      obtain rfl := Option.some.inj hv
      change n % 64 % 16 = 0
      omega
  | case4 => exact ⟨by simp, by simp, by simp⟩

/-- Canonical values are those of the bytes they carry. -/
theorem sextets_join (h : Canonical found) : sextets (join found) = found := by
  fun_induction join found with
  | case1 a b c d rest n ih =>
    have hgroup : [a, b, c, d].length = 4 * 1 := rfl
    obtain ⟨hlt, hrest⟩ := (canonical_append_iff rest hgroup).mp h
    simp only [List.mem_cons, List.not_mem_nil, or_false, forall_eq_or_imp, forall_eq] at hlt
    obtain ⟨ha, hb, hc, hd⟩ := hlt
    have hn : (n / 65536 % 256 * 256 + n / 256 % 256) * 256 + n % 256 = n := by omega
    simp only [sextets, ih hrest, toNat_ofNat, hn, List.cons.injEq, and_true]
    omega
  | case2 a b c n =>
    have hlt := h.lt
    have hspare : c % 4 = 0 := h.spare c rfl
    simp only [List.mem_cons, List.not_mem_nil, or_false, forall_eq_or_imp, forall_eq] at hlt
    obtain ⟨ha, hb, hc⟩ := hlt
    have hn : (n / 1024 % 256 * 256 + n / 4 % 256) * 4 = n := by omega
    simp only [sextets, toNat_ofNat, hn, List.cons.injEq, and_true]
    omega
  | case3 a b =>
    have hlt := h.lt
    have hspare : b % 16 = 0 := h.spare b rfl
    simp only [List.mem_cons, List.not_mem_nil, or_false, forall_eq_or_imp, forall_eq] at hlt
    obtain ⟨ha, hb⟩ := hlt
    have hn : (a * 64 + b) / 16 % 256 * 16 = a * 64 + b := by omega
    simp only [sextets, toNat_ofNat, hn, List.cons.injEq, and_true]
    omega
  | case4 found hfour hthree htwo =>
    rcases found with _ | ⟨a, _ | ⟨b, _ | ⟨c, _ | ⟨d, rest⟩⟩⟩⟩
    · rfl
    · exact absurd rfl h.length
    · exact absurd rfl (htwo a b)
    · exact absurd rfl (hthree a b c)
    · exact absurd rfl (hfour a b c d rest)

/-! ## Decoding -/

theorem leading_eq (n : Nat) : leading n = 4 * ((n - 1) / 4) := Nat.mul_comm _ _

theorem checkLoneByte_eq_ok (h : bytes.length % 4 ≠ 1) : checkLoneByte bytes = .ok () := by
  unfold checkLoneByte
  cases bytes.getLast? with
  | none => rfl
  | some byte => exact if_neg fun hlone => h hlone.1

theorem length_of_map_value? (h : bytes.map value? = found.map some) :
    found.length = bytes.length := by
  rw [← List.length_map some, ← h, List.length_map]

/-- A whole group has no spare bits, as if there were no group. -/
theorem spare_mod {n : Nat} (h : n ≤ 4) : spare (n % 4) = spare n := by
  by_cases heq : n = 4
  · rw [heq]
    rfl
  · rw [Nat.mod_eq_of_lt (by omega)]

/-- The last group of at most four is accepted if its values are canonical. -/
theorem lastGroup_eq_ok_iff_canonical {start : Nat} (hfour : bytes.length ≤ 4) :
    lastGroup start bytes = .ok found ↔ bytes.map value? = found.map some ∧ Canonical found := by
  rw [lastGroup_eq_ok_iff]
  refine and_congr_right fun hmap => ?_
  have hlen := length_of_map_value? hmap
  have hcount : (bytes ≠ [] → 2 ≤ found.length) ↔ found.length % 4 ≠ 1 := by
    rw [← List.length_pos_iff]
    omega
  rw [← spare_mod (hlen ▸ hfour), hcount]
  exact ⟨fun ⟨hlength, hlast⟩ => ⟨lt_of_map_value? hmap, hlength, hlast⟩,
    fun h => ⟨h.length, h.spare⟩⟩

/-- **What decoding accepts**: symbols with canonical values. It gives the bytes they carry. -/
theorem decode_eq_ok_iff_canonical : decode bytes = .ok data ↔
    ∃ found, bytes.map value? = found.map some ∧ Canonical found ∧ join found = data := by
  have hfour : (bytes.drop (leading bytes.length)).length ≤ 4 := by
    rw [List.length_drop, leading_eq]
    omega
  have hwhole : (bytes.take (leading bytes.length)).length = 4 * ((bytes.length - 1) / 4) := by
    rw [List.length_take, leading_eq]
    omega
  constructor
  · intro h
    unfold decode at h
    cases hlone : checkLoneByte bytes with
    | error e => rw [hlone] at h; exact absurd h (by simp)
    | ok u =>
    cases hhead : values 0 (bytes.take (leading bytes.length)) with
    | error e => rw [hlone, hhead] at h; exact absurd h (by simp)
    | ok head =>
    cases htail : lastGroup (leading bytes.length) (bytes.drop (leading bytes.length)) with
    | error e => rw [hlone, hhead, htail] at h; exact absurd h (by simp)
    | ok tail =>
    rw [hlone, hhead, htail] at h
    rw [values_eq_ok_iff] at hhead
    rw [lastGroup_eq_ok_iff_canonical hfour] at htail
    refine ⟨head ++ tail, ?_, ?_, Except.ok.inj h⟩
    · rw [List.map_append, ← hhead, ← htail.1, ← List.map_append, List.take_append_drop]
    · rw [canonical_append_iff tail ((length_of_map_value? hhead).trans hwhole)]
      exact ⟨lt_of_map_value? hhead, htail.2⟩
  · rintro ⟨found, hmap, hcanonical, rfl⟩
    have hhead : values 0 (bytes.take (leading bytes.length)) =
        .ok (found.take (leading bytes.length)) := by
      rw [values_eq_ok_iff, List.map_take, hmap, List.map_take]
    have htail : lastGroup (leading bytes.length) (bytes.drop (leading bytes.length)) =
        .ok (found.drop (leading bytes.length)) := by
      rw [lastGroup_eq_ok_iff_canonical hfour, List.map_drop, hmap, List.map_drop]
      rw [← List.take_append_drop (leading bytes.length) found,
        canonical_append_iff _ ((length_of_map_value? (values_eq_ok_iff.mp hhead)).trans hwhole)]
        at hcanonical
      exact ⟨rfl, hcanonical.2⟩
    unfold decode
    rw [checkLoneByte_eq_ok (length_of_map_value? hmap ▸ hcanonical.length), hhead, htail]
    simp only [List.take_append_drop]

/-- A text of symbols, byte by byte. -/
theorem flatMap_symbol (hlt : ∀ value ∈ found, value < 64) :
    (found.map symbol).flatMap String.utf8EncodeChar = found.map symbolByte := by
  induction found with
  | nil => rfl
  | cons value found ih =>
    rw [List.map_cons, List.flatMap_cons, utf8EncodeChar_symbol value (hlt value List.mem_cons_self),
      ih fun v hv => hlt v (List.mem_cons_of_mem _ hv)]
    rfl

/-- **A text is accepted, with the bytes `data`, exactly if it is the text of `data`.** -/
theorem decode_eq_ok_iff :
    decode bytes = .ok data ↔ bytes = (encode data).flatMap String.utf8EncodeChar := by
  rw [decode_eq_ok_iff_canonical, encode_eq_map_symbol, flatMap_symbol sextets_canonical.lt,
    ← map_value?_eq_iff sextets_canonical.lt]
  constructor
  · rintro ⟨found, hmap, hcanonical, rfl⟩
    rw [sextets_join hcanonical]
    exact hmap
  · intro h
    exact ⟨sextets data, h, sextets_canonical, join_sextets⟩

end Snowflake.Base64
