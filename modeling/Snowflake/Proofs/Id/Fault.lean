import Snowflake.Proofs.Base64.Fault
import Snowflake.Proofs.Id.Text

/-!
# Texts that are not read

The characters of a text are counted, its bytes are decoded. A character that is not ASCII begins
with a byte that is no symbol and no pad. So a text of eleven characters that has more bytes than
eleven has a stray byte, and the decoder never meets a number of symbols that is none of eight
bytes.

Results:
* **`Id.length_utf8`**: if as many bytes as there are characters are ASCII, there are no others.
* `Id.legible_iff`, `Id.padded_iff`: what decoding finds, for eleven characters.
* **`Id.ofText_precise`**: which texts are refused, and for what.
-/

namespace Snowflake.Id

open Base64

/-! ## Characters and their bytes -/

/-- A character that begins with an ASCII byte is that byte. -/
theorem utf8EncodeChar_of_ascii {c : Char} {first : UInt8} {rest : List UInt8}
    (h : String.utf8EncodeChar c = first :: rest) (hlt : first.toNat < 128) : rest = [] := by
  -- the first byte of a longer encoding is 192 or more
  have hlead : ∀ n m : Nat, 192 ≤ m → n + m < 256 → first = UInt8.ofNat (n + m) → rest = [] := by
    rintro n m hm hsum rfl
    rw [UInt8.toNat_ofNat', Nat.mod_eq_of_lt hsum] at hlt
    omega
  dsimp only [String.utf8EncodeChar] at h
  split at h
  · exact (List.cons.inj h).2.symm
  split at h
  · exact hlead _ 192 (by omega) (by omega) (List.cons.inj h).1.symm
  split at h
  · exact hlead _ 224 (by omega) (by omega) (List.cons.inj h).1.symm
  · exact hlead _ 240 (by omega) (by omega) (List.cons.inj h).1.symm

theorem length_flatMap_utf8EncodeChar {chars : List Char}
    (h : ∀ byte ∈ (chars.flatMap String.utf8EncodeChar).take chars.length, byte.toNat < 128) :
    (chars.flatMap String.utf8EncodeChar).length = chars.length := by
  induction chars with
  | nil => rfl
  | cons c chars ih =>
    cases henc : String.utf8EncodeChar c with
    | nil => exact absurd henc String.utf8EncodeChar_ne_nil
    | cons first rest =>
      simp only [List.flatMap_cons, henc, List.cons_append, List.length_cons, List.take_succ_cons,
        List.forall_mem_cons] at h ⊢
      obtain rfl := utf8EncodeChar_of_ascii henc h.1
      rw [List.nil_append] at h ⊢
      rw [ih h.2]

variable {text : String}

/-- **If as many bytes as there are characters are ASCII, there are no others.** -/
theorem length_utf8 (h : ∀ byte ∈ (utf8 text).take text.length, byte.toNat < 128) :
    (utf8 text).length = text.length := by
  rw [← String.length_toList] at h ⊢
  exact length_flatMap_utf8EncodeChar h

/-! ## Eleven characters -/

/-- Eleven symbols, of which the last has no spare bit set. -/
structure Legible (bytes : List UInt8) : Prop where
  length : bytes.length = 11
  symbols : ∀ byte ∈ bytes, IsSymbol byte
  spare : ∀ byte value, bytes[10]? = some byte → value? byte = some value → value % 4 = 0

theorem length_of_symbols (h : text.length = textLength)
    (hsymbols : ∀ byte ∈ utf8 text, IsSymbol byte) : (utf8 text).length = 11 :=
  (length_utf8 fun byte hmem => (hsymbols byte (List.mem_of_mem_take hmem)).lt).trans h

/-- Of the bytes of eleven characters those are decoded that are legible. -/
theorem legible_iff (h : text.length = textLength) :
    Legible (utf8 text) ↔ ∃ data, decode (utf8 text) = .ok data := by
  have hspare : (utf8 text).length = 11 → (SpareClear (utf8 text) ↔
      ∀ byte value, (utf8 text)[10]? = some byte → value? byte = some value → value % 4 = 0) := by
    intro hlength
    unfold SpareClear
    rw [List.getLast?_eq_getElem?, hlength]
    rfl
  rw [exists_decode_iff]
  constructor
  · intro hlegible
    have hlength := hlegible.length
    exact ⟨hlegible.symbols, by omega, (hspare hlength).mpr hlegible.spare⟩
  · rintro ⟨hsymbols, -, hclear⟩
    have hlength := length_of_symbols h hsymbols
    exact ⟨hlength, hsymbols, (hspare hlength).mp hclear⟩

/-- With padding, eleven characters are ten symbols and a pad. -/
theorem padded_iff (h : text.length = textLength) :
    (∃ front pads, Padded (utf8 text) front pads) ↔
      (∀ byte ∈ (utf8 text).take 10, IsSymbol byte) ∧ (utf8 text)[10]? = some pad := by
  have hascii : pad.toNat < 128 := by decide
  constructor
  · rintro ⟨front, pads, hpadded⟩
    have hlength : (utf8 text).length = 11 := by
      refine (length_utf8 fun byte hmem => ?_).trans h
      have hbyte : byte ∈ front ++ pads := hpadded.parts ▸ List.mem_of_mem_take hmem
      rcases List.mem_append.mp hbyte with hfront | hpads
      · exact (hpadded.symbols byte hfront).lt
      · rw [hpadded.only_pads byte hpads]
        exact hascii
    have hbehind := hpadded.behind
    have hsome := List.length_pos_iff.mpr hpadded.some_pad
    rw [hlength] at hbehind
    change 10 ≤ front.length at hbehind
    rw [hpadded.parts, List.length_append] at hlength
    have hten : front.length = 10 := by omega
    obtain ⟨last, rfl⟩ := List.length_eq_one_iff.mp (by omega : pads.length = 1)
    rw [hpadded.parts, ← hten, List.take_left, List.getElem?_concat_length,
      hpadded.only_pads last List.mem_cons_self]
    exact ⟨hpadded.symbols, rfl⟩
  · rintro ⟨hten, hpad⟩
    have htake : (utf8 text).take 11 = (utf8 text).take 10 ++ [pad] := by
      rw [List.take_add_one, hpad]
      rfl
    have hlength : (utf8 text).length = 11 := by
      refine (length_utf8 fun byte hmem => ?_).trans h
      rw [h] at hmem
      change byte ∈ (utf8 text).take 11 at hmem
      rw [htake] at hmem
      rcases List.mem_append.mp hmem with hmem | hmem
      · exact (hten byte hmem).lt
      · rw [List.mem_singleton.mp hmem]
        exact hascii
    refine ⟨(utf8 text).take 10, [pad], ?_, hten, by simp, by simp, ?_⟩
    · rw [← htake, List.take_of_length_le (Nat.le_of_eq hlength)]
    · rw [hlength, List.length_take, hlength]
      decide

/-! ## Refusals -/

theorem ofText_of_length (h : text.length = textLength) :
    ofText text =
      match decode (utf8 text) with
      | .error e => .error (.invalidEncoding (.invalidSymbol e))
      | .ok data => ofBytes data :=
  if_neg (not_not_intro h)

/-- Of eleven characters that are decoded there are eight bytes. -/
theorem exists_ofBytes {data : List UInt8} (h : text.length = textLength)
    (hdata : decode (utf8 text) = .ok data) : ∃ id, ofBytes data = .ok id := by
  have hlength := ((legible_iff h).mpr ⟨data, hdata⟩).length
  have height : data.length = byteCount := by
    rw [length_of_decode hdata, hlength]
    rfl
  exact ⟨_, if_pos height⟩

theorem ofText_eq_invalidSymbol_iff {cause : DecodeError} (h : text.length = textLength) :
    ofText text = .error (.invalidEncoding (.invalidSymbol cause)) ↔
      decode (utf8 text) = .error cause := by
  rw [ofText_of_length h]
  cases hdecode : decode (utf8 text) with
  | error e => simp
  | ok data =>
    obtain ⟨id, hid⟩ := exists_ofBytes h hdecode
    simp [hid]

theorem exists_ofText_iff (h : text.length = textLength) :
    (∃ id, ofText text = .ok id) ↔ Legible (utf8 text) := by
  rw [legible_iff h, ofText_of_length h]
  cases hdecode : decode (utf8 text) with
  | error e => simp
  | ok data =>
    obtain ⟨id, hid⟩ := exists_ofBytes h hdecode
    simp [hid]

/-- **Texts are refused precisely.** A text that has not eleven characters is refused for their
number. A text of eleven characters is read if it is eleven bytes, all of them symbols, and the two
low bits of the last are clear; every other is refused for a symbol. If that is a byte at an offset,
the byte is there and is no symbol. If it is the last symbol, there are only symbols, and it is the
eleventh. It is the padding exactly if ten symbols and a pad come first. It never is the number of
symbols, and what is decoded are eight bytes. -/
theorem ofText_precise (text : String) :
    (text.length ≠ 11 →
      ofText text = .error (.invalidEncoding (.invalidLength 11 text.length))) ∧
    (text.length = 11 →
      ((∃ id, ofText text = .ok id) ↔ Legible (utf8 text)) ∧
      (¬ Legible (utf8 text) →
        ∃ cause, ofText text = .error (.invalidEncoding (.invalidSymbol cause))) ∧
      (∀ offset byte,
        ofText text = .error (.invalidEncoding (.invalidSymbol (.invalidByte offset byte))) →
          offset < (utf8 text).length ∧ (utf8 text)[offset]? = some byte ∧ ¬ IsSymbol byte) ∧
      (∀ offset byte,
        ofText text = .error (.invalidEncoding (.invalidSymbol (.invalidLastSymbol offset byte))) →
          (utf8 text).length = 11 ∧ (∀ symbol ∈ utf8 text, IsSymbol symbol) ∧
            offset = 10 ∧ (utf8 text)[10]? = some byte) ∧
      (ofText text = .error (.invalidEncoding (.invalidSymbol .invalidPadding)) ↔
        (∀ byte ∈ (utf8 text).take 10, IsSymbol byte) ∧ (utf8 text)[10]? = some pad) ∧
      (∀ length, decode (utf8 text) ≠ .error (.invalidLength length)) ∧
      ∀ data, decode (utf8 text) = .ok data → ∃ id, ofBytes data = .ok id) := by
  refine ⟨fun h => if_pos h, fun h => ⟨exists_ofText_iff h, ?_, ?_, ?_, ?_, ?_, ?_⟩⟩
  · intro hillegible
    rcases decode_cases (utf8 text) with hok | ⟨cause, hcause, -⟩
    · exact absurd ((legible_iff h).mpr hok) hillegible
    · exact ⟨cause, (ofText_eq_invalidSymbol_iff h).mpr hcause⟩
  · intro offset byte hrefused
    cases decode_faulty ((ofText_eq_invalidSymbol_iff h).mp hrefused) with
    | invalidByte found stray misplaced =>
      exact ⟨(List.getElem?_eq_some_iff.mp found).1, found, stray⟩
  · intro offset byte hrefused
    rw [ofText_eq_invalidSymbol_iff h, decode_eq_invalidLastSymbol_iff] at hrefused
    obtain ⟨hsymbols, -, -, rfl, hlast⟩ := hrefused
    have hlength := length_of_symbols h hsymbols
    rw [List.getLast?_eq_getElem?, hlength] at hlast
    rw [hlength]
    exact ⟨rfl, hsymbols, rfl, hlast⟩
  · rw [ofText_eq_invalidSymbol_iff h, decode_eq_invalidPadding_iff, padded_iff h]
  · intro length hrefused
    obtain ⟨hsymbols, halone, -⟩ := decode_eq_invalidLength_iff.mp hrefused
    rw [length_of_symbols h hsymbols] at halone
    exact absurd halone (by decide)
  · exact fun data hdata => exists_ofBytes h hdata

/-- Ten symbols with a pad, with a symbol whose low bits are not clear, and with a character of two
bytes; and that character alone. -/
theorem ofText_precise_ten_and_one :
    ofText "AAAAAAAAAA=" = .error (.invalidEncoding (.invalidSymbol .invalidPadding)) ∧
      (∃ cause, ofText "AAAAAAAAAAB" = .error (.invalidEncoding (.invalidSymbol cause))) ∧
      ofText "AAAAAAAAAAé" = .error (.invalidEncoding (.invalidSymbol (.invalidByte 10 195))) ∧
      10 < (utf8 "AAAAAAAAAAé").length ∧ ¬ IsSymbol 195 ∧
      ofText "é" = .error (.invalidEncoding (.invalidLength 11 1)) := by
  obtain ⟨-, -, -, -, hpadding, -⟩ := (ofText_precise "AAAAAAAAAA=").2 rfl
  obtain ⟨-, hrefused, -⟩ := (ofText_precise "AAAAAAAAAAB").2 rfl
  obtain ⟨-, -, hbyte, -⟩ := (ofText_precise "AAAAAAAAAAé").2 rfl
  have hten : ∀ byte ∈ (utf8 "AAAAAAAAAA=").take 10, IsSymbol byte := by
    intro byte hmem
    have hbyte : byte = 65 := List.eq_of_mem_replicate (n := 10) hmem
    rw [hbyte]
    decide
  have hspare : ¬ Legible (utf8 "AAAAAAAAAAB") := fun h =>
    absurd (h.spare 66 1 rfl rfl) (by decide)
  obtain ⟨hbelow, -, hstray⟩ := hbyte 10 195 rfl
  exact ⟨hpadding.mpr ⟨hten, rfl⟩, hrefused hspare, rfl, hbelow, hstray,
    (ofText_precise "é").1 (by decide)⟩

end Snowflake.Id
