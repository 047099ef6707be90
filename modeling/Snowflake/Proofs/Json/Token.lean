import Snowflake.Proofs.Json.Integer
import Snowflake.Proofs.Json.Spelling

/-!
# Tokens are read back from their text

Tokens are written side by side without blanks, so each has to show where it ends. All but numbers
do: a string has its closing quote, the rest is of fixed length. A number is read back if what
follows does not go on with it, and of the tokens only another number could.

A string is escaped one character at a time, each in one of the ways in which a character may be
written.

Results:
* `stringText_quote`: a string is written as one of its texts.
* **`scan_text`**: the text of a token is scanned as that token.
* `Scans`, `Scans.cons`, `Scans.append`: lists of tokens that are read back, and how they are put
  together.
-/

namespace Snowflake.Json

/-! ## Strings -/

/-- A control character is written as its number. -/
theorem unitText_control {n : Nat} (h : n < 0x20) :
    UnitText n ['\\', 'u', '0', '0', Nat.digitChar (n / 16), Nat.digitChar (n % 16)] := by
  have hzero : IsHex '0' 0 := by decide
  have hhigh : IsHex (Nat.digitChar (n / 16)) (n / 16) := ⟨by omega, .inl rfl⟩
  have hlow : IsHex (Nat.digitChar (n % 16)) (n % 16) := ⟨by omega, .inl rfl⟩
  have hn : ((0 * 16 + 0) * 16 + n / 16) * 16 + n % 16 = n := by omega
  have htext := UnitText.mk hzero hzero hhigh hlow
  rw [hn] at htext
  exact htext

/-- A character is written as one of its texts. -/
theorem charText_quoteChar (c : Char) : CharText c (quoteChar c) := by
  unfold quoteChar
  split
  case h_8 hquote hslash _ _ _ _ _ =>
    split
    case isTrue hcontrol => exact .unit (unitText_control hcontrol)
    case isFalse hcontrol => exact .plain (.raw (Nat.not_lt.mp hcontrol) hquote hslash)
  -- The characters with a letter of their own.
  all_goals exact .plain (.short (by decide))

/-- **A string is written as one of its texts.** -/
theorem stringText_quote (s : String) : StringText s (quote s) := by
  have hbody : ∀ chars : List Char, BodyText chars (chars.flatMap quoteChar) := by
    intro chars
    induction chars with
    | nil => exact .nil
    | cons c chars ih => exact .cons (charText_quoteChar c) ih
  exact .mk (hbody s.toList)

/-! ## Single tokens -/

/-- A token that is written so that it can be read back. -/
def Token.Legible : Token → Prop
  | .number (some n) => n.Integral
  | .number none => False
  | .string none => False
  | .bad => False
  | _ => True

/-- A token that is no number. -/
def Token.Shut : Token → Prop
  | .number _ => False
  | _ => True

/-- A digit or a sign starts a number. -/
def startsNumber (c : Char) : Bool := c.isDigit || c == '-'

theorem exists_text_integral {number : Number} (h : number.Integral) :
    ∃ c more, number.text = c :: more ∧ startsNumber c = true := by
  cases number with
  | unsigned n =>
    obtain ⟨c, more, htext, hc⟩ := exists_toDigits n.toNat
    exact ⟨c, more, htext, by simp [startsNumber, hc]⟩
  | signed n => exact ⟨'-', _, if_pos h, rfl⟩
  | float x => exact h.elim

theorem scan_startsNumber {c : Char} (s : List Char) (h : startsNumber c = true) :
    scan (c :: s) =
      (literal? (c :: s)).map fun (literal, s) => (.number literal.number, s) := by
  unfold scan
  split
  case h_11 => rfl
  all_goals
    obtain ⟨rfl, -⟩ := List.cons.inj ‹c :: s = _›
    exact absurd h (by decide)

theorem not_isBlank_of_startsNumber {c : Char} (h : startsNumber c = true) : isBlank c = false := by
  rw [Bool.eq_false_iff]
  intro hblank
  simp only [isBlank, Bool.or_eq_true, beq_iff_eq] at hblank
  obtain ((rfl | rfl) | rfl) | rfl := hblank <;> exact absurd h (by decide)

/-- What a token starts with that is no number. -/
def initials : List Char := ['\x7b', '\x7d', '[', ']', ':', ',', 'n', 't', 'f', '"']

theorem Token.Shut.exists_text {token : Token} (hlegible : token.Legible) (hshut : token.Shut) :
    ∃ c more, token.text = c :: more ∧ c ∈ initials := by
  match token, hlegible with
  | .string (some s), _ => exact ⟨'"', _, rfl, by decide⟩
  | .bool true, _ => exact ⟨'t', _, rfl, by decide⟩
  | .bool false, _ => exact ⟨'f', _, rfl, by decide⟩
  | .openObject, _ => exact ⟨'\x7b', _, rfl, by decide⟩
  | .closeObject, _ => exact ⟨'\x7d', _, rfl, by decide⟩
  | .openArray, _ => exact ⟨'[', _, rfl, by decide⟩
  | .closeArray, _ => exact ⟨']', _, rfl, by decide⟩
  | .colon, _ => exact ⟨':', _, rfl, by decide⟩
  | .comma, _ => exact ⟨',', _, rfl, by decide⟩
  | .null, _ => exact ⟨'n', _, rfl, by decide⟩

/-- None of the initials goes on with a number. -/
theorem Token.Shut.ends {token : Token} (rest : List Char) (hlegible : token.Legible)
    (hshut : token.Shut) : Ends (token.text ++ rest) := by
  obtain ⟨c, more, htext, hc⟩ := hshut.exists_text hlegible
  have hinitials : ∀ c ∈ initials, c.isDigit = false ∧ c ≠ '.' ∧ c ≠ 'e' ∧ c ≠ 'E' := by
    simp [initials]
  intro d hd
  rw [htext, List.cons_append, List.head?_cons, Option.mem_some_iff] at hd
  exact hinitials d (hd ▸ hc)

/-- The text of a token starts with no blank. -/
theorem Token.Legible.exists_text {token : Token} (h : token.Legible) :
    ∃ c more, token.text = c :: more ∧ isBlank c = false := by
  have hinitials : ∀ c ∈ initials, isBlank c = false := by simp [initials, isBlank]
  cases token with
  | number value =>
    match value, h with
    | some n, h =>
      have hn : n.Integral := h
      obtain ⟨c, more, htext, hc⟩ := exists_text_integral hn
      exact ⟨c, more, htext, not_isBlank_of_startsNumber hc⟩
  | _ =>
    obtain ⟨c, more, htext, hc⟩ := Token.Shut.exists_text h trivial
    exact ⟨c, more, htext, hinitials c hc⟩

/-- **The text of a token is scanned as that token.** -/
theorem scan_text {token : Token} {rest : List Char} (hlegible : token.Legible)
    (h : token.Shut ∨ Ends rest) : scan (token.text ++ rest) = some (token, rest) := by
  match token, hlegible with
  | .number (some number), hlegible =>
    have hnumber : number.Integral := hlegible
    obtain ⟨c, more, htext, hc⟩ := exists_text_integral hnumber
    obtain ⟨literal, hscan, hvalue⟩ := literal_text hnumber (h.resolve_left id)
    have hstart : number.text ++ rest = c :: (more ++ rest) := by rw [htext, List.cons_append]
    change scan (number.text ++ rest) = _
    rw [hstart, scan_startsNumber _ hc, ← hstart, hscan, Option.map_some]
    exact congrArg (fun value => some (Token.number value, rest)) hvalue
  | .string (some s), _ =>
    change scan (quote s ++ rest) = _
    exact scan_string_iff.mpr ⟨quote s, stringText_quote s, rfl⟩
  | .bool true, _ => rfl
  | .bool false, _ => rfl
  | .openObject, _ => rfl
  | .closeObject, _ => rfl
  | .openArray, _ => rfl
  | .closeArray, _ => rfl
  | .colon, _ => rfl
  | .comma, _ => rfl
  | .null, _ => rfl

/-- A token is cut off the front of a text. -/
theorem tokens_text {token : Token} {rest : List Char} (hlegible : token.Legible)
    (h : token.Shut ∨ Ends rest) : tokens (token.text ++ rest) = token :: tokens rest := by
  obtain ⟨c, more, htext, hblank⟩ := hlegible.exists_text
  have hscan := scan_text hlegible h
  rw [htext, List.cons_append] at hscan ⊢
  exact tokens_of_scan blank_nil hblank hscan (by simp)

/-! ## Lists of tokens -/

/-- The text of a list of tokens is read back as that list, whatever follows that does not go on
with a number. -/
def Scans (list : List Token) : Prop :=
  ∀ rest, Ends rest → tokens (render list ++ rest) = list ++ tokens rest

theorem Scans.nil : Scans [] := fun _ _ => rfl

theorem Scans.single {token : Token} (h : token.Legible) : Scans [token] := by
  intro rest hrest
  have htokens := tokens_text h (.inr hrest)
  simpa [render] using htokens

/-- A token that is no number may stand before any others. -/
theorem Scans.cons {token : Token} {list : List Token} (hlegible : token.Legible)
    (hshut : token.Shut) (h : Scans list) : Scans (token :: list) := by
  intro rest hrest
  have hrender : render (token :: list) ++ rest = token.text ++ (render list ++ rest) := by
    simp [render]
  rw [hrender, tokens_text hlegible (.inl hshut), h rest hrest]
  rfl

/-- Behind other tokens may stand whatever starts with a token that is no number. -/
theorem Scans.append {token : Token} {front back : List Token} (hlegible : token.Legible)
    (hshut : token.Shut) (hfront : Scans front) (hback : Scans (token :: back)) :
    Scans (front ++ token :: back) := by
  intro rest hrest
  have hends : Ends (render (token :: back) ++ rest) := by
    simpa [render] using hshut.ends (render back ++ rest) hlegible
  have hrender : render (front ++ token :: back) ++ rest =
      render front ++ (render (token :: back) ++ rest) := by
    simp [render]
  rw [hrender, hfront _ hends, hback rest hrest, List.append_assoc]

end Snowflake.Json
