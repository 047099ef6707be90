import Mathlib.Data.List.Forall2
import Mathlib.Data.List.TakeWhile
import Snowflake.Json.Token

/-!
# Ways of writing a string

JSON has many texts for one string: a character may stand for itself, have a letter of its own
behind a backslash, or be given by its number, in hexadecimal digits of either case and in two
halves if it does not fit four of them. `CharText` and `StringText` say which texts those are,
without a word on how they are read.

The scanner takes such a text apart into pieces and puts the characters together afterwards, so that
both directions go by way of the pieces: a character is one of them, or two if it was halved.

Results:
* `pieces_append`, `exists_piecesText`: the pieces that a string is scanned into.
* `CharText.exists_pieces`, `PiecesText.bodyText`: the characters that pieces stand for.
* **`scan_string_iff`**: a string is scanned from its texts and from no others.
* `Laid.tokens`, **`tokens_string_iff`**: texts with blanks around them, and a string by itself.
-/

namespace Snowflake.Json

/-! ## The texts of a string -/

/-- A hexadecimal digit of the value `d`, in either case. -/
def IsHex (c : Char) (d : Nat) : Prop :=
  d < 16 ∧ (c = Nat.digitChar d ∨ c = (Nat.digitChar d).toUpper)

instance (c : Char) (d : Nat) : Decidable (IsHex c d) := inferInstanceAs (Decidable (_ ∧ _))

/-- The text of a 16-bit unit: its four hexadecimal digits behind `\u`. -/
inductive UnitText : Nat → List Char → Prop where
  | mk {a b c d : Char} {i j k l : Nat} (ha : IsHex a i) (hb : IsHex b j) (hc : IsHex c k)
      (hd : IsHex d l) : UnitText (((i * 16 + j) * 16 + k) * 16 + l) ['\\', 'u', a, b, c, d]

/-- The letters that may stand behind a backslash, and what they stand for. -/
def shortEscapes : List (Char × Char) :=
  [('"', '"'), ('\\', '\\'), ('/', '/'), ('b', '\x08'), ('f', '\x0c'), ('n', '\n'), ('r', '\r'),
    ('t', '\t')]

/-- A character as itself or by its letter. -/
inductive PlainText : Char → List Char → Prop where
  | raw {c : Char} (h : 0x20 ≤ c.toNat) (hquote : c ≠ '"') (hslash : c ≠ '\\') : PlainText c [c]
  | short {letter c : Char} (h : (letter, c) ∈ shortEscapes) : PlainText c ['\\', letter]

/-- **The texts of a character** in a string. -/
inductive CharText (c : Char) : List Char → Prop where
  | plain {text : List Char} (h : PlainText c text) : CharText c text
  | unit {text : List Char} (h : UnitText c.toNat text) : CharText c text
  /-- A surrogate pair. -/
  | pair {high low : List Char} (h : 0x10000 ≤ c.toNat)
      (hhigh : UnitText (0xD800 + (c.toNat - 0x10000) / 0x400) high)
      (hlow : UnitText (0xDC00 + (c.toNat - 0x10000) % 0x400) low) : CharText c (high ++ low)

/-- The texts of several characters, each written in a way of its own. -/
inductive BodyText : List Char → List Char → Prop where
  | nil : BodyText [] []
  | cons {c : Char} {s text more : List Char} (h : CharText c text) (hmore : BodyText s more) :
      BodyText (c :: s) (text ++ more)

/-- **The texts of a string**, quotes included. -/
inductive StringText (s : String) : List Char → Prop where
  | mk {body : List Char} (h : BodyText s.toList body) : StringText s ('"' :: (body ++ ['"']))

/-! ## Hexadecimal digits -/

theorem hexDigit?_of_isHex {c : Char} {d : Nat} (h : IsHex c d) : hexDigit? c = some d := by
  have hall : ∀ d < 16, hexDigit? (Nat.digitChar d) = some d ∧
      hexDigit? (Nat.digitChar d).toUpper = some d := by decide
  obtain ⟨hd, rfl | rfl⟩ := h
  · exact (hall d hd).1
  · exact (hall d hd).2

theorem toNat_lt_of_hexDigit? {c : Char} {d : Nat} (h : hexDigit? c = some d) :
    c.toNat < 128 := by
  have hle : ∀ a b : Char, a ≤ b ↔ a.toNat ≤ b.toNat := fun _ _ => Iff.rfl
  have hnine : '9'.toNat = 57 := rfl
  have hf : 'f'.toNat = 102 := rfl
  have hF : 'F'.toNat = 70 := rfl
  simp only [hexDigit?, hle] at h
  split at h
  · omega
  · split at h
    · omega
    · split at h
      · omega
      · exact absurd h (by simp)

theorem isHex_of_hexDigit? {c : Char} {d : Nat} (h : hexDigit? c = some d) : IsHex c d := by
  have hall : ∀ n < 128, ∀ d ∈ hexDigit? (Char.ofNat n), IsHex (Char.ofNat n) d := by decide
  have hc := hall c.toNat (toNat_lt_of_hexDigit? h) d
  rw [Char.ofNat_toNat] at hc
  exact hc h

/-- Four digits are read as the unit that they are a text of. -/
theorem unit?_eq_some_iff {a b c d : Char} {n : Nat} :
    unit? a b c d = some n ↔ UnitText n ['\\', 'u', a, b, c, d] := by
  constructor
  · intro h
    simp only [unit?, Option.bind_eq_bind, Option.bind_eq_some_iff, Option.pure_def,
      Option.some.injEq] at h
    obtain ⟨i, ha, j, hb, k, hc, l, hd, rfl⟩ := h
    exact .mk (isHex_of_hexDigit? ha) (isHex_of_hexDigit? hb) (isHex_of_hexDigit? hc)
      (isHex_of_hexDigit? hd)
  · intro h
    cases h with
    | mk ha hb hc hd =>
      unfold unit?
      rw [hexDigit?_of_isHex ha, hexDigit?_of_isHex hb, hexDigit?_of_isHex hc,
        hexDigit?_of_isHex hd]
      rfl

theorem UnitText.lt {n : Nat} {text : List Char} (h : UnitText n text) : n < 0x10000 := by
  cases h with
  | mk ha hb hc hd =>
    have hi := ha.1
    have hj := hb.1
    have hk := hc.1
    have hl := hd.1
    omega

/-! ## Pieces -/

/-- The text of a piece. -/
inductive PieceText : Piece → List Char → Prop where
  | char {c : Char} {text : List Char} (h : PlainText c text) : PieceText (.char c) text
  | unit {n : Nat} {text : List Char} (h : UnitText n text) : PieceText (.unit n) text

/-- The text of several pieces. -/
inductive PiecesText : List Piece → List Char → Prop where
  | nil : PiecesText [] []
  | cons {piece : Piece} {found : List Piece} {text more : List Char} (h : PieceText piece text)
      (hmore : PiecesText found more) : PiecesText (piece :: found) (text ++ more)

theorem isPlain_iff {c : Char} : isPlain c = true ↔ 0x20 ≤ c.toNat ∧ c ≠ '"' ∧ c ≠ '\\' := by
  simp only [isPlain, Bool.and_eq_true, decide_eq_true_eq, bne_iff_ne, and_assoc]

theorem shortEscape?_eq_some_iff {letter c : Char} :
    shortEscape? letter = some c ↔ (letter, c) ∈ shortEscapes := by
  constructor
  · intro h
    unfold shortEscape? at h
    split at h
    case h_9 => exact absurd h (by simp)
    all_goals
      obtain rfl := Option.some.inj h
      decide
  · intro h
    have hall : ∀ e ∈ shortEscapes, shortEscape? e.1 = some e.2 := by decide
    exact hall _ h

/-- The text of a piece is scanned as that piece. -/
theorem pieces_append {piece : Piece} {text : List Char} (h : PieceText piece text)
    (rest : List Char) :
    pieces (text ++ rest) = (pieces rest).map fun (more, rest) => (piece :: more, rest) := by
  cases h with
  | char h =>
    cases h with
    | raw h hquote hslash =>
      rw [List.singleton_append, pieces, if_pos (isPlain_iff.mpr ⟨h, hquote, hslash⟩)]
      · cases pieces rest <;> rfl
      · exact hquote
      · exact fun _ _ _ _ _ h _ => hslash h
      · exact fun _ _ h _ => hslash h
    | @short letter c h =>
      have hletter : letter ≠ 'u' := by
        rintro rfl
        have hnone : ∀ e ∈ shortEscapes, e.1 ≠ 'u' := by decide
        exact hnone _ h rfl
      rw [List.cons_append, List.singleton_append, pieces, shortEscape?_eq_some_iff.mpr h]
      · cases pieces rest <;> rfl
      · exact fun _ _ _ _ _ hu _ => hletter hu
  | unit h =>
    cases h with
    | mk ha hb hc hd =>
      simp only [List.cons_append, List.nil_append]
      rw [pieces, unit?_eq_some_iff.mpr (.mk ha hb hc hd)]
      cases pieces rest <;> rfl

/-- A piece in front of a text that starts with pieces and a closing quote. -/
theorem PieceText.before {piece : Piece} {found : List Piece} {text s rest : List Char}
    (h : PieceText piece text) (hmore : ∃ body, PiecesText found body ∧ s = body ++ '"' :: rest) :
    ∃ body, PiecesText (piece :: found) body ∧ text ++ s = body ++ '"' :: rest := by
  obtain ⟨body, hbody, rfl⟩ := hmore
  exact ⟨text ++ body, .cons h hbody, (List.append_assoc _ _ _).symm⟩

/-- A scan finds pieces whose texts stand there, up to the closing quote. -/
theorem exists_piecesText {s rest : List Char} {found : List Piece}
    (h : pieces s = some (found, rest)) :
    ∃ body, PiecesText found body ∧ s = body ++ '"' :: rest := by
  fun_induction pieces s generalizing found with
  | case1 => exact absurd h (by simp)
  | case2 s =>
    obtain ⟨rfl, rfl⟩ := Prod.mk.inj (Option.some.inj h)
    exact ⟨[], .nil, rfl⟩
  | case3 a b c d s ih =>
    simp only [Option.bind_eq_bind, Option.bind_eq_some_iff, Option.pure_def, Option.some.injEq,
      Prod.mk.injEq] at h
    obtain ⟨n, hn, ⟨more, rest'⟩, hmore, rfl, rfl⟩ := h
    exact (PieceText.unit (unit?_eq_some_iff.mp hn)).before (ih hmore)
  | case4 letter s hletter ih =>
    simp only [Option.bind_eq_bind, Option.bind_eq_some_iff, Option.pure_def, Option.some.injEq,
      Prod.mk.injEq] at h
    obtain ⟨c, hc, ⟨more, rest'⟩, hmore, rfl, rfl⟩ := h
    exact (PieceText.char (.short (shortEscape?_eq_some_iff.mp hc))).before (ih hmore)
  | case5 c s hquote hunit hslash hplain ih =>
    simp only [Option.bind_eq_bind, Option.bind_eq_some_iff, Option.pure_def, Option.some.injEq,
      Prod.mk.injEq] at h
    obtain ⟨⟨more, rest'⟩, hmore, rfl, rfl⟩ := h
    obtain ⟨hle, hquote, hslash⟩ := isPlain_iff.mp hplain
    exact (PieceText.char (.raw hle hquote hslash)).before (ih hmore)
  | case6 => exact absurd h (by simp)

/-! ## Characters -/

theorem assemble_unit {c : Char} (more : List Piece) :
    assemble (.unit c.toNat :: more) = (assemble more).map (c :: ·) := by
  have hvalid : c.toNat < 0xD800 ∨ 0xDFFF < c.toNat ∧ c.toNat < 0x110000 := c.valid
  have hhigh : ¬ isHigh c.toNat = true := by
    simp only [isHigh, Bool.and_eq_true, decide_eq_true_eq]
    omega
  have hlow : ¬ isLow c.toNat = true := by
    simp only [isLow, Bool.and_eq_true, decide_eq_true_eq]
    omega
  rw [assemble.eq_def]
  simp only [if_neg hhigh, if_neg hlow, Char.ofNat_toNat]

theorem assemble_pair {c : Char} (h : 0x10000 ≤ c.toNat) (more : List Piece) :
    assemble (.unit (0xD800 + (c.toNat - 0x10000) / 0x400) ::
      .unit (0xDC00 + (c.toNat - 0x10000) % 0x400) :: more) = (assemble more).map (c :: ·) := by
  have hvalid : c.toNat < 0xD800 ∨ 0xDFFF < c.toNat ∧ c.toNat < 0x110000 := c.valid
  have hhigh : isHigh (0xD800 + (c.toNat - 0x10000) / 0x400) = true := by
    simp only [isHigh, Bool.and_eq_true, decide_eq_true_eq]
    omega
  have hlow : isLow (0xDC00 + (c.toNat - 0x10000) % 0x400) = true := by
    simp only [isLow, Bool.and_eq_true, decide_eq_true_eq]
    omega
  have hpair : pairChar (0xD800 + (c.toNat - 0x10000) / 0x400)
      (0xDC00 + (c.toNat - 0x10000) % 0x400) = c := by
    have hnumber : 0x10000 + (0xD800 + (c.toNat - 0x10000) / 0x400 - 0xD800) * 0x400 +
        (0xDC00 + (c.toNat - 0x10000) % 0x400 - 0xDC00) = c.toNat := by omega
    rw [pairChar, hnumber, Char.ofNat_toNat]
  simp only [assemble, if_pos hhigh, if_pos hlow, hpair]

/-- A text of a character is scanned as pieces that stand for it. -/
theorem CharText.exists_pieces {c : Char} {text : List Char} (h : CharText c text) :
    ∃ front, (∀ rest, pieces (text ++ rest) =
        (pieces rest).map fun (more, rest) => (front ++ more, rest)) ∧
      ∀ more, assemble (front ++ more) = (assemble more).map (c :: ·) := by
  cases h with
  | plain h => exact ⟨[.char c], fun rest => pieces_append (.char h) rest, fun _ => rfl⟩
  | unit h => exact ⟨[.unit c.toNat], fun rest => pieces_append (.unit h) rest, assemble_unit⟩
  | pair h hhigh hlow =>
    refine ⟨[.unit _, .unit _], fun rest => ?_, assemble_pair h⟩
    rw [List.append_assoc, pieces_append (.unit hhigh), pieces_append (.unit hlow), Option.map_map]
    rfl

/-- **The text of characters is scanned as pieces that stand for them.** -/
theorem BodyText.exists_pieces {s body : List Char} (h : BodyText s body) (rest : List Char) :
    ∃ found, pieces (body ++ '"' :: rest) = some (found, rest) ∧ assemble found = some s := by
  induction h with
  | nil => exact ⟨[], rfl, rfl⟩
  | cons hchar _ ih =>
    obtain ⟨found, hpieces, hassemble⟩ := ih
    obtain ⟨front, hscan, hstands⟩ := hchar.exists_pieces
    refine ⟨front ++ found, ?_, ?_⟩
    · rw [List.append_assoc, hscan, hpieces]
      rfl
    · rw [hstands, hassemble]
      rfl

theorem toNat_charOfNat {n : Nat} (h : n.isValidChar) : (Char.ofNat n).toNat = n := by
  rw [Char.ofNat, dif_pos h]
  rfl

/-- Two units that make a pair are the halves of its character. -/
theorem halves_pairChar {high low : Nat} (hhigh : isHigh high = true) (hlow : isLow low = true) :
    0x10000 ≤ (pairChar high low).toNat ∧
      high = 0xD800 + ((pairChar high low).toNat - 0x10000) / 0x400 ∧
      low = 0xDC00 + ((pairChar high low).toNat - 0x10000) % 0x400 := by
  simp only [isHigh, isLow, Bool.and_eq_true, decide_eq_true_eq] at hhigh hlow
  have hpair : (pairChar high low).toNat =
      0x10000 + (high - 0xD800) * 0x400 + (low - 0xDC00) :=
    toNat_charOfNat (.inr (by omega))
  omega

/-- **The text of pieces is one of the characters that they stand for.** -/
theorem PiecesText.bodyText {found : List Piece} {body s : List Char} (h : PiecesText found body)
    (hs : assemble found = some s) : BodyText s body := by
  fun_induction assemble found generalizing body s with
  | case1 =>
    cases h
    obtain rfl := Option.some.inj hs
    exact .nil
  | case2 c found ih =>
    obtain ⟨more, hmore, rfl⟩ := Option.map_eq_some_iff.mp hs
    obtain - | ⟨⟨hchar⟩, hfound⟩ := h
    exact .cons (.plain hchar) (ih hfound hmore)
  | case3 high hhigh low found hlow ih =>
    obtain ⟨more, hmore, rfl⟩ := Option.map_eq_some_iff.mp hs
    obtain - | ⟨- | htextHigh, - | ⟨- | htextLow, hfound⟩⟩ := h
    obtain ⟨hle, hhalfHigh, hhalfLow⟩ := halves_pairChar hhigh hlow
    rw [hhalfHigh] at htextHigh
    rw [hhalfLow] at htextLow
    rw [← List.append_assoc]
    exact .cons (.pair hle htextHigh htextLow) (ih hfound hmore)
  | case4 | case5 | case6 => exact absurd hs (by simp)
  | case7 n found hhigh hlow ih =>
    obtain ⟨more, hmore, rfl⟩ := Option.map_eq_some_iff.mp hs
    obtain - | ⟨- | htext, hfound⟩ := h
    have hn : (Char.ofNat n).toNat = n := by
      have hlt := htext.lt
      simp only [isHigh, isLow, Bool.and_eq_true, decide_eq_true_eq] at hhigh hlow
      exact toNat_charOfNat (by simp only [Nat.isValidChar]; omega)
    rw [← hn] at htext
    exact .cons (.unit htext) (ih hfound hmore)

/-! ## Strings -/

/-- What is scanned as a string starts with a quote. -/
theorem exists_quote {s rest : List Char} {value : Option String}
    (h : scan s = some (.string value, rest)) : ∃ more, s = '"' :: more := by
  unfold scan at h
  split at h
  case h_10 more => exact ⟨more, rfl⟩
  case h_11 =>
    obtain ⟨found, -, hfound⟩ := Option.map_eq_some_iff.mp h
    exact absurd (congrArg Prod.fst hfound) (by simp)
  all_goals exact absurd (congrArg Prod.fst (Option.some.inj h)) (by simp)

/-- What is scanned up to a closing quote is a text of the string that the pieces stand for. -/
theorem exists_stringText {text rest : List Char} {found : List Piece} {s : String}
    (hpieces : pieces text = some (found, rest)) (hs : assemble found = some s.toList) :
    ∃ literal, StringText s literal ∧ '"' :: text = literal ++ rest := by
  obtain ⟨body, hbody, rfl⟩ := exists_piecesText hpieces
  exact ⟨_, .mk (hbody.bodyText hs), by simp⟩

theorem stringText_of_pieces {text : List Char} {found : List Piece} {s : String}
    (hpieces : pieces text = some (found, [])) (hs : assemble found = some s.toList) :
    StringText s ('"' :: text) := by
  obtain ⟨literal, hliteral, heq⟩ := exists_stringText hpieces hs
  rw [heq, List.append_nil]
  exact hliteral

/-- **A string is scanned from its texts and from no others**, whatever follows. -/
theorem scan_string_iff {text rest : List Char} {s : String} :
    scan text = some (.string (some s), rest) ↔
      ∃ literal, StringText s literal ∧ text = literal ++ rest := by
  constructor
  · intro h
    obtain ⟨more, rfl⟩ := exists_quote h
    simp only [scan, Option.map_eq_some_iff, Prod.mk.injEq, Token.string.injEq] at h
    obtain ⟨⟨found, rest'⟩, hpieces, ⟨chars, hchars, rfl⟩, rfl⟩ := h
    rw [← String.toList_ofList (l := chars)] at hchars
    exact exists_stringText hpieces hchars
  · rintro ⟨_, @⟨body, hbody⟩, rfl⟩
    obtain ⟨found, hpieces, hassemble⟩ := hbody.exists_pieces rest
    simp only [List.cons_append, List.append_assoc, List.nil_append, scan, hpieces,
      Option.map_some, hassemble, String.ofList_toList]

/-! ## Texts with blanks -/

/-- Nothing but blanks. -/
def Blank (text : List Char) : Prop := ∀ c ∈ text, isBlank c = true

theorem blank_nil : Blank [] := fun _ hmem => absurd hmem List.not_mem_nil

/-- **Texts one after the other**, with blanks or none before, between and behind them. -/
inductive Laid : List (List Char) → List Char → Prop where
  | nil {blanks : List Char} (h : Blank blanks) : Laid [] blanks
  | cons {blanks lexeme text : List Char} {lexemes : List (List Char)} (h : Blank blanks)
      (hmore : Laid lexemes text) : Laid (lexeme :: lexemes) (blanks ++ (lexeme ++ text))

/-- A text that is scanned as one token, whatever follows. -/
structure Lexeme (token : Token) (text : List Char) : Prop where
  starts : ∃ c more, text = c :: more ∧ isBlank c = false
  scans : ∀ rest, scan (text ++ rest) = some (token, rest)

theorem StringText.lexeme {s : String} {literal : List Char} (h : StringText s literal) :
    Lexeme (.string (some s)) literal where
  starts := by
    cases h
    exact ⟨'"', _, rfl, rfl⟩
  scans _ := scan_string_iff.mpr ⟨literal, h, rfl⟩

/-- A character that is a token by itself. -/
theorem Lexeme.single {token : Token} {c : Char} (hc : isBlank c = false)
    (hscan : ∀ rest, scan (c :: rest) = some (token, rest)) : Lexeme token [c] :=
  ⟨⟨c, [], rfl, hc⟩, hscan⟩

theorem dropWhile_blanks {blanks : List Char} (h : Blank blanks) (text : List Char) :
    (blanks ++ text).dropWhile isBlank = text.dropWhile isBlank :=
  List.dropWhile_append_of_pos h

theorem tokens_blanks {blanks : List Char} (h : Blank blanks) : tokens blanks = [] := by
  have hdrop := dropWhile_blanks h []
  rw [List.append_nil] at hdrop
  rw [tokens, hdrop]
  rfl

/-- What is scanned behind blanks is cut off a text together with them. -/
theorem tokens_of_scan {token : Token} {blanks more rest : List Char} {c : Char}
    (hblanks : Blank blanks) (hc : isBlank c = false)
    (hscan : scan (c :: more) = some (token, rest)) (hshorter : rest.length ≤ more.length) :
    tokens (blanks ++ c :: more) = token :: tokens rest := by
  have hlength : rest.length < (blanks ++ c :: more).length := by
    simp only [List.length_append, List.length_cons]
    omega
  rw [tokens, dropWhile_blanks hblanks, List.dropWhile_cons_of_neg (by simp [hc])]
  simp only [hscan]
  rw [dif_pos hlength]

/-- A token is cut off the front of a text, with the blanks before it. -/
theorem Lexeme.tokens {token : Token} {blanks text : List Char} (h : Lexeme token text)
    (hblanks : Blank blanks) (rest : List Char) :
    tokens (blanks ++ (text ++ rest)) = token :: tokens rest := by
  obtain ⟨c, more, rfl, hc⟩ := h.starts
  exact tokens_of_scan hblanks hc (h.scans rest) (by simp)

/-- **Texts of tokens, with blanks around them, are cut into these tokens.** -/
theorem Laid.tokens {list : List Token} {lexemes : List (List Char)} {text : List Char}
    (h : Laid lexemes text) (hlexemes : List.Forall₂ Lexeme list lexemes) : tokens text = list := by
  induction h generalizing list with
  | nil hblanks =>
    cases hlexemes
    exact tokens_blanks hblanks
  | cons hblanks _ ih =>
    obtain - | ⟨hlexeme, hmore⟩ := hlexemes
    rw [hlexeme.tokens hblanks, ih hmore]

/-- A text is blanks and what is left when they are dropped. -/
theorem exists_blanks (text : List Char) :
    ∃ blanks, Blank blanks ∧ text = blanks ++ text.dropWhile isBlank :=
  ⟨text.takeWhile isBlank, fun _ => List.mem_takeWhile_imp, List.takeWhile_append_dropWhile.symm⟩

theorem blank_of_tokens {text : List Char} (h : tokens text = []) : Blank text := by
  obtain ⟨blanks, hblanks, htext⟩ := exists_blanks text
  rw [tokens.eq_def] at h
  cases hdrop : text.dropWhile isBlank with
  | nil =>
    rw [htext, hdrop, List.append_nil]
    exact hblanks
  | cons c more =>
    simp only [hdrop] at h
    split at h
    · exact absurd h (by simp)
    · split at h <;> exact absurd h (by simp)

/-- A text that starts with a string starts with blanks and a text of that string. -/
theorem exists_literal {text : List Char} {s : String} {list : List Token}
    (h : tokens text = .string (some s) :: list) :
    ∃ blanks literal rest, Blank blanks ∧ StringText s literal ∧
      text = blanks ++ (literal ++ rest) ∧ tokens rest = list := by
  obtain ⟨blanks, hblanks, htext⟩ := exists_blanks text
  rw [tokens.eq_def] at h
  cases hdrop : text.dropWhile isBlank with
  | nil =>
    simp only [hdrop] at h
    exact absurd h (by simp)
  | cons c more =>
    simp only [hdrop] at h
    split at h
    · exact absurd h (by simp)
    · rename_i token rest hscan
      split at h
      · obtain ⟨rfl, hlist⟩ := List.cons.inj h
        obtain ⟨literal, hliteral, hstart⟩ := scan_string_iff.mp hscan
        rw [hdrop, hstart] at htext
        exact ⟨blanks, literal, rest, hblanks, hliteral, htext, hlist⟩
      · exact absurd h (by simp)

/-- **A text is cut into one string exactly if it is one of the texts of that string**, with blanks
around it. -/
theorem tokens_string_iff {text : List Char} {s : String} :
    tokens text = [.string (some s)] ↔ ∃ literal, StringText s literal ∧ Laid [literal] text := by
  constructor
  · intro h
    obtain ⟨blanks, literal, rest, hblanks, hliteral, rfl, hrest⟩ := exists_literal h
    exact ⟨literal, hliteral, .cons hblanks (.nil (blank_of_tokens hrest))⟩
  · rintro ⟨literal, hliteral, hlaid⟩
    exact hlaid.tokens (.cons hliteral.lexeme .nil)

end Snowflake.Json
