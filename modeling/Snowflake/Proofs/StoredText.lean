import Snowflake.Proofs.Json.Row
import Snowflake.Proofs.Json.Spelling
import Snowflake.Stored

/-!
# Identifiers stored as text

A string has many texts in JSON, and an identifier stored as text may be written as any of them, for
itself or in a row. What counts is the string: both readers hand it to `ofText` and word its error
as that does, so that lengths, places and bytes in the message are those of the string and not of
the text around it. Nothing but a string is accepted.

Results:
* `Id.ofText_of_tokens` and its like: the readers on the tokens of a string and of its rows.
* `Id.rowTokens_of_ofText`, `Id.rowValue_of_ofWholeText`: what a row was that was read.
* **`Id.text_field_law`**: the readers and `ofText`, whatever the way of writing.
-/

namespace Snowflake

open Json

namespace Id

/-! ## The field -/

/-- A reader finds in a text what `ofText` finds in the string `s`: the same identifier, or a
mismatch with the same wording. -/
structure Agrees (result : Except Failure Id) (s : String) : Prop where
  accepts : ∀ id, result = .ok id ↔ ofText s = .ok id
  refuses : ∀ error, ofText s = .error error →
    ∃ cause, result = .error (.mismatch cause) ∧ cause.message = error.message

/-- What a string is read as. -/
def ofString (s : String) : Except Failure Id :=
  match ofText s with
  | .error error => .error (.mismatch (.rejected error.message))
  | .ok id => .ok id

theorem agrees_ofString (s : String) : Agrees (ofString s) s := by
  unfold ofString
  constructor
  · intro id
    cases ofText s <;> simp
  · intro error herror
    rw [herror]
    exact ⟨_, rfl, rfl⟩

/-- Of all that may be found only a string is an identifier. -/
theorem exists_string_of_textRule {found : Found} {id : Id} (h : textRule found = .ok id) :
    ∃ s, found = .string s ∧ ofText s = .ok id := by
  cases found with
  | string s =>
    simp only [textRule] at h
    split at h
    · exact absurd h (by simp)
    · rename_i hs
      obtain rfl := Except.ok.inj h
      exact ⟨s, rfl, hs⟩
  | _ => exact absurd h (by simp [textRule])

theorem read_string (s : String) (rest : List Token) :
    textCodec.read (.string (some s) :: rest) =
      match ofString s with
      | .error failure => .error failure
      | .ok id => .ok (id, rest) := by
  simp only [textCodec, scalar, readFound, Token.found?, Option.map_some, textRule, ofString]
  cases ofText s <;> rfl

theorem ofValue_string (s : String) :
    textCodec.ofValue (.string s) =
      match ofText s with
      | .error error => .error (.rejected error.message)
      | .ok id => .ok id := rfl

/-- Only a string is read in one pass as an identifier. -/
theorem exists_string_of_read {list rest : List Token} {id : Id}
    (h : textCodec.read list = .ok (id, rest)) :
    ∃ s, list = .string (some s) :: rest ∧ ofText s = .ok id := by
  obtain ⟨token, found, rfl, hfound, hrule⟩ := exists_found_of_readFound h
  obtain ⟨s, rfl, hs⟩ := exists_string_of_textRule hrule
  exact ⟨s, by rw [token_of_found?_string hfound], hs⟩

/-- Only a string is read as an identifier from a value. -/
theorem exists_string_of_ofValue {value : Value} {id : Id}
    (h : textCodec.ofValue value = .ok id) : ∃ s, value = .string s ∧ ofText s = .ok id := by
  obtain ⟨s, hfound, hs⟩ := exists_string_of_textRule h
  cases value with
  | string s' =>
    obtain rfl := Found.string.inj hfound
    exact ⟨s', rfl, hs⟩
  | _ => exact absurd hfound (by simp [Value.found])

variable {text : String} {s : String}

theorem ofText_of_tokens (h : tokens text.toList = [.string (some s)]) :
    textCodec.ofText text = ofString s := by
  rw [Codec.ofText, h, read_string]
  cases ofString s <;> rfl

theorem ofWholeText_of_tokens (h : tokens text.toList = [.string (some s)]) :
    textCodec.ofWholeText text = ofString s := by
  have hvalue : Value.ofTokens? [.string (some s)] = some (.string s) := by
    simp only [Value.ofTokens?, Value.expect, Value.complete]
  rw [Codec.ofWholeText, h, hvalue]
  simp only [ofValue_string, ofString]
  cases ofText s <;> rfl

/-! ## The row -/

theorem textRow_ofText_object
    (h : tokens text.toList = [.openObject, .string (some "event_id"), .colon, .string (some s),
      .closeObject]) : textRow.ofText text = ofString s := by
  rw [Codec.ofText, h]
  simp only [textRow, rowCodec, Codec.iso, record, readRecord, Fields.readMembers,
    Fields.readMember, Fields.readField, Fields.blank, List.length_cons, List.length_nil,
    if_pos, read_string]
  cases ofString s <;> simp [Fields.finish]

theorem textRow_ofText_array
    (h : tokens text.toList = [.openArray, .string (some s), .closeArray]) :
    textRow.ofText text = ofString s := by
  rw [Codec.ofText, h]
  simp only [textRow, rowCodec, Codec.iso, record, readRecord, Fields.readItems, read_string]
  cases ofString s <;> simp

theorem textRow_ofWholeText_object
    (h : tokens text.toList = [.openObject, .string (some "event_id"), .colon, .string (some s),
      .closeObject]) : textRow.ofWholeText text = ofString s := by
  have hvalue : Value.ofTokens? [.openObject, .string (some "event_id"), .colon, .string (some s),
      .closeObject] = some (.object [("event_id", .string s)]) := by
    have hroom : ([] : List Frame).length < maxDepth := by decide
    simp only [Value.ofTokens?, Value.expect, if_pos hroom, Value.complete, Value.put]
  rw [Codec.ofWholeText, h, hvalue]
  simp only [textRow, rowCodec, Codec.iso, record, recordOfValue, Fields.putMembers,
    Fields.putField, Fields.blank, if_pos, ofValue_string, ofString]
  cases ofText s <;> simp [Fields.finish]

theorem textRow_ofWholeText_array
    (h : tokens text.toList = [.openArray, .string (some s), .closeArray]) :
    textRow.ofWholeText text = ofString s := by
  have hvalue : Value.ofTokens? [.openArray, .string (some s), .closeArray] =
      some (.array [.string s]) := by
    have hroom : ([] : List Frame).length < maxDepth := by decide
    simp only [Value.ofTokens?, Value.expect, if_pos hroom, Value.complete, List.reverse_singleton]
  rw [Codec.ofWholeText, h, hvalue]
  simp only [textRow, rowCodec, Codec.iso, record, recordOfValue, Fields.putItems, ofValue_string,
    ofString]
  cases ofText s <;> simp

variable {name : String} {codec : Codec Id} {id : Id}

/-- Behind a row that is read stands a record of one field. -/
theorem readRecord_of_rowCodec {list rest : List Token}
    (h : (rowCodec name codec).read list = .ok (id, rest)) :
    readRecord name (.cons "event_id" codec .nil) list = .ok ((id, ()), rest) := by
  simp only [rowCodec, Codec.iso, record] at h
  split at h
  · exact absurd h (by simp)
  · rename_i row rest' hrow
    obtain ⟨rfl, rfl⟩ := Prod.mk.inj (Except.ok.inj h)
    exact hrow

theorem recordOfValue_of_rowCodec {value : Value}
    (h : (rowCodec name codec).ofValue value = .ok id) :
    recordOfValue name (.cons "event_id" codec .nil) value = .ok (id, ()) := by
  simp only [rowCodec, Codec.iso, record] at h
  split at h
  · exact absurd h (by simp)
  · rename_i row hrow
    obtain rfl := Except.ok.inj h
    exact hrow

/-- The tokens of a row whose field is the string `s`. Behind the field anything may follow. -/
inductive RowTokens (s : String) : List Token → Prop where
  | array : RowTokens s [.openArray, .string (some s), .closeArray]
  | object {members back : List Token}
      (h : Passes "event_id" members
        (.string (some "event_id") :: .colon :: .string (some s) :: back)) :
      RowTokens s (.openObject :: members)

/-- The value of a row whose field is the string `s`. -/
inductive RowValue (s : String) : Value → Prop where
  | array : RowValue s (.array [.string s])
  | object {members : List (String × Value)} (hmem : ("event_id", .string s) ∈ members)
      (hall : ∀ other, ("event_id", other) ∈ members → ∃ s', other = .string s') :
      RowValue s (.object members)

theorem rowTokens_of_ofText (h : textRow.ofText text = .ok id) :
    ∃ s, RowTokens s (tokens text.toList) ∧ ofText s = .ok id := by
  rcases readRecord_cases (readRecord_of_rowCodec (Codec.ofText_accepts_iff.mp h)) with
    ⟨value, hlist, hvalue⟩ | ⟨members, value, back, hlist, hpasses, hvalue⟩
  · obtain ⟨s, rfl, hs⟩ := exists_string_of_read hvalue
    rw [hlist]
    exact ⟨s, .array, hs⟩
  · obtain ⟨s, rfl, hs⟩ := exists_string_of_read hvalue
    rw [hlist]
    exact ⟨s, .object hpasses, hs⟩

theorem rowValue_of_ofWholeText (h : textRow.ofWholeText text = .ok id) :
    ∃ s value, Value.ofTokens? (tokens text.toList) = some value ∧ RowValue s value ∧
      ofText s = .ok id := by
  obtain ⟨value, hvalue, hread⟩ := Codec.ofWholeText_accepts_iff.mp h
  rcases recordOfValue_cases (recordOfValue_of_rowCodec hread) with
    ⟨item, rfl, hitem⟩ | ⟨members, rfl, ⟨item, hmem, hitem⟩, hall⟩
  · obtain ⟨s, rfl, hs⟩ := exists_string_of_ofValue hitem
    exact ⟨s, _, hvalue, .array, hs⟩
  · obtain ⟨s, rfl, hs⟩ := exists_string_of_ofValue hitem
    refine ⟨s, _, hvalue, .object hmem fun other hother => ?_, hs⟩
    obtain ⟨b, hb⟩ := hall other hother
    obtain ⟨s', rfl, -⟩ := exists_string_of_ofValue hb
    exact ⟨s', rfl⟩

/-- Only the texts of a string are read as an identifier, by either reader. -/
theorem exists_literal_of_textCodec
    (h : textCodec.ofText text = .ok id ∨ textCodec.ofWholeText text = .ok id) :
    ∃ s literal, StringText s literal ∧ Laid [literal] text.toList ∧ ofText s = .ok id := by
  have htokens : ∃ s, tokens text.toList = [.string (some s)] ∧ ofText s = .ok id := by
    rcases h with h | h
    · exact exists_string_of_read (Codec.ofText_accepts_iff.mp h)
    · obtain ⟨value, hvalue, hread⟩ := Codec.ofWholeText_accepts_iff.mp h
      obtain ⟨s, rfl, hs⟩ := exists_string_of_ofValue hread
      exact ⟨s, Value.eq_of_ofTokens?_string hvalue, hs⟩
  obtain ⟨s, hlist, hs⟩ := htokens
  obtain ⟨literal, hliteral, hlaid⟩ := tokens_string_iff.mp hlist
  exact ⟨s, literal, hliteral, hlaid, hs⟩

/-! ## Texts of rows -/

/-- The texts of a row whose field has the text `literal`: an object with the field, its key
written in any way, or an array. -/
inductive RowText (literal : List Char) (text : List Char) : Prop where
  | object {key : List Char} (hkey : StringText "event_id" key)
      (h : Laid [['\x7b'], key, [':'], literal, ['\x7d']] text)
  | array (h : Laid [['['], literal, [']']] text)

theorem RowText.reads {s : String} {literal : List Char} (h : RowText literal text.toList)
    (hliteral : StringText s literal) :
    textRow.ofText text = ofString s ∧ textRow.ofWholeText text = ofString s := by
  cases h with
  | object hkey h =>
    have hopen : Lexeme .openObject ['\x7b'] := .single rfl fun _ => rfl
    have hcolon : Lexeme .colon [':'] := .single rfl fun _ => rfl
    have hclose : Lexeme .closeObject ['\x7d'] := .single rfl fun _ => rfl
    have htokens := h.tokens (.cons hopen (.cons hkey.lexeme (.cons hcolon
      (.cons hliteral.lexeme (.cons hclose .nil)))))
    exact ⟨textRow_ofText_object htokens, textRow_ofWholeText_object htokens⟩
  | array h =>
    have hopen : Lexeme .openArray ['['] := .single rfl fun _ => rfl
    have hclose : Lexeme .closeArray [']'] := .single rfl fun _ => rfl
    have htokens := h.tokens (.cons hopen (.cons hliteral.lexeme (.cons hclose .nil)))
    exact ⟨textRow_ofText_array htokens, textRow_ofWholeText_array htokens⟩

/-- **An identifier stored as text is read exactly as `ofText` reads the string.** However the
string is written, both readers agree with `ofText` on it, in front of any other text, as a text of
its own and as the field of a row. What either of them accepts is a string. -/
theorem text_field_law :
    (∀ s literal, StringText s literal →
      (∀ rest, Agrees ((textCodec.read (tokens (literal ++ rest))).map Prod.fst) s) ∧
      (∀ text : String, Laid [literal] text.toList →
        Agrees (textCodec.ofText text) s ∧ Agrees (textCodec.ofWholeText text) s) ∧
      ∀ text : String, RowText literal text.toList →
        Agrees (textRow.ofText text) s ∧ Agrees (textRow.ofWholeText text) s) ∧
    (∀ text id, textCodec.ofText text = .ok id ∨ textCodec.ofWholeText text = .ok id →
      ∃ s literal, StringText s literal ∧ Laid [literal] text.toList ∧ ofText s = .ok id) ∧
    (∀ text id, textRow.ofText text = .ok id →
      ∃ s, RowTokens s (tokens text.toList) ∧ ofText s = .ok id) ∧
    ∀ text id, textRow.ofWholeText text = .ok id →
      ∃ s value, Value.ofTokens? (tokens text.toList) = some value ∧ RowValue s value ∧
        ofText s = .ok id := by
  refine ⟨fun s literal hliteral => ⟨fun rest => ?_, fun text hlaid => ?_, fun text hrow => ?_⟩,
    fun _ _ => exists_literal_of_textCodec, fun _ _ => rowTokens_of_ofText,
    fun _ _ => rowValue_of_ofWholeText⟩
  · have htokens : tokens (literal ++ rest) = .string (some s) :: tokens rest :=
      hliteral.lexeme.tokens blank_nil rest
    have hread : (textCodec.read (tokens (literal ++ rest))).map Prod.fst = ofString s := by
      rw [htokens, read_string]
      cases ofString s <;> rfl
    rw [hread]
    exact agrees_ofString s
  · have htokens := tokens_string_iff.mpr ⟨literal, hliteral, hlaid⟩
    rw [ofText_of_tokens htokens, ofWholeText_of_tokens htokens]
    exact ⟨agrees_ofString s, agrees_ofString s⟩
  · obtain ⟨hread, hreadWhole⟩ := hrow.reads hliteral
    rw [hread, hreadWhole]
    exact ⟨agrees_ofString s, agrees_ofString s⟩

/-- A row whose key and string are written with units, in digits of both cases, holds an identifier.
Another one holds eleven characters of which the last is written as a surrogate pair; the place and
the byte in the message are those of its UTF-8 form. -/
theorem text_field_law_escaped :
    textRow.ofText "\x7b \"event\\u005Fid\" : \"V\\u002Dq48AQg\\u006cKA\" \x7d" =
        .ok ⟨6335079166850929824⟩ ∧
      ∃ cause, textRow.ofWholeText "[\"V-q48AQglK\\ud83D\\uDE00\"]" = .error (.mismatch cause) ∧
        cause.message = "invalid encoding: invalid symbol: Invalid symbol 240, offset 10." := by
  obtain ⟨hreads, -⟩ := text_field_law
  have hspace : Blank [' '] := by simp [Blank, isBlank]
  constructor
  · have hkeyPieces : pieces "event\\u005Fid\"".toList =
        some ("event".toList.map .char ++ .unit 0x5f :: "id".toList.map .char, []) := by decide
    have hpieces : pieces "V\\u002Dq48AQg\\u006cKA\"".toList =
        some (.char 'V' :: .unit 0x2d :: "q48AQg".toList.map .char ++
          .unit 0x6c :: "KA".toList.map .char, []) := by decide
    have hkey : StringText "event_id" ('"' :: "event\\u005Fid\"".toList) :=
      stringText_of_pieces hkeyPieces (by decide)
    have hliteral : StringText "V-q48AQglKA" ('"' :: "V\\u002Dq48AQg\\u006cKA\"".toList) :=
      stringText_of_pieces hpieces (by decide)
    have hrow : RowText ('"' :: "V\\u002Dq48AQg\\u006cKA\"".toList)
        "\x7b \"event\\u005Fid\" : \"V\\u002Dq48AQg\\u006cKA\" \x7d".toList :=
      .object hkey (.cons blank_nil (.cons hspace (.cons hspace (.cons hspace (.cons hspace
        (.nil blank_nil))))))
    obtain ⟨-, -, hrows⟩ := hreads _ _ hliteral
    exact ((hrows _ hrow).1.accepts _).mpr (by decide)
  · have hpieces : pieces "V-q48AQglK\\ud83D\\uDE00\"".toList =
        some ("V-q48AQglK".toList.map .char ++ [.unit 0xd83d, .unit 0xde00], []) := by decide
    have hliteral : StringText "V-q48AQglK😀" ('"' :: "V-q48AQglK\\ud83D\\uDE00\"".toList) :=
      stringText_of_pieces hpieces (by decide)
    have hrow : RowText ('"' :: "V-q48AQglK\\ud83D\\uDE00\"".toList)
        "[\"V-q48AQglK\\ud83D\\uDE00\"]".toList :=
      .array (.cons blank_nil (.cons blank_nil (.cons blank_nil (.nil blank_nil))))
    have herror : ofText "V-q48AQglK😀" =
        .error (.invalidEncoding (.invalidSymbol (.invalidByte 10 240))) := by decide
    obtain ⟨-, -, hrows⟩ := hreads _ _ hliteral
    obtain ⟨cause, hcause, hmessage⟩ := (hrows _ hrow).2.refuses _ herror
    exact ⟨cause, hcause, hmessage.trans (by decide)⟩

end Id

end Snowflake
