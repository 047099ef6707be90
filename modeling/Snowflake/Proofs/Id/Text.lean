import Snowflake.Id.Text
import Snowflake.Proofs.Base64.Canonical
import Snowflake.Proofs.Id.Bytes

/-!
# The text of an identifier

Every identifier has one text, and of all texts only these are read: texts of another length,
texts with a character that is no symbol, ASCII or not, and texts whose spare bits are not zero are
refused.

Results:
* `Id.utf8_inj`: a text is determined by its UTF-8 bytes.
* `Id.ofText_toText`, `Id.eq_toText_of_ofText`: texts of identifiers are read, and no others.
* **`Id.ofText_eq_ok_iff`**: a text is read as an identifier exactly if it is the identifier's text.
-/

namespace Snowflake.Id

/-! ## Texts and their bytes -/

theorem utf8_inj {text text' : String} (h : utf8 text = utf8 text') : text = text' := by
  have hbytes : text.toList.utf8Encode = text'.toList.utf8Encode := by
    unfold List.utf8Encode
    exact congrArg List.toByteArray h
  rw [← String.toByteArray_ofList, ← String.toByteArray_ofList, String.toByteArray_inj,
    String.ofList_toList, String.ofList_toList] at hbytes
  exact hbytes

theorem utf8_toText (id : Id) :
    utf8 id.toText = (Base64.encode id.bytes).flatMap String.utf8EncodeChar := by
  unfold utf8 toText
  rw [String.toList_ofList]

/-- Eight bytes are written with eleven symbols. -/
theorem length_toText (id : Id) : id.toText.length = textLength := by
  unfold toText
  rw [String.length_ofList]
  rfl

/-- Of all texts only the one of an identifier decodes to its bytes. -/
theorem decode_utf8_iff {text : String} {id : Id} :
    Base64.decode (utf8 text) = .ok id.bytes ↔ text = id.toText := by
  rw [Base64.decode_eq_ok_iff, ← utf8_toText]
  exact ⟨utf8_inj, congrArg utf8⟩

/-! ## Reading -/

/-- An identifier is read back from its text. -/
theorem ofText_toText (id : Id) : ofText id.toText = .ok id := by
  unfold ofText
  rw [if_neg (Decidable.not_not.mpr (length_toText id)), decode_utf8_iff.mpr rfl]
  exact ofBytes_eq_ok_iff.mpr rfl

/-- A text that is read was written so. -/
theorem eq_toText_of_ofText {text : String} {id : Id} (h : ofText text = .ok id) :
    text = id.toText := by
  unfold ofText at h
  split at h
  · exact absurd h (by simp)
  · cases hbytes : Base64.decode (utf8 text) with
    | error e => rw [hbytes] at h; exact absurd h (by simp)
    | ok bytes =>
      rw [hbytes] at h
      rw [ofBytes_eq_ok_iff.mp h] at hbytes
      exact decode_utf8_iff.mp hbytes

/-- **A text is read as an identifier exactly if it is its text.** So every identifier is read back
from its text, no two texts are read as the same identifier, and what is read is written again as
it was. -/
theorem ofText_eq_ok_iff (text : String) (id : Id) :
    ofText text = .ok id ↔ text = id.toText :=
  ⟨eq_toText_of_ofText, fun h => h ▸ ofText_toText id⟩

end Snowflake.Id
