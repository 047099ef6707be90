import Snowflake.Id

/-!
# The text form of identifiers

The text form is the URL-safe base64 of the eight bytes: eleven characters, of which the last
carries two spare bits. `ofText` counts characters first and decodes the text's UTF-8 bytes after
that, so that a text of eleven characters that are not all ASCII is refused for a byte in it.

`describe` writes an identifier with its fields on one line, `describeLines` one field a line.
-/

namespace Snowflake.Id

/-- Number of characters of the text form. -/
def textLength : Nat := 11

/-- **The text form** (`FlakeId::to_text`). -/
def toText (id : Id) : String := String.ofList (Base64.encode id.bytes)

/-- The UTF-8 bytes of a text. -/
def utf8 (text : String) : List UInt8 := text.toList.flatMap String.utf8EncodeChar

/-- **The identifier that a text stands for** (`FlakeId::from_text`). -/
def ofText (text : String) : Except Error Id :=
  if text.length ≠ textLength then
    .error (.invalidEncoding (.invalidLength textLength text.length))
  else
    match Base64.decode (utf8 text) with
    | .error e => .error (.invalidEncoding (.invalidSymbol e))
    | .ok bytes => ofBytes bytes

/-! ## Descriptions -/

/-- A number in hexadecimal with a fixed number of lower-case digits. -/
def hexDigits (count n : Nat) : List Char :=
  (List.range count).reverse.map fun place => Nat.digitChar ((n >>> (4 * place)) % 16)

/-- Bytes in hexadecimal. -/
def hexText (bytes : List UInt8) : String :=
  String.ofList (bytes.flatMap fun byte => hexDigits 2 byte.toNat)

/-- The labelled parts of a description. -/
def parts (id : Id) : List (String × String) :=
  [("id", id.toText),
    ("raw", "0x" ++ String.ofList (hexDigits 16 id.bits.toNat)),
    ("timestamp", toString id.timestamp),
    ("sequence", toString id.sequence),
    ("generator_id", toString id.generatorId)]

/-- An identifier with its fields, on one line. -/
def describe (id : Id) : String :=
  "FlakeId \x7b " ++ ", ".intercalate (id.parts.map fun (label, text) => label ++ ": " ++ text) ++
    " \x7d"

/-- An identifier with its fields, one a line. -/
def describeLines (id : Id) : String :=
  "FlakeId \x7b\n" ++
    String.join (id.parts.map fun (label, text) => "    " ++ label ++ ": " ++ text ++ ",\n") ++
    "\x7d"

end Snowflake.Id
