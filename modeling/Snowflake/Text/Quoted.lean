import Snowflake.Text.Hidden

/-!
# Quoted texts

A text as it is shown in messages: in double quotes, with a backslash before a quote and a
backslash, letters for the common controls, and the code point of every other character that does
not show.
-/

namespace Snowflake.Text

/-- One character inside quotes. -/
def shown (c : Char) : List Char :=
  match c with
  | '\x00' => ['\\', '0']
  | '\t' => ['\\', 't']
  | '\r' => ['\\', 'r']
  | '\n' => ['\\', 'n']
  | '\\' => ['\\', '\\']
  | '"' => ['\\', '"']
  | c =>
    if isHidden c then ['\\', 'u', '\x7b'] ++ Nat.toDigits 16 c.toNat ++ ['\x7d'] else [c]

/-- **A text in quotes.** -/
def quoted (text : String) : String :=
  String.ofList ('"' :: text.toList.flatMap shown ++ ['"'])

end Snowflake.Text
