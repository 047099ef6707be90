import Snowflake.Json.Number

/-!
# JSON as tokens

`tokens` cuts a text into tokens, ignoring blanks between them. It never fails: where no token can
be read the list ends with `Token.bad`, so that whoever reads the list from the left meets the
tokens before it first. A number that has no value and a string that does not decode are tokens
too, without a value, since a reader that skips them does not mind.

Strings are scanned into pieces, plain characters and 16-bit units from `\u` escapes, and
assembled afterwards: a unit from the surrogate range has to come in a pair, high before low.

`Token.text` writes a token, and `render` a list of them without blanks.
-/

namespace Snowflake.Json

/-- A token of JSON. -/
inductive Token where
  | openObject
  | closeObject
  | openArray
  | closeArray
  | colon
  | comma
  | null
  | bool (value : Bool)
  /-- A number, unless it is past the largest. -/
  | number (value : Option Number)
  /-- A string, unless it has a surrogate without its partner. -/
  | string (value : Option String)
  /-- Here no token can be read. -/
  | bad
  deriving Repr

/-! ## Strings -/

/-- A part of a string literal. -/
inductive Piece where
  | char (c : Char)
  /-- A 16-bit unit. -/
  | unit (n : Nat)
  deriving DecidableEq, Repr

/-- The value of a hexadecimal digit. -/
def hexDigit? (c : Char) : Option Nat :=
  if '0' ≤ c ∧ c ≤ '9' then some (c.toNat - 48)
  else if 'a' ≤ c ∧ c ≤ 'f' then some (c.toNat - 87)
  else if 'A' ≤ c ∧ c ≤ 'F' then some (c.toNat - 55)
  else none

/-- The unit of four hexadecimal digits. -/
def unit? (a b c d : Char) : Option Nat := do
  let a ← hexDigit? a
  let b ← hexDigit? b
  let c ← hexDigit? c
  let d ← hexDigit? d
  return ((a * 16 + b) * 16 + c) * 16 + d

/-- What a backslash and a letter stand for. -/
def shortEscape? : Char → Option Char
  | '"' => some '"'
  | '\\' => some '\\'
  | '/' => some '/'
  | 'b' => some '\x08'
  | 'f' => some '\x0c'
  | 'n' => some '\n'
  | 'r' => some '\r'
  | 't' => some '\t'
  | _ => none

/-- A character that stands for itself in a string. -/
def isPlain (c : Char) : Bool := decide (0x20 ≤ c.toNat) && c != '"' && c != '\\'

/-- The pieces of a string up to its closing quote, and what follows the quote. -/
def pieces : List Char → Option (List Piece × List Char)
  | [] => none
  | '"' :: rest => some ([], rest)
  | '\\' :: 'u' :: a :: b :: c :: d :: rest => do
    let n ← unit? a b c d
    let (more, rest) ← pieces rest
    return (.unit n :: more, rest)
  | '\\' :: letter :: rest => do
    let c ← shortEscape? letter
    let (more, rest) ← pieces rest
    return (.char c :: more, rest)
  | c :: rest =>
    if isPlain c then do
      let (more, rest) ← pieces rest
      return (.char c :: more, rest)
    else none

/-- A unit is the first of a surrogate pair. -/
def isHigh (n : Nat) : Bool := decide (0xD800 ≤ n) && decide (n < 0xDC00)

/-- A unit is the second of a surrogate pair. -/
def isLow (n : Nat) : Bool := decide (0xDC00 ≤ n) && decide (n < 0xE000)

/-- The character of a surrogate pair. -/
def pairChar (high low : Nat) : Char :=
  Char.ofNat (0x10000 + (high - 0xD800) * 0x400 + (low - 0xDC00))

/-- The characters that pieces stand for; `none` if a surrogate lacks its partner. -/
def assemble : List Piece → Option (List Char)
  | [] => some []
  | .char c :: rest => (assemble rest).map (c :: ·)
  | .unit n :: rest =>
    if isHigh n then
      match rest with
      | .unit m :: rest => if isLow m then (assemble rest).map (pairChar n m :: ·) else none
      | _ => none
    else if isLow n then none
    else (assemble rest).map (Char.ofNat n :: ·)

/-! ## Numbers -/

/-- A run of digits, and what follows. -/
def digits (s : List Char) : List Nat × List Char :=
  ((s.takeWhile Char.isDigit).map fun c => c.toNat - 48, s.dropWhile Char.isDigit)

/-- A point with digits after it, or nothing. -/
def fraction? : List Char → Option (List Nat × List Char)
  | '.' :: s =>
    let (found, rest) := digits s
    if found.isEmpty then none else some (found, rest)
  | s => some ([], s)

/-- An exponent with its sign and digits. -/
def exponentDigits? (negative : Bool) (s : List Char) : Option (Option Int × List Char) :=
  let (found, rest) := digits s
  let n : Nat := found.foldl (fun n d => n * 10 + d) 0
  if found.isEmpty then none else some (some (if negative then -n else n), rest)

/-- An exponent, or nothing. -/
def exponent? : List Char → Option (Option Int × List Char)
  | c :: s =>
    if c = 'e' ∨ c = 'E' then
      match s with
      | '+' :: s => exponentDigits? false s
      | '-' :: s => exponentDigits? true s
      | s => exponentDigits? false s
    else some (none, c :: s)
  | [] => some (none, [])

/-- The digits before the point: no zero stands in front of another digit. -/
def whole? (s : List Char) : Option (List Nat × List Char) :=
  match digits s with
  | ([], _) => none
  | (0 :: _ :: _, _) => none
  | found => some found

/-- A number literal, and what follows. -/
def literal? (s : List Char) : Option (Literal × List Char) :=
  let (negative, s) :=
    match s with
    | '-' :: s => (true, s)
    | s => (false, s)
  do
    let (whole, s) ← whole? s
    let (fraction, s) ← fraction? s
    let (exponent, s) ← exponent? s
    return (⟨negative, whole, fraction, exponent⟩, s)

/-! ## Tokens -/

/-- The blanks of JSON. -/
def isBlank (c : Char) : Bool := c == ' ' || c == '\n' || c == '\t' || c == '\r'

/-- The token at the start of a text that does not start with a blank, and what follows. -/
def scan : List Char → Option (Token × List Char)
  | '\x7b' :: s => some (.openObject, s)
  | '\x7d' :: s => some (.closeObject, s)
  | '[' :: s => some (.openArray, s)
  | ']' :: s => some (.closeArray, s)
  | ':' :: s => some (.colon, s)
  | ',' :: s => some (.comma, s)
  | 'n' :: 'u' :: 'l' :: 'l' :: s => some (.null, s)
  | 't' :: 'r' :: 'u' :: 'e' :: s => some (.bool true, s)
  | 'f' :: 'a' :: 'l' :: 's' :: 'e' :: s => some (.bool false, s)
  | '"' :: s => (pieces s).map fun (found, s) => (.string ((assemble found).map String.ofList), s)
  | s => (literal? s).map fun (literal, s) => (.number literal.number, s)

/-- **The tokens of a text.** A token takes at least one character, so the rest is shorter; were
it not, the text would count as unreadable. -/
def tokens (s : List Char) : List Token :=
  match s.dropWhile isBlank with
  | [] => []
  | c :: more =>
    match scan (c :: more) with
    | none => [.bad]
    | some (token, rest) => if _h : rest.length < s.length then token :: tokens rest else [.bad]
termination_by s.length

/-! ## Writing -/

/-- A character in a string. -/
def quoteChar (c : Char) : List Char :=
  match c with
  | '"' => ['\\', '"']
  | '\\' => ['\\', '\\']
  | '\x08' => ['\\', 'b']
  | '\x0c' => ['\\', 'f']
  | '\n' => ['\\', 'n']
  | '\r' => ['\\', 'r']
  | '\t' => ['\\', 't']
  | c =>
    if c.toNat < 0x20 then
      ['\\', 'u', '0', '0', Nat.digitChar (c.toNat / 16), Nat.digitChar (c.toNat % 16)]
    else [c]

/-- A string in quotes. -/
def quote (s : String) : List Char := '"' :: s.toList.flatMap quoteChar ++ ['"']

/-- **A token as text.** What has no value has no text. -/
def Token.text : Token → List Char
  | .openObject => ['\x7b']
  | .closeObject => ['\x7d']
  | .openArray => ['[']
  | .closeArray => [']']
  | .colon => [':']
  | .comma => [',']
  | .null => ['n', 'u', 'l', 'l']
  | .bool true => ['t', 'r', 'u', 'e']
  | .bool false => ['f', 'a', 'l', 's', 'e']
  | .number value => value.elim [] Number.text
  | .string value => value.elim [] quote
  | .bad => []

/-- Tokens as text, without blanks. -/
def render (list : List Token) : List Char := list.flatMap Token.text

end Snowflake.Json
