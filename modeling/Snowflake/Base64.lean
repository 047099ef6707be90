/-!
# URL-safe base64 without padding

Bytes are written six bits a symbol over the alphabet `A-Z a-z 0-9 - _`, with no padding: three
bytes give four symbols, one byte left over gives two, two bytes left over give three. The spare
low bits of the last symbol are zero.

`decode` is strict. It looks at its input in a fixed order, and the first fault met is the one
reported:

* a stray byte at the very end, where it stands alone after whole groups of four;
* in every group of four but the last, a byte outside the alphabet (a pad counts as one);
* in the last group, a pad in its first two places, a symbol after a pad, or a byte outside the
  alphabet;
* a last group of fewer than two symbols, a pad at all, spare bits that are not zero.
-/

namespace Snowflake.Base64

/-- Why a sequence of bytes is not the base64 form of anything. -/
inductive DecodeError where
  /-- A byte that is no symbol of the alphabet, or a misplaced pad. -/
  | invalidByte (offset : Nat) (byte : UInt8)
  /-- A number of symbols that no sequence of bytes has. -/
  | invalidLength (length : Nat)
  /-- The last symbol has spare bits that are not zero. -/
  | invalidLastSymbol (offset : Nat) (byte : UInt8)
  /-- Padding where none is written. -/
  | invalidPadding
  deriving DecidableEq, Repr

/-- The wording of a decoding fault. -/
def DecodeError.message : DecodeError → String
  | .invalidByte offset byte => s!"Invalid symbol {byte.toNat}, offset {offset}."
  | .invalidLength length => s!"Invalid input length: {length}"
  | .invalidLastSymbol offset byte => s!"Invalid last symbol {byte.toNat}, offset {offset}."
  | .invalidPadding => "Invalid padding"

/-! ## The alphabet -/

/-- The symbol of a six-bit value. -/
def symbol (value : Nat) : Char :=
  if value < 26 then Char.ofNat (value + 65)
  else if value < 52 then Char.ofNat (value + 71)
  else if value < 62 then Char.ofNat (value - 4)
  else if value = 62 then '-'
  else '_'

/-- The value of a byte that is a symbol. -/
def value? (byte : UInt8) : Option Nat :=
  let n := byte.toNat
  if 65 ≤ n ∧ n ≤ 90 then some (n - 65)
  else if 97 ≤ n ∧ n ≤ 122 then some (n - 71)
  else if 48 ≤ n ∧ n ≤ 57 then some (n + 4)
  else if n = 45 then some 62
  else if n = 95 then some 63
  else none

/-- The byte of the pad sign, which is no symbol. -/
def pad : UInt8 := 61

/-! ## Encoding -/

/-- The text of a sequence of bytes. -/
def encode : List UInt8 → List Char
  | a :: b :: c :: rest =>
    let n := (a.toNat * 256 + b.toNat) * 256 + c.toNat
    symbol (n / 262144) :: symbol (n / 4096 % 64) :: symbol (n / 64 % 64) :: symbol (n % 64) ::
      encode rest
  | [a, b] =>
    let n := (a.toNat * 256 + b.toNat) * 4
    [symbol (n / 4096), symbol (n / 64 % 64), symbol (n % 64)]
  | [a] =>
    let n := a.toNat * 16
    [symbol (n / 64), symbol (n % 64)]
  | [] => []

/-! ## Decoding -/

/-- The values of a run of symbols; `offset` is the place of its first byte. -/
def values (offset : Nat) : List UInt8 → Except DecodeError (List Nat)
  | [] => .ok []
  | byte :: rest =>
    match value? byte with
    | none => .error (.invalidByte offset byte)
    | some value =>
      match values (offset + 1) rest with
      | .error e => .error e
      | .ok more => .ok (value :: more)

/-- The values of the last group, and the place in it of the first pad. `start` is the offset of
the group, `index` the place reached in it, `firstPad` the first pad so far. -/
def groupValues (start index : Nat) (firstPad : Option Nat) :
    List UInt8 → Except DecodeError (List Nat × Option Nat)
  | [] => .ok ([], firstPad)
  | byte :: rest =>
    if byte = pad then
      if index < 2 then .error (.invalidByte (start + index) byte)
      else groupValues start (index + 1) (firstPad.or (some index)) rest
    else
      match firstPad with
      | some place => .error (.invalidByte (start + place) pad)
      | none =>
        match value? byte with
        | none => .error (.invalidByte (start + index) byte)
        | some value =>
          match groupValues start (index + 1) none rest with
          | .error e => .error e
          | .ok (more, place) => .ok (value :: more, place)

/-- The last symbol of a group has a value that is a multiple of this: its low bits beyond whole
bytes are zero, four of them after two symbols and two after three. -/
def spare : (count : Nat) → Nat
  | 2 => 16
  | 3 => 4
  | _ => 1

/-- The whole bytes in a sequence of six-bit values. -/
def join : List Nat → List UInt8
  | a :: b :: c :: d :: rest =>
    let n := ((a * 64 + b) * 64 + c) * 64 + d
    UInt8.ofNat (n / 65536) :: UInt8.ofNat (n / 256) :: UInt8.ofNat n :: join rest
  | [a, b, c] =>
    let n := (a * 64 + b) * 64 + c
    [UInt8.ofNat (n / 1024), UInt8.ofNat (n / 4)]
  | [a, b] => [UInt8.ofNat ((a * 64 + b) / 16)]
  | _ => []

/-- A byte that stands alone after whole groups has to be a symbol or a pad. -/
def checkLoneByte (bytes : List UInt8) : Except DecodeError Unit :=
  match bytes.getLast? with
  | some byte =>
    if bytes.length % 4 = 1 ∧ byte ≠ pad ∧ value? byte = none then
      .error (.invalidByte (bytes.length - 1) byte)
    else .ok ()
  | none => .ok ()

/-- The last group, read and checked. -/
def lastGroup (start : Nat) (bytes : List UInt8) : Except DecodeError (List Nat) :=
  match groupValues start 0 none bytes with
  | .error e => .error e
  | .ok (found, firstPad) =>
    if bytes ≠ [] ∧ found.length < 2 then .error (.invalidLength (start + found.length))
    else if firstPad.isSome then .error .invalidPadding
    else
      match found.getLast?, bytes.getLast? with
      | some value, some byte =>
        if value % spare found.length ≠ 0 then
          .error (.invalidLastSymbol (start + found.length - 1) byte)
        else .ok found
      | _, _ => .ok found

/-- How many of `length` bytes come before the last group of at most four. -/
def leading (length : Nat) : Nat := (length - 1) / 4 * 4

/-- **The bytes that a text stands for**, the text given as bytes. -/
def decode (bytes : List UInt8) : Except DecodeError (List UInt8) :=
  match checkLoneByte bytes with
  | .error e => .error e
  | .ok () =>
    match values 0 (bytes.take (leading bytes.length)) with
    | .error e => .error e
    | .ok head =>
      match lastGroup (leading bytes.length) (bytes.drop (leading bytes.length)) with
      | .error e => .error e
      | .ok tail => .ok (join (head ++ tail))

end Snowflake.Base64
