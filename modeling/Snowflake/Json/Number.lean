import Snowflake.Decimal.Shortest

/-!
# Numbers in JSON

A number literal is a sign, digits, and perhaps a fraction and an exponent. A literal of digits
alone is an integer if it fits 64 bits, unsigned without a sign and signed with one; everything
else is a binary64 number, and so is minus zero.

Binary64 numbers are read as a 64-bit significand scaled by a power of ten: digits of the whole
part that no longer fit the significand only count towards the exponent, those of the fraction are
dropped, and powers beyond the three hundred and eighth are applied in steps. Each step rounds. A
literal past the largest number has no value.

They are written with the fewest digits that identify them, positionally while the leading digit
is between the fifth decimal place and the sixteenth whole place, and always with a point or an
exponent.
-/

namespace Snowflake.Json

/-- A number literal. -/
structure Literal where
  negative : Bool
  /-- The digits before the point. -/
  whole : List Nat
  /-- The digits after the point. -/
  fraction : List Nat
  exponent : Option Int
  deriving DecidableEq, Repr

/-- The value of a number literal. -/
inductive Number where
  /-- An integer without a sign. -/
  | unsigned (n : UInt64)
  /-- An integer with a sign, below zero. -/
  | signed (n : Int64)
  | float (x : Float)
  deriving Repr

/-! ## Reading -/

/-- Append digits to a 64-bit significand while they fit; also how many did not. -/
def accumulate (significand : Nat) : List Nat → Nat × Nat
  | [] => (significand, 0)
  | digit :: rest =>
    if significand * 10 + digit < UInt64.size then accumulate (significand * 10 + digit) rest
    else (significand, rest.length + 1)

/-- A power of ten as a binary64 number. -/
def powerOfTen (n : Nat) : Float := Float.ofScientific 1 false n

/-- Divide by a power of ten, in steps of at most `10 ^ 308`, until nothing is left. -/
def shrink (x : Float) (n : Nat) : Float :=
  if n ≤ 308 then x / powerOfTen n
  else if x == 0 then x
  else shrink (x / powerOfTen 308) (n - 308)
termination_by n

/-- Multiply by a power of ten; `none` past the largest number. -/
def grow (x : Float) (n : Nat) : Option Float :=
  if n ≤ 308 then
    let y := x * powerOfTen n
    if y.isInf then none else some y
  else if x == 0 then some x
  else none

/-- A significand scaled by a power of ten. -/
def scale (significand : Nat) (exponent : Int) : Option Float :=
  if 0 ≤ exponent then grow (Float.ofNat significand) exponent.toNat
  else some (shrink (Float.ofNat significand) (-exponent).toNat)

namespace Literal

/-- The literal is digits alone, perhaps with a sign. -/
def isWhole (l : Literal) : Bool := l.fraction.isEmpty && l.exponent.isNone

/-- The value as a binary64 number. -/
def float (l : Literal) : Option Float :=
  let (whole, excess) := accumulate 0 l.whole
  let (significand, dropped) := accumulate whole l.fraction
  let places : Int := excess - (l.fraction.length - dropped : Nat) + l.exponent.getD 0
  (scale significand places).map fun x => if l.negative then -x else x

/-- **The value of a literal**, if it has one. -/
def number (l : Literal) : Option Number :=
  let (n, excess) := accumulate 0 l.whole
  if l.isWhole ∧ excess = 0 ∧ l.negative = false then some (.unsigned (UInt64.ofNat n))
  else if l.isWhole ∧ excess = 0 ∧ 0 < n ∧ Int64.minValue.toInt ≤ -n then
    some (.signed (Int64.ofInt (-n)))
  else l.float.map .float

end Literal

/-! ## Writing -/

/-- The digits of a shortest decimal, laid out. The leading digit stands for `10 ^ place`. -/
def layout (d : Decimal.Scaled) : List Char :=
  let digits := Nat.toDigits 10 d.digits
  let place := d.exponent + digits.length - 1
  if -5 ≤ place ∧ place ≤ 15 then
    if 0 ≤ d.exponent then digits ++ List.replicate d.exponent.toNat '0' ++ ['.', '0']
    else if 0 ≤ place then
      digits.take (place.toNat + 1) ++ '.' :: digits.drop (place.toNat + 1)
    else '0' :: '.' :: List.replicate (-place - 1).toNat '0' ++ digits
  else
    let mantissa :=
      match digits with
      | first :: [] => [first]
      | first :: rest => first :: '.' :: rest
      | [] => []
    mantissa ++ 'e' :: (if place < 0 then '-' else '+') :: Nat.toDigits 10 place.natAbs

/-- A finite binary64 number as text. -/
def floatText (x : Float) : List Char :=
  let bits := x.toBits
  let magnitude := Decimal.Binary.ofBits bits
  let text := if magnitude.m = 0 then ['0', '.', '0'] else layout (Decimal.shortest magnitude)
  if bits >>> 63 = 1 then '-' :: text else text

/-- A signed integer as text. -/
def intText (n : Int) : List Char :=
  if n < 0 then '-' :: Nat.toDigits 10 n.natAbs else Nat.toDigits 10 n.natAbs

/-- **A number as text.** -/
def Number.text : Number → List Char
  | .unsigned n => Nat.toDigits 10 n.toNat
  | .signed n => intText n.toInt
  | .float x => floatText x

end Snowflake.Json
