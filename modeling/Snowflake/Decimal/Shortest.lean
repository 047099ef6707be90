/-!
# Shortest decimals

The fewest decimal digits that identify a binary64 number, and among those the nearest to it.

A finite non-zero number is `m * 2 ^ q`. The reals that round to it form an interval from half a
step below to half a step above, with its ends included when `m` is even; just above a power of
two the step below is only half as long. For one digit, two digits and so on, `shortest` tries the
two neighbours of the number on the grid of decimals with that many digits, and takes the first
grid with a neighbour in the interval. All of it is exact arithmetic on natural numbers.
-/

namespace Snowflake.Decimal

/-- The magnitude `m * 2 ^ q` of a finite binary64 number. -/
structure Binary where
  m : Nat
  q : Int
  /-- The step below is half the step above. -/
  narrowBelow : Bool
  deriving DecidableEq, Repr

/-- The magnitude in the bits of a finite number. -/
def Binary.ofBits (bits : UInt64) : Binary :=
  let exponent := ((bits >>> 52) &&& 0x7FF).toNat
  let fraction := (bits &&& 0xFFFFFFFFFFFFF).toNat
  if exponent = 0 then ⟨fraction, -1074, false⟩
  else
    ⟨0x10000000000000 + fraction, (exponent : Int) - 1075,
      fraction == 0 && decide (1 < exponent)⟩

/-- The decimal `digits * 10 ^ exponent`. -/
structure Scaled where
  digits : Nat
  exponent : Int
  deriving DecidableEq, Repr

/-- Compare `a * 10 ^ i` with `n * 2 ^ j`. -/
def compareScaled (a : Nat) (i : Int) (n : Nat) (j : Int) : Ordering :=
  compare ((a * Nat.pow 10 i.toNat) <<< (-j).toNat) ((n * Nat.pow 10 (-i).toNat) <<< j.toNat)

namespace Binary

/-- The decimal lies among the reals that round to the number. -/
def readsBack (x : Binary) (d : Scaled) : Bool :=
  let low := compareScaled d.digits d.exponent
    (if x.narrowBelow then 4 * x.m - 1 else 4 * x.m - 2) (x.q - 2)
  let high := compareScaled d.digits d.exponent (4 * x.m + 2) (x.q - 2)
  let ends := x.m % 2 == 0
  (low == .gt || (ends && low == .eq)) && (high == .lt || (ends && high == .eq))

/-- `floor (x / 10 ^ e)`. -/
def floorAt (x : Binary) (e : Int) : Nat :=
  (x.m * Nat.pow 10 (-e).toNat) <<< x.q.toNat / (Nat.pow 10 e.toNat <<< (-x.q).toNat)

/-- The exponent of the leading digit of a number that is not zero: the greatest `e` with
`10 ^ e ≤ x`. The search starts above every binary64 number. -/
def leading (x : Binary) : Int :=
  let rec down : Nat → Int → Int
    | 0, e => e
    | fuel + 1, e => if x.floorAt e = 0 then down fuel (e - 1) else e
  down 700 309

/-- The nearer of two neighbours on the grid `10 ^ e`; on a tie the even one. -/
def nearer (x : Binary) (below : Nat) (e : Int) : Nat :=
  match compareScaled (2 * below + 1) e (2 * x.m) x.q with
  | .gt => below
  | .lt => below + 1
  | .eq => if below % 2 = 0 then below else below + 1

/-- The neighbour on the grid `10 ^ e` that reads back, if one does. -/
def onGrid? (x : Binary) (e : Int) : Option Scaled :=
  let below := x.floorAt e
  match x.readsBack ⟨below, e⟩, x.readsBack ⟨below + 1, e⟩ with
  | true, true => some ⟨x.nearer below e, e⟩
  | true, false => some ⟨below, e⟩
  | false, true => some ⟨below + 1, e⟩
  | false, false => none

/-- The exact decimal value. -/
def exact (x : Binary) : Scaled :=
  if 0 ≤ x.q then ⟨x.m <<< x.q.toNat, 0⟩ else ⟨x.m * Nat.pow 5 (-x.q).toNat, x.q⟩

end Binary

/-- Move trailing zeros of the digits into the exponent; `fuel` bounds their number. -/
def Scaled.strip : Nat → Scaled → Scaled
  | 0, d => d
  | fuel + 1, d =>
    if d.digits ≠ 0 ∧ d.digits % 10 = 0 then strip fuel ⟨d.digits / 10, d.exponent + 1⟩ else d

/-- **The shortest decimal that identifies a number**, which is not zero. -/
def shortest (x : Binary) : Scaled :=
  let top := x.leading
  let found := (List.range 17).findSome? fun n : Nat => x.onGrid? (top - n)
  (found.getD x.exact).strip 800

end Snowflake.Decimal
