import WorkWatch.Decimal.Nearest

/-!
Decimal digits of doubles: the fewest that read back as the same double, and a given number of
them.
-/

namespace WorkWatch.Decimal

/-- The positive number `0.d₁d₂… * 10 ^ point`, the digits being those of `value`. -/
structure Digits where
  value : Nat
  point : Int
  deriving DecidableEq

/-- The fraction `num / den` divided by `10 ^ exponent`. -/
def scaledTen (num den : Nat) (exponent : Int) : Nat × Nat :=
  if 0 ≤ exponent then (num, den * tenTo exponent.toNat) else (num * tenTo (-exponent).toNat, den)

/-- The fraction `num / den` is below `10 ^ exponent`. -/
def belowTen (num den : Nat) (exponent : Int) : Bool :=
  let (n, d) := scaledTen num den exponent
  n < d

/-- The place of the decimal point: the least `point` with `num / den < 10 ^ point`. The first
guess, from the binary length, is at most two too small. -/
def pointOf (num den : Nat) : Int :=
  let guess := ((num.log2 : Int) - den.log2 - 1) * 1233 / 4096
  if belowTen num den guess then guess
  else if belowTen num den (guess + 1) then guess + 1
  else if belowTen num den (guess + 2) then guess + 2
  else guess + 3

/-- The same digits without trailing zeros; the bound counts the digits. -/
def dropZeros : Nat → Nat → Nat
  | 0, value => value
  | bound + 1, value => if value % 10 = 0 then dropZeros bound (value / 10) else value

/-- Digits on the grid of `count` places; a value that has grown to the next power of ten moves
the point. -/
def Digits.onGrid (count : Nat) (value : Nat) (point : Int) : Digits :=
  ⟨dropZeros (count + 1) value, if value = tenTo count then point + 1 else point⟩

/-- The reals that round to one double, as fractions over a common denominator. -/
structure Interval where
  low : Nat
  value : Nat
  high : Nat
  den : Nat
  closed : Bool

/-- The interval of the positive double `mantissa * 2 ^ exponent`. Its ends belong to it when the
mantissa is even. -/
def Interval.of (mantissa : Nat) (exponent : Int) : Interval :=
  -- Below a power of two the doubles are twice as dense.
  let below := if mantissa = binade && leastExponent < exponent then 1 else 2
  let up := twoTo exponent.toNat
  let down := twoTo (-exponent).toNat
  ⟨(4 * mantissa - below) * up, 4 * mantissa * up, (4 * mantissa + 2) * up, 4 * down,
    mantissa % 2 == 0⟩

/-- The point `n * 10 ^ exponent` lies in the interval. -/
def Interval.has (i : Interval) (n : Nat) (exponent : Int) : Bool :=
  let point := if 0 ≤ exponent then n * tenTo exponent.toNat * i.den else n * i.den
  let scale := if 0 ≤ exponent then 1 else tenTo (-exponent).toNat
  if i.closed then i.low * scale ≤ point && point ≤ i.high * scale
  else i.low * scale < point && point < i.high * scale

/-- The point of the grid of `count` places that lies in the interval, of two the nearer one, of
two equally near ones the even one. -/
def Interval.pick? (i : Interval) (point : Int) (count : Nat) : Option Nat :=
  let exponent := point - count
  let (n, d) := scaledTen i.value i.den exponent
  let lower := n / d
  let upper := if n % d = 0 then lower else lower + 1
  match i.has lower exponent, i.has upper exponent with
  | true, true => some (divNearest n d)
  | true, false => some lower
  | false, true => some upper
  | false, false => none

/-- Tries grids of more and more places. -/
def Interval.search (i : Interval) (point : Int) : Nat → Nat → Digits
  | 0, count => .onGrid count (i.value / i.den) point
  | tries + 1, count =>
    match i.pick? point count with
    | some value => .onGrid count value point
    | none => search i point tries (count + 1)

/-- The fewest digits that read back as the positive double `mantissa * 2 ^ exponent`; seventeen
are always enough. -/
def shortest (mantissa : Nat) (exponent : Int) : Digits :=
  let i := Interval.of mantissa exponent
  i.search (pointOf i.value i.den) 17 1

/-- The digits of `mantissa * 2 ^ exponent` rounded to `count` places, without trailing zeros. -/
def rounded (count mantissa : Nat) (exponent : Int) : Digits :=
  let num := mantissa * twoTo exponent.toNat
  let den := twoTo (-exponent).toNat
  let point := pointOf num den
  let (n, d) := scaledTen num den (point - count)
  .onGrid count (divNearest n d) point

end WorkWatch.Decimal
