import WorkWatch.Decimal.Binary

/-!
Rounding of exact fractions to the nearest integer and to the nearest double, ties to even.
-/

namespace WorkWatch.Decimal

/-- The integer nearest to a quotient; a tie goes to the even neighbour. -/
def divNearest (num den : Nat) : Nat :=
  let q := num / den
  let r := num % den
  if 2 * r < den || (2 * r == den && q % 2 == 0) then q else q + 1

/-- The fraction `num / den` divided by `2 ^ exponent`. -/
def scaled (num den : Nat) (exponent : Int) : Nat × Nat :=
  if 0 ≤ exponent then (num, den * twoTo exponent.toNat) else (num * twoTo (-exponent).toNat, den)

/-- The exponent of the double nearest to `num / den`: with it the mantissa has at most 53 bits,
and all of them unless the exponent is the least one. -/
def exponentFor (num den : Nat) : Int :=
  -- The guess from the binary lengths is right or too small by one.
  let low := max ((num.log2 : Int) - den.log2 - 53) leastExponent
  let (n, d) := scaled num den low
  if 2 * binade ≤ n / d then low + 1 else low

/-- The rank of the double nearest to `num / den`; past the greatest finite one it is at least
that of infinity. -/
def nearestRank (num den : Nat) : Nat :=
  if num = 0 then 0
  else
    let exponent := exponentFor num den
    let (n, d) := scaled num den exponent
    -- A mantissa that rounds up to the next power of two is carried by the sum.
    (exponent - leastExponent).toNat * binade + divNearest n d

def nearest (negative : Bool) (num den : Nat) : Float := ofRank negative (nearestRank num den)

/-- The double nearest to an integer, unless it would be infinite. -/
def ofInt? (n : Int) : Option Float :=
  let rank := nearestRank n.natAbs 1
  if infiniteRank ≤ rank then none else some (ofRank (n < 0) rank)

/-- The double nearest to `digits * 10 ^ exponent`. -/
def ofDecimal (negative : Bool) (digits : Nat) (exponent : Int) : Float :=
  let size := (Nat.toDigits 10 digits).length + exponent
  -- Far outside the range of doubles the size alone settles it, and no great power is computed.
  if digits = 0 then ofRank negative 0
  else if 310 < size then ofRank negative infiniteRank
  else if size < -330 then ofRank negative 0
  else if 0 ≤ exponent then nearest negative (digits * tenTo exponent.toNat) 1
  else nearest negative digits (tenTo (-exponent).toNat)

end WorkWatch.Decimal
