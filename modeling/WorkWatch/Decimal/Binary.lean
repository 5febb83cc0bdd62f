/-!
Double-precision numbers taken apart: a finite one is a signed mantissa times a power of two.
-/

namespace WorkWatch.Decimal

/-- What a double denotes. A finite one is `± mantissa * 2 ^ exponent`. -/
inductive Binary where
  | nan
  | infinite (negative : Bool)
  | finite (negative : Bool) (mantissa : Nat) (exponent : Int)
  deriving DecidableEq

def twoTo (n : Nat) : Nat := Nat.pow 2 n

def tenTo (n : Nat) : Nat := Nat.pow 10 n

/-- Number of doubles that share one exponent. -/
def binade : Nat := twoTo 52

/-- Exponent of the least positive double. -/
def leastExponent : Int := -1074

/-- The rank of infinity among the doubles from zero upwards. -/
def infiniteRank : Nat := 2047 * binade

/-- What the double at a rank from zero upwards denotes. -/
def Binary.ofRank (negative : Bool) (rank : Nat) : Binary :=
  let field := rank / binade
  let fraction := rank % binade
  if rank = infiniteRank then .infinite negative
  else if infiniteRank < rank then .nan
  else if field = 0 then .finite negative fraction leastExponent
  else .finite negative (fraction + binade) (field + leastExponent - 1)

def signBit : Nat := twoTo 63

def Binary.ofFloat (x : Float) : Binary :=
  let bits := x.toBits.toNat
  .ofRank (signBit ≤ bits) (bits % signBit)

/-- The double at a rank from zero upwards, with a sign. -/
def ofRank (negative : Bool) (rank : Nat) : Float :=
  .ofBits (.ofNat (min rank infiniteRank + if negative then signBit else 0))

/-- Why a double has no integer part. -/
inductive NoInteger where
  | infinite
  | nan
  deriving DecidableEq, Repr

/-- The integer part: the number without its fraction. -/
def Binary.truncated : Binary → Except NoInteger Int
  | .nan => .error .nan
  | .infinite _ => .error .infinite
  | .finite negative mantissa exponent =>
    let size := if 0 ≤ exponent then mantissa * twoTo exponent.toNat
      else mantissa / twoTo (-exponent).toNat
    .ok (if negative then -(size : Int) else size)

/-- The number has no fraction. -/
def Binary.isWhole : Binary → Bool
  | .finite _ mantissa exponent => 0 ≤ exponent || mantissa % twoTo (-exponent).toNat == 0
  | _ => false

def truncated (x : Float) : Except NoInteger Int := (Binary.ofFloat x).truncated

def isWhole (x : Float) : Bool := (Binary.ofFloat x).isWhole

/-- Neither infinite nor NaN. -/
def isFinite (x : Float) : Bool :=
  match Binary.ofFloat x with
  | .finite .. => true
  | _ => false

end WorkWatch.Decimal
