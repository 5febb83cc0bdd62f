import WorkWatch.Decimal.Nearest

/-!
What waiting needs of times: to add, subtract and compare them, and to scale them by powers of two.
Clocks count doubles; exact fractions serve for reckoning about them.
-/

namespace WorkWatch

class Timescale (τ : Type) extends Zero τ, Add τ, Sub τ, LT τ, LE τ, BEq τ where
  /-- A time times a power of two. -/
  scale : τ → Nat → τ
  decidableLT : DecidableRel (fun a b : τ => a < b)
  decidableLE : DecidableRel (fun a b : τ => a ≤ b)

attribute [reducible, instance] Timescale.decidableLT Timescale.decidableLE

namespace Timescale

/-- The double `2 ^ n`, for `n` below 1024. -/
def floatPower (n : Nat) : Float := Decimal.ofRank false ((n + 1023) * Decimal.binade)

instance : Timescale Float where
  zero := 0
  scale x n := x * floatPower n
  decidableLT a b := inferInstanceAs (Decidable (a < b))
  decidableLE a b := inferInstanceAs (Decidable (a ≤ b))

instance : Timescale Rat where
  zero := 0
  add := Rat.add
  sub := Rat.sub
  lt a b := Rat.blt a b = true
  le a b := Rat.blt b a = false
  beq a b := decide (a = b)
  scale x n := Rat.mul x (mkRat (Decimal.twoTo n) 1)
  decidableLT a b := inferInstanceAs (Decidable (Rat.blt a b = true))
  decidableLE a b := inferInstanceAs (Decidable (Rat.blt b a = false))

variable {τ : Type} [Timescale τ]

/-- The lesser of two times, the first one when neither is less. -/
def lesser (a b : τ) : τ := if b < a then b else a

/-- The later of two times, the first one when neither is later. -/
def later (a b : τ) : τ := if a < b then b else a

end Timescale

end WorkWatch
