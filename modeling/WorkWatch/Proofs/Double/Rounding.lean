import Mathlib.Algebra.Group.Nat.Defs
import WorkWatch.Decimal.Nearest

/-! Rounding of the mantissas of doubles. Shifting an exact mantissa keeps a round bit and a sticky
bit; what rounding makes of them is the nearest integer of `Decimal.divNearest`, ties to even. -/

namespace WorkWatch.Double

open Float.Model Float.Model.UnpackedFloat
open Decimal (divNearest)

/-- The mantissa with its two residual bits tells where the fraction `num / den` stands. -/
def Stands (em : ExtendedMantissa) (num den : Nat) : Prop :=
  em.mantissa = num / den ∧
    match em.roundBit, em.stickyBit with
    | false, false => num % den = 0
    | false, true => 0 < num % den ∧ 2 * (num % den) < den
    | true, false => 2 * (num % den) = den
    | true, true => den < 2 * (num % den)

theorem stands_exact (m : Nat) : Stands (.ofMantissaAndAccuracy m .exact) m 1 := by
  simp [Stands, ExtendedMantissa.ofMantissaAndAccuracy, Nat.mod_one]

theorem Stands.shiftRightOne {em : ExtendedMantissa} {num den : Nat} (hden : 0 < den)
    (h : Stands em num den) : Stands em.shiftRightOne num (den * 2) := by
  obtain ⟨mantissa, roundBit, stickyBit⟩ := em
  obtain ⟨hq, hr⟩ := h
  have hmod : num % (den * 2) = num % den + den * (num / den % 2) := Nat.mod_mul
  have hlt : num % den < den := Nat.mod_lt num hden
  simp only at hq hr
  refine ⟨?_, ?_⟩
  · simp only [ExtendedMantissa.shiftRightOne, hq, Nat.div_div_eq_div_mul]
  · simp only [ExtendedMantissa.shiftRightOne, hq, hmod]
    rcases Nat.mod_two_eq_zero_or_one (num / den) with hb | hb <;>
      cases roundBit <;> cases stickyBit <;> simp [hb] at hr ⊢ <;> omega

theorem Stands.shiftRight {em : ExtendedMantissa} {num den : Nat} (hden : 0 < den)
    (h : Stands em num den) (k : Nat) : Stands (em >>> k) num (den * 2 ^ k) := by
  change Stands (k.repeat ExtendedMantissa.shiftRightOne em) _ _
  induction k with
  | zero => simpa [Nat.repeat] using h
  | succ k ih =>
    have hk : 0 < den * 2 ^ k := Nat.mul_pos hden (Nat.two_pow_pos k)
    rw [Nat.repeat, Nat.pow_succ, ← Nat.mul_assoc]
    exact ih.shiftRightOne hk

theorem Stands.roundedMantissa {em : ExtendedMantissa} {num den : Nat}
    (h : Stands em num den) : em.roundedMantissa = divNearest num den := by
  obtain ⟨mantissa, roundBit, stickyBit⟩ := em
  obtain ⟨hq, hr⟩ := h
  simp only at hq hr
  subst hq
  cases roundBit <;> cases stickyBit <;>
    simp only [ExtendedMantissa.roundedMantissa, ExtendedMantissa.accuracy,
      Accuracy.roundToNearestEven, divNearest] at hr ⊢ <;>
    split <;> (simp_all; try omega)

theorem roundedMantissa_shiftRight (m k : Nat) :
    (ExtendedMantissa.ofMantissaAndAccuracy m .exact >>> k).roundedMantissa =
      divNearest m (2 ^ k) := by
  have h := (stands_exact m).shiftRight Nat.one_pos k
  rw [Nat.one_mul] at h
  exact h.roundedMantissa

/-! The nearest integer of a fraction never passes an integer that the fraction does not pass. -/

theorem le_divNearest {n num den : Nat} (hden : 0 < den) (h : n * den ≤ num) :
    n ≤ divNearest num den := by
  have hq : n ≤ num / den := (Nat.le_div_iff_mul_le hden).mpr h
  simp only [divNearest]
  split <;> omega

theorem divNearest_le {n num den : Nat} (hden : 0 < den) (h : num ≤ n * den) :
    divNearest num den ≤ n := by
  have hq : num / den ≤ n := Nat.div_le_of_le_mul (by rwa [Nat.mul_comm] at h)
  rcases Nat.lt_or_eq_of_le hq with hlt | heq
  · simp only [divNearest]
    split <;> omega
  · have hsum := Nat.div_add_mod num den
    have hr : num % den = 0 := by
      rw [heq, Nat.mul_comm] at hsum
      omega
    simp [divNearest, hr, heq, hden]

end WorkWatch.Double
