import WorkWatch.Proofs.Double.Rounding
import WorkWatch.Proofs.Double.Stored

/-! Rounding a mantissa and an exponent to a double. The exponent of the result is the one that
leaves 53 bits of the mantissa, but not less than the least one; the mantissa is the nearest integer
at that exponent, and a mantissa of `2 ^ 53` carries into the exponent. -/

namespace WorkWatch.Double

open Float.Model Float.Model.UnpackedFloat
open Decimal (divNearest)

/-- The exponent at which `m * 2 ^ e` is rounded. -/
def roundingExponent (m : Nat) (e : Int) : Int := max (m.log2 + e - 52) (-1074)

theorem targetExponent_eq (m : Nat) (e : Int) :
    Format.binary64.targetExponent (totalExponent m e) = roundingExponent m e := by
  unfold Format.targetExponent totalExponent roundingExponent
  change max ((m.log2 : Int) + 1 + e - (53 : Nat)) (-1074) = _
  congr 1
  omega

/-- The nearest integer to `m * 2 ^ e` in units of the rounding exponent. -/
def roundedMantissa (m : Nat) (e : Int) : Nat :=
  divNearest (m * 2 ^ (e - roundingExponent m e).toNat) (2 ^ (roundingExponent m e - e).toNat)

theorem roundedMantissa_le (m : Nat) (e : Int) : roundedMantissa m e ≤ 2 ^ 53 := by
  unfold roundedMantissa
  apply divNearest_le (Nat.two_pow_pos _)
  have hlt : m < 2 ^ (m.log2 + 1) := Nat.lt_log2_self
  have ht : (m.log2 : Int) + e - 52 ≤ roundingExponent m e := Int.le_max_left _ _
  calc m * 2 ^ (e - roundingExponent m e).toNat
      ≤ 2 ^ (m.log2 + 1) * 2 ^ (e - roundingExponent m e).toNat :=
        Nat.mul_le_mul_right _ (Nat.le_of_lt hlt)
    _ = 2 ^ (m.log2 + 1 + (e - roundingExponent m e).toNat) := (Nat.pow_add ..).symm
    _ ≤ 2 ^ (53 + (roundingExponent m e - e).toNat) :=
        Nat.pow_le_pow_right (by decide) (by omega)
    _ = 2 ^ 53 * 2 ^ (roundingExponent m e - e).toNat := Nat.pow_add ..

theorem le_roundedMantissa {m : Nat} (hm : m ≠ 0) (e : Int) :
    2 ^ 52 ≤ roundedMantissa m e ∨ roundingExponent m e = -1074 := by
  by_cases ht : roundingExponent m e = -1074
  · exact Or.inr ht
  · left
    have hval : roundingExponent m e = m.log2 + e - 52 := by
      unfold roundingExponent at ht ⊢
      omega
    have hlog : 2 ^ m.log2 ≤ m := Nat.log2_self_le hm
    unfold roundedMantissa
    apply le_divNearest (Nat.two_pow_pos _)
    calc 2 ^ 52 * 2 ^ (roundingExponent m e - e).toNat
        = 2 ^ (52 + (roundingExponent m e - e).toNat) := (Nat.pow_add ..).symm
      _ = 2 ^ (m.log2 + (e - roundingExponent m e).toNat) := by congr 1; omega
      _ = 2 ^ m.log2 * 2 ^ (e - roundingExponent m e).toNat := Nat.pow_add ..
      _ ≤ m * 2 ^ (e - roundingExponent m e).toNat := Nat.mul_le_mul_right _ hlog

/-- A mantissa of `2 ^ 53` takes one bit too many and carries. -/
def carried (s : Sign) (q : Nat) (t : Int) : UnpackedFloat :=
  if h : q = 0 then .zero s
  else if q < 2 ^ 53 then .finite s q t (Nat.pos_of_ne_zero h)
  else .finite s (2 ^ 52) (t + 1) (by decide)

theorem shiftToTargetExponent_eq {m : Nat} {e : Int} (he : e ≤ roundingExponent m e) :
    shiftToTargetExponent Format.binary64 m e .exact =
      (ExtendedMantissa.ofMantissaAndAccuracy m .exact >>> (roundingExponent m e - e).toNat,
        roundingExponent m e) := by
  unfold shiftToTargetExponent shiftToExponent
  rw [targetExponent_eq]
  dsimp only
  congr 1
  omega

theorem shiftToTargetExponent_fits {q : Nat} {t : Int} (hq : q < 2 ^ 53) (ht : -1074 ≤ t) :
    shiftToTargetExponent Format.binary64 q t .exact =
      (ExtendedMantissa.ofMantissaAndAccuracy q .exact, t) := by
  have hlog : q.log2 ≤ 52 := by
    by_cases hz : q = 0
    · simp [hz]
    · have := (Nat.log2_lt hz).mpr hq
      omega
  have hshift : (roundingExponent q t - t).toNat = 0 := by
    unfold roundingExponent
    omega
  unfold shiftToTargetExponent shiftToExponent
  rw [targetExponent_eq]
  dsimp only
  rw [hshift]
  simp only [Int.natCast_zero, Int.add_zero]
  rfl

theorem shiftToTargetExponent_carries {t : Int} (ht : -1074 ≤ t) :
    shiftToTargetExponent Format.binary64 (2 ^ 53) t .exact =
      (ExtendedMantissa.ofMantissaAndAccuracy (2 ^ 52) .exact, t + 1) := by
  have hexp : roundingExponent (2 ^ 53) t = t + 1 := by
    unfold roundingExponent
    rw [Nat.log2_two_pow]
    omega
  have hshift : (t + 1 - t).toNat = 1 := by omega
  rw [shiftToTargetExponent_eq (by omega), hexp, hshift]
  rfl

theorem roundWithAccuracy_eq {m : Nat} {e : Int} (he : e ≤ roundingExponent m e) (s : Sign) :
    roundWithAccuracy Format.binary64 s m e .exact =
      carried s (roundedMantissa m e) (roundingExponent m e) := by
  have hq : (ExtendedMantissa.ofMantissaAndAccuracy m .exact >>>
      (roundingExponent m e - e).toNat).roundedMantissa = roundedMantissa m e := by
    have hexp : (e - roundingExponent m e).toNat = 0 := by omega
    rw [roundedMantissa_shiftRight, roundedMantissa, hexp, Nat.pow_zero, Nat.mul_one]
  have hleast : -1074 ≤ roundingExponent m e := Int.le_max_right _ _
  have hle := roundedMantissa_le m e
  unfold roundWithAccuracy carried
  rw [shiftToTargetExponent_eq he]
  dsimp only
  rw [hq]
  generalize roundedMantissa m e = q at hle
  generalize roundingExponent m e = t at hleast
  rcases Nat.lt_or_eq_of_le hle with hlt | rfl
  · rw [shiftToTargetExponent_fits hlt hleast]
    simp only [if_pos hlt]
    rfl
  · rw [shiftToTargetExponent_carries hleast]
    rfl

theorem log2_mul_two_pow {m : Nat} (hm : m ≠ 0) (k : Nat) : (m * 2 ^ k).log2 = m.log2 + k := by
  apply (Nat.log2_eq_iff (Nat.mul_ne_zero hm (Nat.ne_of_gt (Nat.two_pow_pos k)))).mpr
  rw [Nat.add_right_comm, Nat.pow_add, Nat.pow_add _ (m.log2 + 1)]
  exact ⟨Nat.mul_le_mul_right _ (Nat.log2_self_le hm),
    Nat.mul_lt_mul_of_pos_right Nat.lt_log2_self (Nat.two_pow_pos k)⟩

theorem round_eq {m : Nat} (hm : m ≠ 0) (e : Int) (s : Sign) :
    UnpackedFloat.round Format.binary64 s m e =
      carried s (roundedMantissa m e) (roundingExponent m e) := by
  have hsame (k : Nat) : roundingExponent (m * 2 ^ k) (e - k) = roundingExponent m e := by
    unfold roundingExponent
    rw [log2_mul_two_pow hm]
    congr 1
    omega
  unfold UnpackedFloat.round decreaseExponent
  rw [targetExponent_eq]
  dsimp only
  rw [Nat.shiftLeft_eq, roundWithAccuracy_eq (by rw [hsame]; omega), hsame]
  unfold roundedMantissa
  rw [hsame]
  generalize roundingExponent m e = t
  have hzero : (e - (e - t).toNat - t).toNat = 0 := by omega
  have hsub : (t - (e - (e - t).toNat)).toNat = (t - e).toNat := by omega
  rw [hzero, hsub, Nat.pow_zero, Nat.mul_one]

/-- What packing makes of a rounded number: the number itself unless it is too large. -/
theorem unpack_pack_carried {q : Nat} {t : Int} (hq : q ≤ 2 ^ 53) (ht : -1074 ≤ t)
    (hfull : 2 ^ 52 ≤ q ∨ t = -1074) (s : Sign) :
    (Float.Model.pack (carried s q t)).unpack =
      if 971 < t ∨ (971 ≤ t ∧ q = 2 ^ 53) then .infinity s else carried s q t := by
  unfold carried
  split
  · rename_i hz
    rw [unpack_pack_zero, if_neg (by omega)]
  · split
    · rename_i hz hlt
      rw [unpack_pack_finite ⟨hlt, ht, hfull⟩]
      by_cases hle : t ≤ 971
      · rw [if_pos hle, if_neg (by omega)]
      · rw [if_neg hle, if_pos (by omega)]
    · rename_i hz hge
      rw [unpack_pack_finite ⟨by decide, by omega, Or.inl (Nat.le_refl _)⟩]
      by_cases hle : t + 1 ≤ 971
      · rw [if_pos hle, if_neg (by omega)]
      · rw [if_neg hle, if_pos (by omega)]

end WorkWatch.Double
