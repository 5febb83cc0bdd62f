import Mathlib.Analysis.SpecialFunctions.Log.Base
import WorkWatch.Decimal.Shortest
import WorkWatch.Proofs.Double.Nearest

/-! Where the decimal point of a fraction stands. The binary lengths of its parts give a guess; the
powers `2 ^ 93 ≤ 10 ^ 28` and `10 ^ 59 ≤ 2 ^ 196` say that the guess is good enough for every double. -/

namespace WorkWatch.Decimal

open Double (zpow_eq_ite ratio_bounds)

/-- The number of `n` units of `10 ^ e`. -/
noncomputable def amountAt (n : Nat) (e : Int) : ℝ := n * 10 ^ e

theorem ten_zpow_pos (e : Int) : (0 : ℝ) < 10 ^ e := zpow_pos (by norm_num) e

theorem cast_tenTo (k : Nat) : ((tenTo k : Nat) : ℝ) = 10 ^ k := Nat.cast_pow 10 k

theorem tenTo_pos (k : Nat) : 0 < tenTo k := Nat.pow_pos (by decide)

theorem scaledTen_pos (num : Nat) {den : Nat} (hden : 0 < den) (e : Int) :
    0 < (scaledTen num den e).2 := by
  unfold scaledTen
  split
  · exact Nat.mul_pos hden (tenTo_pos _)
  · exact hden

theorem scaledTen_ratio (num den : Nat) (e : Int) :
    ((scaledTen num den e).1 : ℝ) / (scaledTen num den e).2 = num / den / 10 ^ e := by
  rw [zpow_eq_ite]
  unfold scaledTen
  split
  · rw [Nat.cast_mul, cast_tenTo, div_div]
  · rw [Nat.cast_mul, cast_tenTo, div_inv_eq_mul]
    ring

theorem belowTen_iff (num : Nat) {den : Nat} (hden : 0 < den) (e : Int) :
    belowTen num den e = true ↔ (num : ℝ) / den < 10 ^ e := by
  have hpos : (0 : ℝ) < (scaledTen num den e).2 := Nat.cast_pos.mpr (scaledTen_pos num hden e)
  rw [← div_lt_one (ten_zpow_pos e), ← scaledTen_ratio, div_lt_one hpos, Nat.cast_lt]
  unfold belowTen
  exact decide_eq_true_iff

/-! The logarithm of two. -/

theorem logb_two_bounds : (59 : ℝ) / 196 ≤ Real.logb 10 2 ∧ Real.logb 10 2 ≤ 28 / 93 := by
  have hten (k : Nat) : Real.logb 10 ((10 : ℝ) ^ k) = k := by
    rw [Real.logb_pow, Real.logb_self_eq_one (by norm_num), mul_one]
  have htwo (k : Nat) : Real.logb 10 ((2 : ℝ) ^ k) = k * Real.logb 10 2 := Real.logb_pow ..
  constructor
  · have hle : Real.logb 10 ((10 : ℝ) ^ 59) ≤ Real.logb 10 ((2 : ℝ) ^ 196) :=
      Real.logb_le_logb_of_le (by norm_num) (by norm_num) (by norm_num)
    rw [hten, htwo] at hle
    norm_num at hle
    linarith
  · have hle : Real.logb 10 ((2 : ℝ) ^ 93) ≤ Real.logb 10 ((10 : ℝ) ^ 28) :=
      Real.logb_le_logb_of_le (by norm_num) (by norm_num) (by norm_num)
    rw [hten, htwo] at hle
    norm_num at hle
    linarith

theorem logb_two_zpow (k : Int) : Real.logb 10 ((2 : ℝ) ^ k) = k * Real.logb 10 2 := by
  rw [← Real.rpow_intCast, Real.logb_rpow_eq_mul_logb_of_pos two_pos]

theorem ten_zpow_le_iff {e : Int} {q : ℝ} (hq : 0 < q) : (10 : ℝ) ^ e ≤ q ↔ e ≤ Real.logb 10 q := by
  rw [Real.le_logb_iff_rpow_le (by norm_num) hq, Real.rpow_intCast]

theorem lt_ten_zpow_iff {e : Int} {q : ℝ} (hq : 0 < q) : q < (10 : ℝ) ^ e ↔ Real.logb 10 q < e := by
  rw [Real.logb_lt_iff_lt_rpow (by norm_num) hq, Real.rpow_intCast]

/-- The first guess for the point is at most one too great. -/
theorem guess_le {k guess : Int} (hk : -1100 ≤ k ∧ k ≤ 1100) (hguess : guess = k * 1233 / 4096)
    {q : ℝ} (hq : (2 : ℝ) ^ k < q) : (10 : ℝ) ^ (guess - 1) ≤ q := by
  have hpos : 0 < q := (Double.two_zpow_pos k).trans hq
  obtain ⟨hlow, hhigh⟩ := logb_two_bounds
  have hlog : k * Real.logb 10 2 < Real.logb 10 q := by
    rw [← logb_two_zpow]
    exact Real.logb_lt_logb (by norm_num) (Double.two_zpow_pos k) hq
  have hfloor : (guess : ℝ) * 4096 ≤ k * 1233 := by
    have : guess * 4096 ≤ k * 1233 := by omega
    exact_mod_cast this
  have hbounds : (-1100 : ℝ) ≤ k ∧ (k : ℝ) ≤ 1100 := by exact_mod_cast hk
  rw [ten_zpow_le_iff hpos]
  push_cast
  rcases le_total 0 (k : ℝ) with hsign | hsign
  · have hproduct := mul_nonneg hsign (sub_nonneg.mpr hlow)
    linarith
  · have hproduct := mul_nonneg (neg_nonneg.mpr hsign) (sub_nonneg.mpr hhigh)
    linarith

/-- The first guess for the point is at most three too small. -/
theorem lt_guess {k guess : Int} (hk : -1100 ≤ k ∧ k ≤ 1100) (hguess : guess = k * 1233 / 4096)
    {q : ℝ} (hpos : 0 < q) (hq : q < (2 : ℝ) ^ (k + 2)) : q < (10 : ℝ) ^ (guess + 3) := by
  obtain ⟨hlow, hhigh⟩ := logb_two_bounds
  have hlog : Real.logb 10 q < (k + 2 : Int) * Real.logb 10 2 := by
    rw [← logb_two_zpow]
    exact Real.logb_lt_logb (by norm_num) hpos hq
  have hfloor : (k : ℝ) * 1233 ≤ (guess + 1) * 4096 := by
    have : k * 1233 ≤ (guess + 1) * 4096 := by omega
    exact_mod_cast this
  have hbounds : (-1100 : ℝ) ≤ k ∧ (k : ℝ) ≤ 1100 := by exact_mod_cast hk
  rw [lt_ten_zpow_iff hpos]
  push_cast at hlog ⊢
  rcases le_total 0 (k : ℝ) with hsign | hsign
  · have hproduct := mul_nonneg hsign (sub_nonneg.mpr hhigh)
    linarith
  · have hproduct := mul_nonneg (neg_nonneg.mpr hsign) (sub_nonneg.mpr hlow)
    linarith

/-- The point stands in front of the first digit. -/
theorem pointOf_spec {num den : Nat} (hnum : 0 < num) (hden : 0 < den)
    (hlow : (2 : ℝ) ^ (-1074 : Int) ≤ num / den) (hhigh : (num : ℝ) / den ≤ 2 ^ (1024 : Int)) :
    (10 : ℝ) ^ (pointOf num den - 1) ≤ num / den ∧ (num : ℝ) / den < 10 ^ pointOf num den := by
  obtain ⟨hbelow, habove⟩ := ratio_bounds hnum hden
  have hpos : (0 : ℝ) < num / den := (Double.two_zpow_pos _).trans hbelow
  obtain ⟨k, hk⟩ : ∃ k : Int, k = (num.log2 : Int) - den.log2 - 1 := ⟨_, rfl⟩
  have hnext : (num.log2 : Int) - den.log2 + 1 = k + 2 := by omega
  rw [hnext] at habove
  rw [← hk] at hbelow
  have hkbounds : -1100 ≤ k ∧ k ≤ 1100 := by
    have hless := Double.two_zpow_lt_iff.mp (hbelow.trans_le hhigh)
    have hmore := Double.two_zpow_lt_iff.mp (hlow.trans_lt habove)
    omega
  -- The factor is close to the logarithm of two, so three more places are always enough.
  obtain ⟨guess, hguess⟩ : ∃ guess, guess = k * 1233 / 4096 := ⟨_, rfl⟩
  unfold pointOf
  rw [← hk, ← hguess]
  dsimp only
  simp only [belowTen_iff num hden]
  split
  · exact ⟨guess_le hkbounds hguess hbelow, ‹_›⟩
  · rename_i hfirst
    split
    · exact ⟨by rw [add_sub_cancel_right]; exact not_lt.mp hfirst, ‹_›⟩
    · rename_i hsecond
      split
      · refine ⟨?_, ‹_›⟩
        have hsame : guess + 2 - 1 = guess + 1 := by omega
        rw [hsame]
        exact not_lt.mp hsecond
      · rename_i hthird
        refine ⟨?_, lt_guess hkbounds hguess hpos habove⟩
        have hsame : guess + 3 - 1 = guess + 2 := by omega
        rw [hsame]
        exact not_lt.mp hthird

end WorkWatch.Decimal
