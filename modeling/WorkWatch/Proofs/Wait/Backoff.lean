import WorkWatch.Proofs.Double.Scaling
import WorkWatch.Proofs.Settings.Polling
import WorkWatch.Proofs.Wait.Streak

/-! The interval after failures in a row. As long as there is one it is exact: the interval of the
settings, doubled once for every failure but the first, or the cap if that is less. It is lost with
the power of two, which is computed before the cap is looked at. -/

namespace WorkWatch

open Double

theorem value_lesser {x y : Float} (hx : IsNumber x) (hy : IsNumber y) :
    value (Timescale.lesser x y) = min (value x) (value y) := by
  unfold Timescale.lesser
  split
  · rename_i h
    exact (min_eq_right (lt_iff.mp h).2.2.le).symm
  · rename_i h
    exact (min_eq_left (le_iff.mp (Double.le_of_not_lt hx hy h)).2.2).symm

namespace PollSettings

variable {polling : PollSettings Float}

/-- The interval after a number of failures in a row, in real numbers. -/
noncomputable def exactAfter (polling : PollSettings Float) (failures : Nat) : ℝ :=
  if failures = 0 then real polling.interval
  else min (real polling.interval * (2 ^ (failures - 1) : Nat)) (real polling.cap)

theorem exactAfter_zero : polling.exactAfter 0 = real polling.interval := if_pos rfl

theorem exactAfter_succ (failures : Nat) :
    polling.exactAfter (failures + 1) =
      min (real polling.interval * 2 ^ failures) (real polling.cap) := by
  rw [exactAfter, if_neg (Nat.succ_ne_zero failures), Nat.add_sub_cancel, Nat.cast_pow,
    Nat.cast_ofNat]

theorem exactAfter_mono (hpos : 0 < real polling.interval)
    (horder : real polling.interval ≤ real polling.cap) : Monotone polling.exactAfter := by
  apply monotone_nat_of_le_succ
  intro failures
  cases failures with
  | zero =>
    rw [exactAfter_zero, exactAfter_succ, pow_zero, mul_one]
    exact le_min (le_refl _) horder
  | succ failures =>
    have hpower : (2 : ℝ) ^ failures ≤ 2 ^ (failures + 1) :=
      pow_le_pow_right₀ one_le_two (Nat.le_succ _)
    rw [exactAfter_succ, exactAfter_succ]
    exact min_le_min_right _ (mul_le_mul_of_nonneg_left hpower hpos.le)

theorem exactAfter_le_cap (horder : real polling.interval ≤ real polling.cap) (failures : Nat) :
    polling.exactAfter failures ≤ real polling.cap := by
  cases failures with
  | zero =>
    rw [exactAfter_zero]
    exact horder
  | succ failures =>
    rw [exactAfter_succ]
    exact min_le_right _ _

theorem intervalAfter_eq_error {failures : Nat} (h : longestStreak < failures) :
    polling.intervalAfter failures = .error .powerTooLarge := by
  cases failures with
  | zero => exact absurd h (Nat.not_lt_zero _)
  | succ failures => exact if_pos (Nat.lt_of_succ_lt_succ h)

theorem exists_intervalAfter (hinterval : IsDuration polling.interval)
    (hcap : IsDuration polling.cap) {failures : Nat} (h : failures ≤ longestStreak) :
    ∃ next, polling.intervalAfter failures = .ok next ∧ Decimal.isFinite next = true ∧
      real next = polling.exactAfter failures := by
  cases failures with
  | zero => exact ⟨polling.interval, rfl, hinterval.1, exactAfter_zero.symm⟩
  | succ failures =>
    have hpower : failures ≤ greatestPower := Nat.le_of_succ_le_succ h
    have hscaled := isNumber_mul hinterval.2 (floatPower_pos hpower)
    have hnumber := isNumber_of_isDuration hcap
    have hvalue := (value_lesser hscaled hnumber).trans
      (min_mul_floatPower hinterval.1 hinterval.2 hcap.1 hcap.2 hpower)
    refine ⟨Timescale.lesser (Timescale.scale polling.interval failures) polling.cap, ?_,
      isFinite_of_value (isNumber_lesser hscaled hnumber) hvalue, ?_⟩
    · rw [intervalAfter, if_neg (Nat.not_lt.mpr hpower)]
    · rw [exactAfter_succ]
      exact (congrArg EReal.toReal hvalue).trans (EReal.toReal_coe _)

/-- With a finite interval above zero and a finite cap that is not below it, there is an interval
after every streak that is not too long; it is exact, lies between the two, and is not less than
after a shorter streak. After a longer streak there is none. -/
theorem intervalAfter_exact (hinterval : IsDuration polling.interval)
    (hcap : Decimal.isFinite polling.cap = true) (horder : polling.interval ≤ polling.cap)
    (failures : Nat) :
    (longestStreak < failures → polling.intervalAfter failures = .error .powerTooLarge) ∧
    (failures ≤ longestStreak →
      ∃ next, polling.intervalAfter failures = .ok next ∧ Decimal.isFinite next = true ∧
        real next = polling.exactAfter failures ∧ polling.interval ≤ next ∧ next ≤ polling.cap ∧
        ∀ fewer ≤ failures,
          ∃ before, polling.intervalAfter fewer = .ok before ∧ before ≤ next) := by
  have hreal := (le_iff_real_le hinterval.1 hcap).mp horder
  have hpos := (pos_iff_real_pos hinterval.1).mp hinterval.2
  have hlimit : IsDuration polling.cap :=
    ⟨hcap, (pos_iff_real_pos hcap).mpr (hpos.trans_le hreal)⟩
  have hmono := exactAfter_mono hpos hreal
  refine ⟨intervalAfter_eq_error, fun hstreak => ?_⟩
  obtain ⟨next, hnext, hfinite, hexact⟩ := exists_intervalAfter hinterval hlimit hstreak
  refine ⟨next, hnext, hfinite, hexact, le_intervalAfter hinterval.2 horder hnext, ?_, ?_⟩
  · rw [le_iff_real_le hfinite hcap, hexact]
    exact exactAfter_le_cap hreal failures
  · intro fewer hfewer
    obtain ⟨before, hbefore, hbeforeFinite, hbeforeExact⟩ :=
      exists_intervalAfter hinterval hlimit (hfewer.trans hstreak)
    refine ⟨before, hbefore, ?_⟩
    rw [le_iff_real_le hbeforeFinite hfinite, hbeforeExact, hexact]
    exact hmono hfewer

/-- Polling every second at first and every five minutes at most: ten failures reach the cap, and
the longest streak stays there. -/
theorem intervalAfter_exact_default :
    let polling : PollSettings Float := ⟨1, 300, 300⟩
    IsDuration polling.interval ∧ Decimal.isFinite polling.cap = true ∧
    polling.interval ≤ polling.cap ∧
    (∃ next, polling.intervalAfter 10 = .ok next ∧ real next = polling.exactAfter 10) ∧
    ∃ next, polling.intervalAfter longestStreak = .ok next ∧ next ≤ polling.cap := by
  intro polling
  have hinterval : IsDuration polling.interval := by decide +kernel
  have hcap : Decimal.isFinite polling.cap = true := by decide +kernel
  have horder : polling.interval ≤ polling.cap := by decide +kernel
  have hexact := intervalAfter_exact hinterval hcap horder
  obtain ⟨ten, hten, -, hreal, -⟩ := (hexact 10).2 (by decide)
  obtain ⟨last, hlast, -, -, -, hle, -⟩ := (hexact longestStreak).2 (le_refl _)
  exact ⟨hinterval, hcap, horder, ⟨ten, hten, hreal⟩, last, hlast, hle⟩

/-- The streak is too long by one failure, although the cap was reached long before. -/
theorem intervalAfter_loses_cap :
    let polling : PollSettings Float := ⟨1, 300, 300⟩
    IsDuration polling.interval ∧ Decimal.isFinite polling.cap = true ∧
    polling.interval ≤ polling.cap ∧ polling.intervalAfter 10 = .ok polling.cap ∧
    polling.intervalAfter 1025 = .error .powerTooLarge := by
  intro polling
  refine ⟨?_, ?_, ?_, ?_, rfl⟩ <;> decide +kernel

end PollSettings

end WorkWatch
