import Mathlib.Algebra.Order.Floor.Ring
import Mathlib.Data.Rat.Floor
import Mathlib.Tactic.FieldSimp
import Mathlib.Tactic.Ring
import WorkWatch.Proofs.Time.Written

/-! The moments that timestamps stand for. What is read is the exact moment cut to microseconds, so it
never turns two moments round; and among timestamps with one offset the order of moments is that of the
fields. -/

namespace WorkWatch.Time

open WorkWatch.Text

/-- Six digits of a fraction are its microseconds, and what follows them is cut off. -/
theorem microseconds_eq {digits : List Char} (h : ∀ c ∈ digits, isDigit c = true) :
    microseconds digits = ofDigits digits * 10 ^ 6 / 10 ^ digits.length := by
  unfold microseconds
  rcases Nat.le_total digits.length 6 with hshort | hlong
  -- Zeros fill the row up to six digits, and the division comes out even.
  · obtain ⟨missing, hmissing⟩ := Nat.exists_eq_add_of_le hshort
    have htake : (digits ++ List.replicate 6 '0').take 6 = digits ++ List.replicate missing '0' := by
      rw [List.take_append, List.take_of_length_le hshort, List.take_replicate, hmissing]
      congr 2
      omega
    rw [htake, ofDigits_append, ofDigits_replicate_zero, List.length_replicate, hmissing, Nat.add_zero,
      Nat.pow_add, Nat.mul_left_comm]
    exact (Nat.mul_div_cancel_left _ (Nat.pow_pos (by decide))).symm
  -- What is cut off denotes less than a unit of the last digit that is kept.
  · have hsplit : ofDigits digits =
        ofDigits (digits.take 6) * 10 ^ (digits.length - 6) + ofDigits (digits.drop 6) := by
      conv => lhs; rw [← List.take_append_drop 6 digits]
      rw [ofDigits_append, List.length_drop]
    have hrest : ofDigits (digits.drop 6) < 10 ^ (digits.length - 6) := by
      have hlt : ofDigits (digits.drop 6) < 10 ^ (digits.drop 6).length :=
        ofDigits_lt fun c hc => h c (List.mem_of_mem_drop hc)
      rwa [List.length_drop] at hlt
    have hpower : 10 ^ digits.length = 10 ^ (digits.length - 6) * 10 ^ 6 := by
      rw [← Nat.pow_add, Nat.sub_add_cancel hlong]
    rw [List.take_append_of_le_length hlong, hpower, Nat.mul_div_mul_right _ _ (by decide), hsplit,
      Nat.mul_comm, Nat.mul_add_div (Nat.pow_pos (by decide)), Nat.div_eq_of_lt hrest, Nat.add_zero]

theorem microseconds_lt {digits : List Char} (h : ∀ c ∈ digits, isDigit c = true) :
    microseconds digits < 10 ^ 6 := by
  rw [microseconds_eq h]
  exact Nat.div_lt_of_lt_mul (Nat.mul_lt_mul_of_pos_right (ofDigits_lt h) (by decide))

namespace Written

/-- The whole seconds since the beginning of 1970 in UTC. -/
def seconds (w : Written) : ℤ :=
  ((dayNumber w.year w.month w.day * 24 + w.hour) * 60 + w.minute - w.zone.minutesEast) * 60 + w.second

/-- The exact moment, in seconds since the beginning of 1970 in UTC. -/
def moment (w : Written) : ℚ := w.seconds + ofDigits w.fraction / 10 ^ w.fraction.length

def fields (w : Written) : List Nat :=
  [w.year, w.month, w.day, w.hour, w.minute, w.second, microseconds w.fraction]

variable {w w' : Written}

theorem instant_timestamp (w : Written) :
    w.timestamp.instant = w.seconds * 1000000 + microseconds w.fraction := rfl

theorem instant_eq_floor (hw : w.IsTime) : w.timestamp.instant = ⌊w.moment * 1000000⌋ := by
  have hfraction : ((ofDigits w.fraction : ℚ) / 10 ^ w.fraction.length) * 1000000 =
      ((ofDigits w.fraction * 10 ^ 6 : ℕ) : ℚ) / ((10 ^ w.fraction.length : ℕ) : ℚ) := by
    push_cast
    ring
  have hwhole : (w.seconds : ℚ) * 1000000 = ((w.seconds * 1000000 : ℤ) : ℚ) := by push_cast; rfl
  rw [instant_timestamp, moment, add_mul, hfraction, hwhole, Int.floor_intCast_add,
    Rat.floor_natCast_div_natCast, microseconds_eq hw.fraction, Int.natCast_ediv]

theorem instant_le_of_moment_le (hw : w.IsTime) (hw' : w'.IsTime) (h : w.moment ≤ w'.moment) :
    w.timestamp.instant ≤ w'.timestamp.instant := by
  rw [instant_eq_floor hw, instant_eq_floor hw']
  exact Int.floor_mono (mul_le_mul_of_nonneg_right h (by norm_num))

theorem instant_sub_instant (w : Written) (zone : Zone) :
    w.timestamp.instant - { w with zone }.timestamp.instant =
      (zone.minutesEast - w.zone.minutesEast) * 60 * 1000000 := by
  rw [instant_timestamp, instant_timestamp]
  unfold seconds
  ring

theorem instant_lt_iff (hw : w.IsTime) (hw' : w'.IsTime)
    (hzone : w.zone.minutesEast = w'.zone.minutesEast) :
    w.timestamp.instant < w'.timestamp.instant ↔ w.fields < w'.fields := by
  have hlt := dayNumber_lt_iff hw.date hw'.date
  have hgt := dayNumber_lt_iff hw'.date hw.date
  have heq := dayNumber_eq_iff hw.date hw'.date
  have hmicro := microseconds_lt hw.fraction
  have hmicro' := microseconds_lt hw'.fraction
  obtain ⟨-, hhour, hminute, hsecond, -⟩ := hw
  obtain ⟨-, hhour', hminute', hsecond', -⟩ := hw'
  rw [instant_timestamp, instant_timestamp]
  unfold seconds fields
  simp only [List.cons_lt_cons_iff, List.not_lt_nil, and_false, or_false, hzone]
  -- The rest of a day is less than a day, so the time of day decides only between equal dates.
  rcases lt_trichotomy (dayNumber w.year w.month w.day) (dayNumber w'.year w'.month w'.day) with
    hday | hday | hday
  · have hdate := hlt.mp hday
    exact iff_of_true (by omega) (by omega)
  · obtain ⟨hyear, hmonth, hdate⟩ := heq.mp hday
    omega
  · have hdate := hgt.mp hday
    exact iff_of_false (by omega) (by omega)

end Written

end WorkWatch.Time
