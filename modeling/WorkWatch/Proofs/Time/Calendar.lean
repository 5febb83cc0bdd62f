import Mathlib.Data.Int.Order.Basic
import WorkWatch.Time.Calendar

/-! Which days exist, and how they are numbered. The number of a day is one more than that of the day
before it, within a month, into the next month and into the next year; so later days have greater
numbers, and no two days share one. -/

namespace WorkWatch.Time

/-- Every fourth year is a leap year; of those that end a century, every fourth one is. -/
def IsLeap (year : Nat) : Prop := 4 ∣ year ∧ (100 ∣ year → 400 ∣ year)

/-- Every month has 28 days, each but February 30, seven of them 31; February has a 29th in leap
years. -/
def IsDay (year month day : Nat) : Prop :=
  (1 ≤ year ∧ year ≤ 9999) ∧ (1 ≤ month ∧ month ≤ 12) ∧ 1 ≤ day ∧
    (day ≤ 28 ∨ (day ≤ 30 ∧ month ≠ 2) ∨ (day = 31 ∧ month ∈ [1, 3, 5, 7, 8, 10, 12]) ∨
      (day = 29 ∧ month = 2 ∧ IsLeap year))

theorem isLeapYear_iff {year : Nat} : isLeapYear year = true ↔ IsLeap year := by
  simp only [isLeapYear, IsLeap, Bool.and_eq_true, Bool.or_eq_true, beq_iff_eq, bne_iff_ne]
  omega

theorem le_daysInMonth_iff {year month day : Nat} (hmonth : 1 ≤ month ∧ month ≤ 12) :
    day ≤ daysInMonth year month ↔
      day ≤ 28 ∨ (day ≤ 30 ∧ month ≠ 2) ∨ (day = 31 ∧ month ∈ [1, 3, 5, 7, 8, 10, 12]) ∨
        (day = 29 ∧ month = 2 ∧ IsLeap year) := by
  simp only [daysInMonth, ← isLeapYear_iff, List.mem_cons, List.not_mem_nil, or_false,
    Bool.or_eq_true, decide_eq_true_eq]
  cases isLeapYear year with
  | true =>
    simp only [and_true, if_true]
    split
    · omega
    · split <;> omega
  | false =>
    simp only [Bool.false_eq_true, and_false, or_false, if_false]
    split
    · omega
    · split <;> omega

theorem isDate_iff {year month day : Nat} : isDate year month day = true ↔ IsDay year month day := by
  simp only [isDate, IsDay, Bool.and_eq_true, decide_eq_true_eq, and_assoc]
  refine and_congr_right fun _ => and_congr_right fun _ => and_congr_right fun hfirst =>
    and_congr_right fun hlast => and_congr_right fun _ => ?_
  exact le_daysInMonth_iff ⟨hfirst, hlast⟩

instance (year month day : Nat) : Decidable (IsDay year month day) := decidable_of_iff _ isDate_iff

theorem IsDay.le_daysInMonth {year month day : Nat} (h : IsDay year month day) :
    day ≤ daysInMonth year month :=
  (le_daysInMonth_iff h.2.1).mpr h.2.2.2

theorem IsDay.day_le {year month day : Nat} (h : IsDay year month day) : day ≤ 31 := by
  obtain ⟨-, -, -, h⟩ := h
  omega

theorem daysInMonth_pos (year month : Nat) : 1 ≤ daysInMonth year month := by
  unfold daysInMonth
  split
  · split <;> decide
  · split <;> decide

/-! Consecutive days. -/

theorem dayNumber_next_day (year month day : Nat) :
    dayNumber year month (day + 1) = dayNumber year month day + 1 := by
  unfold dayNumber
  omega

theorem dayNumber_next_month (year : Nat) {month : Nat} (h : 1 ≤ month) :
    dayNumber year (month + 1) 1 = dayNumber year month (daysInMonth year month) + 1 := by
  obtain ⟨past, rfl⟩ := Nat.exists_eq_add_of_le' h
  unfold dayNumber
  rw [daysBeforeMonth]
  · omega
  · exact Nat.succ_ne_zero past

theorem daysBeforeYear_next {year : Nat} (h : 1 ≤ year) :
    daysBeforeYear (year + 1) = daysBeforeYear year + if isLeapYear year then 366 else 365 := by
  obtain ⟨past, rfl⟩ := Nat.exists_eq_add_of_le' h
  have hcenturies : past / 100 ≤ past / 4 := Nat.div_le_div_left (by decide) (by decide)
  have hlong : 400 ∣ past + 1 → 100 ∣ past + 1 := Nat.dvd_trans (by decide)
  have hcentury : 100 ∣ past + 1 → 4 ∣ past + 1 := Nat.dvd_trans (by decide)
  unfold daysBeforeYear
  -- Each of the three counts of leap days grows by one if the year is a multiple of its period.
  simp only [Nat.add_sub_cancel, Nat.succ_div, isLeapYear_iff, IsLeap]
  generalize past / 4 = quarters at *
  generalize past / 100 = centuries at *
  by_cases h400 : 400 ∣ past + 1
  · simp only [h400, hlong, hcentury, if_true, true_and, imp_true_iff]
    omega
  · by_cases h100 : 100 ∣ past + 1
    · simp only [h400, h100, hcentury, if_true, if_false, true_and, forall_true_left]
      omega
    · by_cases h4 : 4 ∣ past + 1
      · simp only [h400, h100, h4, if_true, if_false, true_and, false_imp_iff]
        omega
      · simp only [h400, h100, h4, if_false, false_and]
        omega

theorem daysBeforeMonth_december (year : Nat) :
    daysBeforeMonth year 12 = if isLeapYear year then 335 else 334 := by
  simp only [daysBeforeMonth, daysInMonth]
  cases isLeapYear year <;> rfl

theorem dayNumber_next_year {year : Nat} (h : 1 ≤ year) :
    dayNumber (year + 1) 1 1 = dayNumber year 12 31 + 1 := by
  unfold dayNumber
  rw [daysBeforeYear_next h, daysBeforeMonth_december]
  simp only [daysBeforeMonth]
  split <;> omega

example : dayNumber 1970 1 1 = 0 := by decide

/-! Later days. -/

theorem dayNumber_le {day later : Nat} (year month : Nat) (h : day ≤ later) :
    dayNumber year month day ≤ dayNumber year month later := by
  unfold dayNumber
  omega

theorem dayNumber_lt_of_month_lt {year month next day later : Nat} (hmonth : 1 ≤ month)
    (hday : day ≤ daysInMonth year month) (hlater : 1 ≤ later) (h : month < next) :
    dayNumber year month day < dayNumber year next later := by
  induction next generalizing later with
  | zero => exact absurd h (Nat.not_lt_zero month)
  | succ next ih =>
    have hfirst := dayNumber_le year (next + 1) hlater
    rcases Nat.lt_or_eq_of_le (Nat.le_of_lt_succ h) with hlt | rfl
    · have hlast := ih (daysInMonth_pos year next) hlt
      have hnext := dayNumber_next_month year (Nat.le_trans hmonth (Nat.le_of_lt hlt))
      omega
    · have hlast := dayNumber_le year month hday
      have hnext := dayNumber_next_month year hmonth
      omega

theorem december_lt_january {year next : Nat} (hyear : 1 ≤ year) (h : year < next) :
    dayNumber year 12 31 < dayNumber next 1 1 := by
  induction next with
  | zero => exact absurd h (Nat.not_lt_zero year)
  | succ next ih =>
    rcases Nat.lt_or_eq_of_le (Nat.le_of_lt_succ h) with hlt | rfl
    · have hnext := dayNumber_next_year (Nat.le_trans hyear (Nat.le_of_lt hlt))
      have hwhole : dayNumber next 1 1 < dayNumber next 12 31 :=
        dayNumber_lt_of_month_lt (by decide) (daysInMonth_pos next 1) (by decide) (by decide)
      have hlast := ih hlt
      omega
    · rw [dayNumber_next_year hyear]
      exact Int.lt_succ _

theorem IsDay.le_december {year month day : Nat} (h : IsDay year month day) :
    dayNumber year month day ≤ dayNumber year 12 31 := by
  have hday := h.le_daysInMonth
  obtain ⟨-, ⟨hfirst, hlast⟩, -⟩ := h
  rcases Nat.lt_or_eq_of_le hlast with hlt | rfl
  · exact le_of_lt (dayNumber_lt_of_month_lt hfirst hday (by decide : 1 ≤ 31) hlt)
  · exact dayNumber_le year 12 hday

theorem IsDay.january_le {year month day : Nat} (h : IsDay year month day) :
    dayNumber year 1 1 ≤ dayNumber year month day := by
  obtain ⟨-, ⟨hfirst, -⟩, hday, -⟩ := h
  rcases Nat.lt_or_eq_of_le hfirst with hlt | rfl
  · exact le_of_lt (dayNumber_lt_of_month_lt (by decide) (daysInMonth_pos year 1) hday hlt)
  · exact dayNumber_le year 1 hday

variable {year month day year' month' day' : Nat}

theorem dayNumber_lt (h : IsDay year month day) (h' : IsDay year' month' day')
    (hlt : year < year' ∨ year = year' ∧ (month < month' ∨ month = month' ∧ day < day')) :
    dayNumber year month day < dayNumber year' month' day' := by
  rcases hlt with hyear | ⟨rfl, hmonth | ⟨rfl, hday⟩⟩
  · calc
      dayNumber year month day ≤ dayNumber year 12 31 := h.le_december
      _ < dayNumber year' 1 1 := december_lt_january h.1.1 hyear
      _ ≤ dayNumber year' month' day' := h'.january_le
  · exact dayNumber_lt_of_month_lt h.2.1.1 h.le_daysInMonth h'.2.2.1 hmonth
  · have hnext := dayNumber_next_day year month day
    have hle := dayNumber_le year month (Nat.succ_le_of_lt hday)
    exact lt_of_lt_of_le (hnext ▸ Int.lt_succ _) hle

theorem dayNumber_lt_iff (h : IsDay year month day) (h' : IsDay year' month' day') :
    dayNumber year month day < dayNumber year' month' day' ↔
      year < year' ∨ year = year' ∧ (month < month' ∨ month = month' ∧ day < day') := by
  constructor
  · intro hlt
    by_contra hnot
    have hge : (year' < year ∨ year' = year ∧ (month' < month ∨ month' = month ∧ day' < day)) ∨
        (year = year' ∧ month = month' ∧ day = day') := by omega
    rcases hge with hgt | ⟨rfl, rfl, rfl⟩
    · exact lt_asymm hlt (dayNumber_lt h' h hgt)
    · exact lt_irrefl _ hlt
  · exact dayNumber_lt h h'

theorem dayNumber_eq_iff (h : IsDay year month day) (h' : IsDay year' month' day') :
    dayNumber year month day = dayNumber year' month' day' ↔
      year = year' ∧ month = month' ∧ day = day' := by
  constructor
  · intro heq
    have hle := mt (dayNumber_lt_iff h h').mpr (not_lt_of_ge (le_of_eq heq.symm))
    have hge := mt (dayNumber_lt_iff h' h).mpr (not_lt_of_ge (le_of_eq heq))
    omega
  · rintro ⟨rfl, rfl, rfl⟩
    rfl

end WorkWatch.Time
