import WorkWatch.Decimal.Layout
import WorkWatch.Proofs.Decimal.Point

/-! The shortest digits of a double. Whatever grid the digits are taken from, they denote a number
that is rounded to the double again; and with seventeen places a grid is so fine that one of the two
points around the double is. -/

namespace WorkWatch.Decimal

open Double (Canonical RoundsTo lowEnd highEnd lowEnd_eq highEnd_eq magnitude roundsTo_self
  two_zpow_pos zpow_eq_ite twoTo_pos cast_twoTo)
open WorkWatch.Text (digitsOf)

/-! What digits denote. -/

/-- The number that digits with a point denote. -/
noncomputable def Digits.amount (d : Digits) : ℝ :=
  amountAt d.value (d.point - (digitsOf d.value).length)

theorem ten_zpow_sub (a : Int) (k : Nat) : (10 : ℝ) ^ (a - k) * 10 ^ k = 10 ^ a := by
  rw [← zpow_natCast, ← zpow_add₀ (by norm_num), sub_add_cancel]

theorem length_digitsOf_ten {value : Nat} (hzero : value % 10 = 0) (hpos : value ≠ 0) :
    (digitsOf value).length = (digitsOf (value / 10)).length + 1 := by
  unfold digitsOf
  rw [Nat.toDigits_of_base_le (by decide) (by omega), List.length_append]
  rfl

theorem dropZeros_ne_zero (bound : Nat) {value : Nat} (h : value ≠ 0) :
    dropZeros bound value ≠ 0 := by
  induction bound generalizing value with
  | zero => exact h
  | succ bound ih =>
    rw [dropZeros]
    split
    · exact ih (by omega)
    · exact h

theorem amount_dropZeros (bound : Nat) {value : Nat} (h : value ≠ 0) (point : Int) :
    Digits.amount ⟨dropZeros bound value, point⟩ = Digits.amount ⟨value, point⟩ := by
  induction bound generalizing value with
  | zero => rfl
  | succ bound ih =>
    rw [dropZeros]
    split
    · rename_i hzero
      rw [ih (by omega)]
      have hvalue : (value : ℝ) = (value / 10 : Nat) * 10 := by
        have : value = value / 10 * 10 := by omega
        exact_mod_cast this
      unfold Digits.amount amountAt
      dsimp only
      rw [length_digitsOf_ten hzero h, hvalue, Nat.cast_add_one, ← sub_sub,
        zpow_sub_one₀ (by norm_num)]
      field_simp
    · rfl

theorem onGrid_value_ne_zero (count : Nat) {value : Nat} (h : value ≠ 0) (point : Int) :
    (Digits.onGrid count value point).value ≠ 0 := dropZeros_ne_zero (count + 1) h

theorem amount_onGrid {count value : Nat} (hcount : 0 < count) (hlow : tenTo (count - 1) ≤ value)
    (hhigh : value ≤ tenTo count) (point : Int) :
    (Digits.onGrid count value point).amount = value * 10 ^ (point - count) := by
  have hne : value ≠ 0 := Nat.ne_of_gt (Nat.lt_of_lt_of_le (tenTo_pos _) hlow)
  have hlength {k : Nat} (hk : 0 < k) : (digitsOf value).length ≤ k ↔ value < tenTo k :=
    Nat.length_toDigits_le_iff (by decide) hk
  unfold Digits.onGrid
  rw [amount_dropZeros _ hne]
  unfold Digits.amount amountAt
  dsimp only
  -- The value has as many digits as the grid has places, one more only if it has grown.
  congr 2
  split
  · rename_i hgrown
    have hmore := (hlength (Nat.succ_pos count)).mpr (by
      rw [hgrown]
      exact Nat.pow_lt_pow_right (by decide) (Nat.lt_succ_self count))
    have hnot := mt (hlength hcount).mp (by omega)
    omega
  · have hmost := (hlength hcount).mpr (by omega)
    by_cases hone : count = 1
    · have hsome : (digitsOf value).length ≠ 0 :=
        Nat.ne_of_gt (List.length_pos_iff.mpr (Nat.toDigits_ne_nil))
      omega
    · have hleast := mt (hlength (k := count - 1) (by omega)).mp (by omega)
      omega

/-! The interval of a double. -/

theorem up_div_down (e : Int) :
    ((twoTo e.toNat : Nat) : ℝ) / (twoTo (-e).toNat : Nat) = 2 ^ e := by
  rw [cast_twoTo, cast_twoTo, zpow_eq_ite]
  split
  · have hdown : (-e).toNat = 0 := by omega
    rw [hdown, pow_zero, div_one]
  · have hup : e.toNat = 0 := by omega
    rw [hup, pow_zero, one_div]

theorem den_of_pos (m : Nat) (e : Int) : (0 : ℝ) < ((Interval.of m e).den : Nat) :=
  Nat.cast_pos.mpr (Nat.mul_pos (by decide) (twoTo_pos _))

theorem quarters_div_den (quarters m : Nat) (e : Int) :
    ((quarters * twoTo e.toNat : Nat) : ℝ) / (Interval.of m e).den = quarters / 4 * 2 ^ e := by
  have hden : (Interval.of m e).den = 4 * twoTo (-e).toNat := rfl
  rw [hden, ← up_div_down e, Nat.cast_mul, Nat.cast_mul]
  push_cast
  ring

theorem value_div_den (m : Nat) (e : Int) :
    ((Interval.of m e).value : ℝ) / (Interval.of m e).den = magnitude m e := by
  have hvalue : (Interval.of m e).value = 4 * m * twoTo e.toNat := rfl
  rw [hvalue, quarters_div_den]
  unfold magnitude
  push_cast
  ring

theorem low_div_den {m : Nat} (hm : 0 < m) (e : Int) :
    ((Interval.of m e).low : ℝ) / (Interval.of m e).den = lowEnd m e := by
  have hbinade : binade = 2 ^ 52 := rfl
  have hleast : leastExponent = -1074 := rfl
  have hlow : (Interval.of m e).low =
      (4 * m - if m = 2 ^ 52 ∧ -1074 < e then 1 else 2) * twoTo e.toNat := by
    unfold Interval.of
    rw [hbinade, hleast]
    simp only [Bool.and_eq_true, decide_eq_true_eq]
  rw [hlow, quarters_div_den, lowEnd_eq]
  split
  · rw [Nat.cast_sub (by omega)]
    push_cast
    ring
  · rw [Nat.cast_sub (by omega)]
    push_cast
    ring

theorem high_div_den (m : Nat) (e : Int) :
    ((Interval.of m e).high : ℝ) / (Interval.of m e).den = highEnd m e := by
  have hhigh : (Interval.of m e).high = (4 * m + 2) * twoTo e.toNat := rfl
  rw [hhigh, quarters_div_den, highEnd_eq]
  push_cast
  ring

/-- The interval has the numbers that are rounded to its double. -/
theorem has_iff {m : Nat} (hm : 0 < m) (e : Int) (n : Nat) (exponent : Int) :
    (Interval.of m e).has n exponent = true ↔ RoundsTo (n * 10 ^ exponent) m e := by
  have hden := den_of_pos m e
  -- Both ends are compared over a common denominator, which the interval and the scale share.
  obtain ⟨point, hpoint⟩ : ∃ point, point = if 0 ≤ exponent
      then n * tenTo exponent.toNat * (Interval.of m e).den else n * (Interval.of m e).den :=
    ⟨_, rfl⟩
  obtain ⟨scale, hscale⟩ : ∃ scale, scale = if 0 ≤ exponent then 1 else tenTo (-exponent).toNat :=
    ⟨_, rfl⟩
  have hscalepos : (0 : ℝ) < scale := by
    rw [hscale]
    split
    · exact_mod_cast Nat.one_pos
    · exact Nat.cast_pos.mpr (tenTo_pos _)
  have hsame : (point : ℝ) = n * 10 ^ exponent * (Interval.of m e).den * scale := by
    rw [hpoint, hscale, zpow_eq_ite]
    split
    · push_cast
      rw [cast_tenTo, mul_one]
    · push_cast
      rw [cast_tenTo]
      field_simp
  have hle (bound : Nat) : bound * scale ≤ point ↔
      (bound : ℝ) / (Interval.of m e).den ≤ n * 10 ^ exponent := by
    rw [div_le_iff₀ hden, ← mul_le_mul_iff_left₀ hscalepos, ← hsame]
    exact_mod_cast Iff.rfl
  have hge (bound : Nat) : point ≤ bound * scale ↔
      n * 10 ^ exponent ≤ (bound : ℝ) / (Interval.of m e).den := by
    rw [le_div_iff₀ hden, ← mul_le_mul_iff_left₀ hscalepos, ← hsame]
    exact_mod_cast Iff.rfl
  have hhas : (Interval.of m e).has n exponent = true ↔
      if m % 2 = 0 then (Interval.of m e).low * scale ≤ point ∧ point ≤ (Interval.of m e).high * scale
      else (Interval.of m e).low * scale < point ∧ point < (Interval.of m e).high * scale := by
    have hclosed : (Interval.of m e).closed = (m % 2 == 0) := rfl
    unfold Interval.has
    rw [hclosed, ← hpoint, ← hscale]
    by_cases heven : m % 2 = 0 <;> simp [heven]
  rw [hhas, RoundsTo, ← low_div_den hm, ← high_div_den]
  split
  · rw [hle, hge]
  · rw [← not_le, hge, not_le, ← not_le (b := point), hle, not_le]

/-- Near enough to a double every number is rounded to it. -/
theorem roundsTo_of_near {m : Nat} {e : Int} (hc : Canonical m e) {y : ℝ}
    (h : |y - magnitude m e| * 2 ^ 54 < magnitude m e) : RoundsTo y m e := by
  have hpos := two_zpow_pos e
  have hlt : (m : ℝ) < 2 ^ 53 := by exact_mod_cast hc.lt
  have hlow : magnitude m e ≤ (magnitude m e - lowEnd m e) * 2 ^ 54 := by
    rw [lowEnd_eq, magnitude]
    split
    · rename_i hpower
      rw [hpower.1]
      push_cast
      linarith
    · nlinarith
  have hhigh : magnitude m e ≤ (highEnd m e - magnitude m e) * 2 ^ 54 := by
    rw [highEnd_eq, magnitude]
    nlinarith
  have habove : lowEnd m e < y := by
    have hnear := neg_abs_le (y - magnitude m e)
    linarith
  have hbelow : y < highEnd m e := by
    have hnear := le_abs_self (y - magnitude m e)
    linarith
  unfold RoundsTo
  split
  · exact ⟨habove.le, hbelow.le⟩
  · exact ⟨habove, hbelow⟩

/-! Points of a grid. -/

theorem divNearest_eq_floor {n d : Nat} (hd : 0 < d) (h : n % d = 0) : divNearest n d = n / d := by
  unfold divNearest
  simp [h, hd]

theorem divNearest_eq_floor_or (n d : Nat) :
    divNearest n d = n / d ∨ divNearest n d = n / d + 1 := by
  unfold divNearest
  dsimp only
  split
  · exact Or.inl rfl
  · exact Or.inr rfl

/-- The point below the double, or on it. -/
def Interval.below (i : Interval) (exponent : Int) : Nat :=
  (scaledTen i.value i.den exponent).1 / (scaledTen i.value i.den exponent).2

/-- The point above the double, or on it. -/
def Interval.above (i : Interval) (exponent : Int) : Nat :=
  if (scaledTen i.value i.den exponent).1 % (scaledTen i.value i.den exponent).2 = 0
  then i.below exponent else i.below exponent + 1

theorem has_of_pick {i : Interval} (hden : 0 < i.den) {point : Int} {count value : Nat}
    (h : i.pick? point count = some value) :
    i.has value (point - count) = true ∧
      (value = i.below (point - count) ∨ value = i.above (point - count)) := by
  have hd := scaledTen_pos i.value hden (point - count)
  unfold Interval.above Interval.below
  unfold Interval.pick? at h
  dsimp only at h
  generalize scaledTen i.value i.den (point - count) = fraction at h hd
  obtain ⟨n, d⟩ := fraction
  dsimp only at h hd ⊢
  split at h
  · rename_i hlower hupper
    obtain rfl := Option.some.inj h
    by_cases hexact : n % d = 0
    · rw [divNearest_eq_floor hd hexact]
      exact ⟨hlower, Or.inl rfl⟩
    · rw [if_neg hexact] at hupper ⊢
      rcases divNearest_eq_floor_or n d with hfloor | hceil
      · rw [hfloor]
        exact ⟨hlower, Or.inl rfl⟩
      · rw [hceil]
        exact ⟨hupper, Or.inr rfl⟩
  · rename_i hlower _
    obtain rfl := Option.some.inj h
    exact ⟨hlower, Or.inl rfl⟩
  · rename_i _ hupper
    obtain rfl := Option.some.inj h
    exact ⟨hupper, Or.inr rfl⟩
  · cases h

theorem pick_isSome {i : Interval} {point : Int} {count : Nat}
    (h : i.has (i.below (point - count)) (point - count) = true ∨
      i.has (i.above (point - count)) (point - count) = true) :
    ∃ value, i.pick? point count = some value := by
  unfold Interval.above Interval.below at h
  unfold Interval.pick?
  dsimp only
  split
  · exact ⟨_, rfl⟩
  · exact ⟨_, rfl⟩
  · exact ⟨_, rfl⟩
  · rename_i hlower hupper
    rw [hlower, hupper] at h
    exact absurd h (by decide)

/-- The first grid that has a point in the interval gives the digits. -/
theorem search_eq {i : Interval} {point : Int} {tries count : Nat}
    (h : ∃ places value, count ≤ places ∧ places < count + tries ∧
      i.pick? point places = some value) :
    ∃ places value, count ≤ places ∧ i.pick? point places = some value ∧
      i.search point tries count = .onGrid places value point := by
  induction tries generalizing count with
  | zero =>
    obtain ⟨places, value, hle, hlt, -⟩ := h
    omega
  | succ tries ih =>
    rw [Interval.search]
    cases hpick : i.pick? point count with
    | some value => exact ⟨count, value, Nat.le_refl _, hpick, rfl⟩
    | none =>
      obtain ⟨places, value, hle, hlt, hfound⟩ := h
      have hne : places ≠ count := by
        rintro rfl
        rw [hpick] at hfound
        cases hfound
      have hlater : ∃ places value, count + 1 ≤ places ∧ places < count + 1 + tries ∧
          i.pick? point places = some value := ⟨places, value, by omega, by omega, hfound⟩
      obtain ⟨places', value', hle', hfound', hsearch⟩ :=
        ih hlater
      exact ⟨places', value', by omega, hfound', hsearch⟩

theorem above_eq (i : Interval) (exponent : Int) :
    i.above exponent = i.below exponent ∨ i.above exponent = i.below exponent + 1 := by
  unfold Interval.above
  split
  · exact Or.inl rfl
  · exact Or.inr rfl

/-- The double in units of the grid stands between the two points around it. -/
theorem between_points (m : Nat) (e exponent : Int) :
    ((Interval.of m e).below exponent : ℝ) ≤ magnitude m e / 10 ^ exponent ∧
      magnitude m e / 10 ^ exponent ≤ (Interval.of m e).above exponent ∧
      magnitude m e / 10 ^ exponent < (Interval.of m e).below exponent + 1 := by
  have hratio := scaledTen_ratio (Interval.of m e).value (Interval.of m e).den exponent
  have hd := scaledTen_pos (Interval.of m e).value (Nat.cast_pos.mp (den_of_pos m e)) exponent
  rw [value_div_den] at hratio
  unfold Interval.above Interval.below
  rw [← hratio]
  generalize scaledTen (Interval.of m e).value (Interval.of m e).den exponent = fraction at hd
  obtain ⟨n, d⟩ := fraction
  dsimp only at hd ⊢
  have hpos : (0 : ℝ) < d := Nat.cast_pos.mpr hd
  have hsum := Nat.div_add_mod n d
  have hlt : n < (n / d + 1) * d := by
    have := Nat.mod_lt n hd
    rw [Nat.succ_mul, Nat.mul_comm]
    omega
  refine ⟨?_, ?_, ?_⟩
  · rw [le_div_iff₀ hpos]
    exact_mod_cast Nat.div_mul_le_self n d
  · rw [div_le_iff₀ hpos]
    split
    · rename_i hexact
      rw [hexact, Nat.add_zero, Nat.mul_comm] at hsum
      exact_mod_cast hsum.ge
    · exact_mod_cast hlt.le
  · rw [div_lt_iff₀ hpos]
    exact_mod_cast hlt

section Grid

variable {m : Nat} {e point : Int} (hpoint : (10 : ℝ) ^ (point - 1) ≤ magnitude m e ∧
  magnitude m e < 10 ^ point)

include hpoint

/-- In units of a grid of some places the double has as many digits. -/
theorem units_bounds {count : Nat} (hcount : 0 < count) :
    (10 : ℝ) ^ (count - 1) ≤ magnitude m e / 10 ^ (point - count) ∧
      magnitude m e / 10 ^ (point - count) < 10 ^ count := by
  have hpos := ten_zpow_pos (point - count)
  constructor
  · rw [le_div_iff₀ hpos]
    refine le_of_eq_of_le ?_ hpoint.1
    rw [← zpow_natCast, ← zpow_add₀ (by norm_num)]
    congr 1
    omega
  · rw [div_lt_iff₀ hpos, mul_comm, ten_zpow_sub]
    exact hpoint.2

theorem points_bounds {count : Nat} (hcount : 0 < count) :
    tenTo (count - 1) ≤ (Interval.of m e).below (point - count) ∧
      (Interval.of m e).above (point - count) ≤ tenTo count := by
  obtain ⟨hbelow, -, hnext⟩ := between_points m e (point - count)
  obtain ⟨hlow, hhigh⟩ := units_bounds hpoint hcount
  rw [← cast_tenTo] at hlow hhigh
  have hfirst : tenTo (count - 1) < (Interval.of m e).below (point - count) + 1 := by
    exact_mod_cast hlow.trans_lt hnext
  have hlast : (Interval.of m e).below (point - count) < tenTo count := by
    exact_mod_cast hbelow.trans_lt hhigh
  have habove := above_eq (Interval.of m e) (point - count)
  omega

/-- With seventeen places the nearer of the two points around the double lies in the interval. -/
theorem pick_seventeen (hc : Canonical m e) (hm : 0 < m) :
    ∃ value, (Interval.of m e).pick? point 17 = some value := by
  have hpos := ten_zpow_pos (point - 17)
  obtain ⟨hbelow, habove, -⟩ := between_points m e (point - 17)
  have hmany : (10 : ℝ) ^ 16 ≤ magnitude m e / 10 ^ (point - 17) :=
    (units_bounds hpoint (show 0 < 17 by decide)).1
  -- Half a unit of seventeen places is less than the size of the double over `2 ^ 54`.
  have hnear {n : Nat} (h : |(n : ℝ) - magnitude m e / 10 ^ (point - 17)| ≤ 1 / 2) :
      (Interval.of m e).has n (point - 17) = true := by
    refine (has_iff hm e n _).mpr (roundsTo_of_near hc ?_)
    obtain ⟨x, hx⟩ : ∃ x, x = magnitude m e / 10 ^ (point - 17) := ⟨_, rfl⟩
    rw [← hx] at h hmany
    have hmagnitude : magnitude m e = x * 10 ^ (point - 17) := by
      rw [hx, div_mul_cancel₀ _ hpos.ne']
    rw [hmagnitude, ← sub_mul, abs_mul, abs_of_pos hpos, mul_right_comm]
    apply mul_lt_mul_of_pos_right _ hpos
    linarith
  apply pick_isSome
  change (Interval.of m e).has ((Interval.of m e).below (point - 17)) (point - 17) = true ∨
    (Interval.of m e).has ((Interval.of m e).above (point - 17)) (point - 17) = true
  rcases above_eq (Interval.of m e) (point - 17) with hsame | hnext
  · left
    rw [hsame] at habove
    refine hnear ?_
    rw [le_antisymm habove hbelow, sub_self, abs_zero]
    norm_num
  · rw [hnext] at habove ⊢
    push_cast at habove
    rcases le_total (magnitude m e / 10 ^ (point - 17))
      ((Interval.of m e).below (point - 17) + 1 / 2) with hhalf | hhalf
    · left
      refine hnear (abs_le.mpr ⟨?_, ?_⟩) <;> linarith
    · right
      refine hnear (abs_le.mpr ⟨?_, ?_⟩) <;> (push_cast; linarith)

end Grid

/-- The shortest digits of a double are rounded to it. -/
theorem shortest_roundsTo {m : Nat} {e : Int} (hc : Canonical m e) (he : e ≤ 971) (hm : 0 < m) :
    (shortest m e).value ≠ 0 ∧ RoundsTo (shortest m e).amount m e := by
  have hden : 0 < (Interval.of m e).den := Nat.cast_pos.mp (den_of_pos m e)
  have hpoint : (10 : ℝ) ^ (pointOf (Interval.of m e).value (Interval.of m e).den - 1) ≤
      magnitude m e ∧ magnitude m e < 10 ^ pointOf (Interval.of m e).value (Interval.of m e).den := by
    have hvalue : 0 < (Interval.of m e).value :=
      Nat.mul_pos (Nat.mul_pos (by decide) hm) (twoTo_pos _)
    have hone : (1 : ℝ) ≤ m := Nat.one_le_cast.mpr hm
    have hlt : (m : ℝ) ≤ 2 ^ 53 := by exact_mod_cast hc.lt.le
    rw [← value_div_den]
    apply pointOf_spec hvalue hden
    · rw [value_div_den]
      calc (2 : ℝ) ^ (-1074 : Int) ≤ 2 ^ e := Double.two_zpow_le hc.least
        _ = 1 * 2 ^ e := (one_mul _).symm
        _ ≤ magnitude m e := mul_le_mul_of_nonneg_right hone (two_zpow_pos e).le
    · rw [value_div_den]
      calc magnitude m e ≤ 2 ^ 53 * 2 ^ e := mul_le_mul_of_nonneg_right hlt (two_zpow_pos e).le
        _ = 2 ^ (e + (53 : Nat)) := (Double.two_zpow_add e 53).symm
        _ ≤ 2 ^ (1024 : Int) := Double.two_zpow_le (by omega)
  unfold shortest
  dsimp only
  generalize pointOf (Interval.of m e).value (Interval.of m e).den = point at hpoint
  -- Seventeen places have a point, so the search ends at the latest there, with a point of its own.
  obtain ⟨value, hvalue⟩ := pick_seventeen hpoint hc hm
  have hseventeen : ∃ places value, 1 ≤ places ∧ places < 1 + 17 ∧
      (Interval.of m e).pick? point places = some value :=
    ⟨17, value, by decide, by decide, hvalue⟩
  obtain ⟨places, value, hplaces, hpick, hsearch⟩ := search_eq hseventeen
  obtain ⟨hhas, hone⟩ := has_of_pick hden hpick
  obtain ⟨hlow, hhigh⟩ : tenTo (places - 1) ≤ value ∧ value ≤ tenTo places := by
    have hbounds := points_bounds hpoint hplaces
    have habove := above_eq (Interval.of m e) (point - places)
    omega
  rw [hsearch, amount_onGrid hplaces hlow hhigh]
  exact ⟨onGrid_value_ne_zero _ (Nat.ne_of_gt (Nat.lt_of_lt_of_le (tenTo_pos _) hlow)) _,
    (has_iff hm e value _).mp hhas⟩

end WorkWatch.Decimal
