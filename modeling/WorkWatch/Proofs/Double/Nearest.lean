import WorkWatch.Proofs.Double.Arithmetic
import WorkWatch.Proofs.Double.Rank

/-! The double nearest to a fraction. Every number between the ends of the interval of a double, and
the ends themselves if its mantissa is even, is rounded to that double. -/

namespace WorkWatch.Double

open Decimal (divNearest)

theorem two_zpow_pos (e : Int) : (0 : ℝ) < 2 ^ e := zpow_pos two_pos e

theorem two_zpow_le {a b : Int} (h : a ≤ b) : (2 : ℝ) ^ a ≤ 2 ^ b :=
  zpow_le_zpow_right₀ one_le_two h

theorem two_zpow_lt_iff {a b : Int} : (2 : ℝ) ^ a < 2 ^ b ↔ a < b :=
  zpow_lt_zpow_iff_right₀ one_lt_two

theorem two_zpow_add (a : Int) (k : Nat) : (2 : ℝ) ^ (a + k) = 2 ^ k * 2 ^ a := by
  rw [zpow_add₀ two_ne_zero, zpow_natCast, mul_comm]

/-- A power with an exponent of either sign, by powers of natural numbers. -/
theorem zpow_eq_ite {b : ℝ} (e : Int) :
    b ^ e = if 0 ≤ e then b ^ e.toNat else (b ^ (-e).toNat)⁻¹ := by
  split
  · rename_i h
    rw [← zpow_natCast, Int.toNat_of_nonneg h]
  · rename_i h
    rw [← zpow_natCast, Int.toNat_of_nonneg (by omega), zpow_neg, inv_inv]

theorem cast_twoTo (k : Nat) : ((Decimal.twoTo k : Nat) : ℝ) = 2 ^ k := Nat.cast_pow 2 k

theorem twoTo_pos (k : Nat) : 0 < Decimal.twoTo k := Nat.two_pow_pos k

theorem scaled_pos (num : Nat) {den : Nat} (hden : 0 < den) (e : Int) :
    0 < (Decimal.scaled num den e).2 := by
  unfold Decimal.scaled
  split
  · exact Nat.mul_pos hden (twoTo_pos _)
  · exact hden

theorem scaled_ratio (num den : Nat) (e : Int) :
    ((Decimal.scaled num den e).1 : ℝ) / (Decimal.scaled num den e).2 = num / den / 2 ^ e := by
  rw [zpow_eq_ite]
  unfold Decimal.scaled
  split
  · rw [Nat.cast_mul, cast_twoTo, div_div]
  · rw [Nat.cast_mul, cast_twoTo, div_inv_eq_mul]
    ring

theorem ratio_bounds {num den : Nat} (hnum : 0 < num) (hden : 0 < den) :
    (2 : ℝ) ^ ((num.log2 : Int) - den.log2 - 1) < num / den ∧
      (num : ℝ) / den < 2 ^ ((num.log2 : Int) - den.log2 + 1) := by
  have hpow (k : Nat) : ((2 ^ k : Nat) : ℝ) = 2 ^ (k : Int) := by
    rw [zpow_natCast]
    push_cast
    rfl
  have hlow {n : Nat} (hn : 0 < n) : (2 : ℝ) ^ (n.log2 : Int) ≤ n := by
    rw [← hpow]
    exact Nat.cast_le.mpr (Nat.log2_self_le (Nat.ne_of_gt hn))
  have hhigh (n : Nat) : (n : ℝ) < 2 ^ ((n.log2 : Int) + 1) := by
    have hlt : n < 2 ^ (n.log2 + 1) := Nat.lt_log2_self
    exact_mod_cast hlt
  have hdenpos : (0 : ℝ) < den := Nat.cast_pos.mpr hden
  constructor
  · rw [lt_div_iff₀ hdenpos]
    calc (2 : ℝ) ^ ((num.log2 : Int) - den.log2 - 1) * den
        < 2 ^ ((num.log2 : Int) - den.log2 - 1) * 2 ^ ((den.log2 : Int) + 1) :=
          mul_lt_mul_of_pos_left (hhigh den) (two_zpow_pos _)
      _ = 2 ^ (num.log2 : Int) := by
          rw [← zpow_add₀ two_ne_zero]
          congr 1
          omega
      _ ≤ num := hlow hnum
  · rw [div_lt_iff₀ hdenpos]
    calc (num : ℝ) < 2 ^ ((num.log2 : Int) + 1) := hhigh num
      _ = 2 ^ ((num.log2 : Int) - den.log2 + 1) * 2 ^ (den.log2 : Int) := by
          rw [← zpow_add₀ two_ne_zero]
          congr 1
          omega
      _ ≤ 2 ^ ((num.log2 : Int) - den.log2 + 1) * den :=
          mul_le_mul_of_nonneg_left (hlow hden) (two_zpow_pos _).le

/-- The exponent leaves a mantissa of at most 53 bits, and of no fewer unless it is the least
one. -/
structure Fits (q : ℝ) (e : Int) : Prop where
  least : -1074 ≤ e
  lt : q < 2 ^ 53 * 2 ^ e
  full : e = -1074 ∨ 2 ^ 52 * 2 ^ e ≤ q

theorem fits_exponentFor {num den : Nat} (hnum : 0 < num) (hden : 0 < den) :
    Fits (num / den) (Decimal.exponentFor num den) := by
  have hleast : Decimal.leastExponent = -1074 := rfl
  have hbinade : 2 * Decimal.binade = 2 ^ 53 := rfl
  obtain ⟨hlow, hhigh⟩ := ratio_bounds hnum hden
  unfold Decimal.exponentFor
  rw [hleast, hbinade]
  dsimp only
  obtain ⟨low, hdef⟩ : ∃ low, low = max ((num.log2 : Int) - den.log2 - 53) (-1074) := ⟨_, rfl⟩
  rw [← hdef]
  have hratio := scaled_ratio num den low
  have hpos : (0 : ℝ) < (Decimal.scaled num den low).2 := Nat.cast_pos.mpr (scaled_pos num hden low)
  generalize Decimal.scaled num den low = fraction at hratio hpos
  obtain ⟨n, d⟩ := fraction
  dsimp only at hratio hpos ⊢
  rw [div_eq_div_iff hpos.ne' (two_zpow_pos low).ne'] at hratio
  have hq : (num : ℝ) / den = n / d * 2 ^ low := by
    rw [div_mul_eq_mul_div, hratio, mul_div_cancel_right₀ _ hpos.ne']
  split
  · -- The first guess is one too small: a bit more than 53 is left.
    rename_i hfull
    have hmany : (2 : ℝ) ^ 53 ≤ n / d := by
      rw [le_div_iff₀ hpos]
      exact_mod_cast (Nat.le_div_iff_mul_le (Nat.cast_pos.mp hpos)).mp hfull
    refine ⟨by omega, ?_, Or.inr ?_⟩
    · calc (num : ℝ) / den < 2 ^ ((num.log2 : Int) - den.log2 + 1) := hhigh
        _ ≤ 2 ^ (low + 1 + (53 : Nat)) := two_zpow_le (by omega)
        _ = 2 ^ 53 * 2 ^ (low + 1) := two_zpow_add _ _
    · calc (2 : ℝ) ^ 52 * 2 ^ (low + 1) = 2 ^ 53 * 2 ^ low := by
            rw [zpow_add_one₀ two_ne_zero]
            ring
        _ ≤ (n : ℝ) / d * 2 ^ low := mul_le_mul_of_nonneg_right hmany (two_zpow_pos low).le
        _ = (num : ℝ) / den := hq.symm
  · rename_i hfew
    have hfew : (n : ℝ) / d < 2 ^ 53 := by
      rw [div_lt_iff₀ hpos]
      exact_mod_cast (Nat.div_lt_iff_lt_mul (Nat.cast_pos.mp hpos)).mp (Nat.lt_of_not_le hfew)
    refine ⟨by omega, ?_, ?_⟩
    · rw [hq]
      exact mul_lt_mul_of_pos_right hfew (two_zpow_pos low)
    · by_cases hexp : low = -1074
      · exact Or.inl hexp
      · right
        calc (2 : ℝ) ^ 52 * 2 ^ low = 2 ^ (low + (52 : Nat)) := (two_zpow_add low 52).symm
          _ ≤ 2 ^ ((num.log2 : Int) - den.log2 - 1) := two_zpow_le (by omega)
          _ ≤ (num : ℝ) / den := hlow.le

/-- The nearest integer, with the halves doubled. -/
theorem divNearest_eq_of_twice {n d k : Nat} (hd : 0 < d) (hlow : 2 * (k * d) ≤ 2 * n + d)
    (hhigh : 2 * n ≤ 2 * (k * d) + d)
    (htie : 2 * (k * d) = 2 * n + d ∨ 2 * n = 2 * (k * d) + d → k % 2 = 0) :
    divNearest n d = k := by
  have hsum := Nat.div_add_mod n d
  have hlt := Nat.mod_lt n hd
  have hmono {a b : Nat} (h : a ≤ b) : a * d ≤ b * d := Nat.mul_le_mul_right d h
  rw [Nat.mul_comm] at hsum
  unfold divNearest
  dsimp only
  generalize n / d = q at hsum
  generalize n % d = r at hsum hlt
  have hsucc : (q + 1) * d = q * d + d := Nat.succ_mul q d
  -- The candidates are the quotient and the number after it.
  rcases Nat.lt_trichotomy k q with hless | rfl | hmore
  · have := hmono (Nat.succ_le_of_lt hless)
    rw [Nat.succ_mul] at this
    omega
  · split
    · rfl
    · rename_i hup
      simp only [Bool.or_eq_true, Bool.and_eq_true, decide_eq_true_eq, beq_iff_eq] at hup
      omega
  · rcases Nat.lt_or_eq_of_le (Nat.succ_le_of_lt hmore) with hmuch | rfl
    · have := hmono (Nat.succ_le_of_lt hmuch)
      rw [Nat.succ_mul, Nat.succ_mul] at this
      omega
    · rw [Nat.succ_eq_add_one, hsucc] at hlow hhigh htie
      rw [if_neg]
      simp only [Bool.or_eq_true, Bool.and_eq_true, decide_eq_true_eq, beq_iff_eq]
      omega

/-- The nearest integer is the one that is at most half a unit away, the even one of two. -/
theorem divNearest_eq {n d k : Nat} (hd : 0 < d) (hlow : (k : ℝ) - 1 / 2 ≤ n / d)
    (hhigh : (n : ℝ) / d ≤ k + 1 / 2)
    (htie : (n : ℝ) / d = k - 1 / 2 ∨ (n : ℝ) / d = k + 1 / 2 → k % 2 = 0) :
    divNearest n d = k := by
  have hpos : (0 : ℝ) < d := Nat.cast_pos.mpr hd
  rw [le_div_iff₀ hpos] at hlow
  rw [div_le_iff₀ hpos] at hhigh
  rw [div_eq_iff hpos.ne', div_eq_iff hpos.ne'] at htie
  have hlow' : (2 : ℝ) * (k * d) ≤ 2 * n + d := by linarith
  have hhigh' : (2 : ℝ) * n ≤ 2 * (k * d) + d := by linarith
  refine divNearest_eq_of_twice hd (by exact_mod_cast hlow') (by exact_mod_cast hhigh') ?_
  rintro (h | h)
  · have hreal : (2 : ℝ) * (k * d) = 2 * n + d := by exact_mod_cast h
    exact htie (Or.inl (by linarith))
  · have hreal : (2 : ℝ) * n = 2 * (k * d) + d := by exact_mod_cast h
    exact htie (Or.inr (by linarith))

/-- The end of the numbers below `m * 2 ^ e` that are rounded to it: half a unit away, but a quarter
below a power of two, where the doubles are twice as dense. -/
noncomputable def lowEnd (m : Nat) (e : Int) : ℝ :=
  magnitude m e - magnitude 1 (if m = 2 ^ 52 ∧ -1074 < e then e - 2 else e - 1)

/-- The end of the numbers above `m * 2 ^ e` that are rounded to it. -/
noncomputable def highEnd (m : Nat) (e : Int) : ℝ := magnitude m e + magnitude 1 (e - 1)

theorem lowEnd_eq (m : Nat) (e : Int) :
    lowEnd m e = (m - if m = 2 ^ 52 ∧ -1074 < e then 1 / 4 else 1 / 2) * 2 ^ e := by
  unfold lowEnd magnitude
  split
  · rw [zpow_sub₀ two_ne_zero, Nat.cast_one]
    ring
  · rw [zpow_sub_one₀ two_ne_zero, Nat.cast_one]
    ring

theorem highEnd_eq (m : Nat) (e : Int) : highEnd m e = (m + 1 / 2) * 2 ^ e := by
  unfold highEnd magnitude
  rw [zpow_sub_one₀ two_ne_zero, Nat.cast_one]
  ring

/-- The number lies in the interval of the double `m * 2 ^ e`, the ends of which belong to it if the
mantissa is even. -/
def RoundsTo (q : ℝ) (m : Nat) (e : Int) : Prop :=
  if m % 2 = 0 then lowEnd m e ≤ q ∧ q ≤ highEnd m e else lowEnd m e < q ∧ q < highEnd m e

theorem RoundsTo.low {q : ℝ} {m : Nat} {e : Int} (h : RoundsTo q m e) : lowEnd m e ≤ q := by
  unfold RoundsTo at h
  split at h
  · exact h.1
  · exact h.1.le

theorem RoundsTo.high {q : ℝ} {m : Nat} {e : Int} (h : RoundsTo q m e) : q ≤ highEnd m e := by
  unfold RoundsTo at h
  split at h
  · exact h.2
  · exact h.2.le

theorem RoundsTo.even {q : ℝ} {m : Nat} {e : Int} (h : RoundsTo q m e)
    (hend : q = lowEnd m e ∨ q = highEnd m e) : m % 2 = 0 := by
  by_contra hodd
  unfold RoundsTo at h
  rw [if_neg hodd] at h
  rcases hend with rfl | rfl
  · exact lt_irrefl _ h.1
  · exact lt_irrefl _ h.2

theorem half_sub_le_lowEnd (m : Nat) (e : Int) : (m - 1 / 2) * 2 ^ e ≤ lowEnd m e := by
  rw [lowEnd_eq]
  apply mul_le_mul_of_nonneg_right _ (two_zpow_pos e).le
  split <;> linarith

theorem roundsTo_self (m : Nat) (e : Int) : RoundsTo (magnitude m e) m e := by
  have hpos := two_zpow_pos e
  have hlow : lowEnd m e < magnitude m e := by
    rw [lowEnd_eq, magnitude]
    apply mul_lt_mul_of_pos_right _ hpos
    split <;> linarith
  have hhigh : magnitude m e < highEnd m e := by
    rw [highEnd_eq, magnitude]
    apply mul_lt_mul_of_pos_right _ hpos
    linarith
  unfold RoundsTo
  split
  · exact ⟨hlow.le, hhigh.le⟩
  · exact ⟨hlow, hhigh⟩

theorem RoundsTo.pos {q : ℝ} {m : Nat} {e : Int} (h : RoundsTo q m e) (hm : 0 < m) : 0 < q := by
  have hone : (1 : ℝ) ≤ m := Nat.one_le_cast.mpr hm
  calc (0 : ℝ) < (m - 1 / 2) * 2 ^ e := mul_pos (by linarith) (two_zpow_pos e)
    _ ≤ lowEnd m e := half_sub_le_lowEnd m e
    _ ≤ q := h.low

theorem RoundsTo.lt {q : ℝ} {m : Nat} {e : Int} (h : RoundsTo q m e) (hm : m < 2 ^ 53) :
    q < 2 ^ 53 * 2 ^ e := by
  have hle : (m : ℝ) + 1 ≤ 2 ^ 53 := by exact_mod_cast Nat.succ_le_of_lt hm
  calc q ≤ highEnd m e := h.high
    _ = (m + 1 / 2) * 2 ^ e := highEnd_eq m e
    _ < 2 ^ 53 * 2 ^ e := mul_lt_mul_of_pos_right (by linarith) (two_zpow_pos e)

/-- A number fits the exponent of the double to which it is rounded, or else that double is a power
of two and the number lies below it. -/
theorem RoundsTo.exponent_eq {q : ℝ} {m : Nat} {e t : Int} (h : RoundsTo q m e)
    (hc : Canonical m e) (ht : Fits q t) : t = e ∨ t = e - 1 ∧ m = 2 ^ 52 ∧ -1074 < e := by
  have hlt := h.lt hc.lt
  have hleast := ht.least
  have hle : t ≤ e := by
    by_contra hgt
    have hfull := ht.full.resolve_left (by have := hc.least; omega)
    have hstep : (2 : ℝ) ^ (e + (53 : Nat)) ≤ 2 ^ (t + (52 : Nat)) := two_zpow_le (by omega)
    rw [two_zpow_add, two_zpow_add] at hstep
    linarith
  -- A lesser exponent leaves room only below a power of two, and there for one step.
  rcases Int.lt_or_eq_of_le hle with hless | heq
  · right
    have hfull : 2 ^ 52 ≤ m := hc.full.resolve_right (by omega)
    have hbelow : q < 2 ^ 52 * 2 ^ e := by
      have hstep : (2 : ℝ) ^ (t + (53 : Nat)) ≤ 2 ^ (e + (52 : Nat)) := two_zpow_le (by omega)
      rw [two_zpow_add, two_zpow_add] at hstep
      exact ht.lt.trans_le hstep
    have hpos := two_zpow_pos e
    have hm : m = 2 ^ 52 := by
      by_contra hne
      have hmore : (2 : ℝ) ^ 52 + 1 ≤ m := by exact_mod_cast Nat.lt_of_le_of_ne hfull (Ne.symm hne)
      have hlow := (half_sub_le_lowEnd m e).trans h.low
      nlinarith
    refine ⟨?_, hm, by omega⟩
    by_contra hne
    have hstep : (2 : ℝ) ^ (t + (53 : Nat)) ≤ 2 ^ (e - 2 + (53 : Nat)) := two_zpow_le (by omega)
    have hsame : e - 2 + (53 : Nat) = e + (51 : Nat) := by omega
    rw [hsame, two_zpow_add, two_zpow_add] at hstep
    have hlow := (half_sub_le_lowEnd m e).trans h.low
    have hq := ht.lt
    rw [hm] at hlow
    push_cast at hlow
    linarith
  · exact Or.inl heq

/-- With the exponent of the double, a number in its interval has the mantissa of the double. -/
theorem RoundsTo.divNearest_scaled {num den m : Nat} {e : Int} (hden : 0 < den)
    (h : RoundsTo (num / den) m e) :
    divNearest (Decimal.scaled num den e).1 (Decimal.scaled num den e).2 = m := by
  have hpos := two_zpow_pos e
  have hratio := scaled_ratio num den e
  refine divNearest_eq (scaled_pos num hden e) ?_ ?_ fun htie => ?_
  · rw [hratio, le_div_iff₀ hpos]
    exact (half_sub_le_lowEnd m e).trans h.low
  · rw [hratio, div_le_iff₀ hpos, ← highEnd_eq]
    exact h.high
  · rw [hratio, div_eq_iff hpos.ne', div_eq_iff hpos.ne', ← highEnd_eq] at htie
    refine h.even (htie.imp (fun hlow => ?_) fun hhigh => hhigh)
    exact le_antisymm (hlow ▸ half_sub_le_lowEnd m e) h.low

/-- With the exponent below that of a power of two, a number in the lower half of its interval has
the mantissa that carries. -/
theorem RoundsTo.divNearest_scaled_below {num den : Nat} {e : Int} (hden : 0 < den)
    (hexp : -1074 < e) (h : RoundsTo (num / den) (2 ^ 52) e) (hfits : Fits (num / den) (e - 1)) :
    divNearest (Decimal.scaled num den (e - 1)).1 (Decimal.scaled num den (e - 1)).2 = 2 ^ 53 := by
  have hpos := two_zpow_pos (e - 1)
  have hratio := scaled_ratio num den (e - 1)
  have hhalf : (2 : ℝ) ^ e = 2 * 2 ^ (e - 1) := by
    rw [← zpow_one_add₀ two_ne_zero]
    congr 1
    omega
  have hlow := h.low
  rw [lowEnd_eq, if_pos ⟨rfl, hexp⟩, hhalf] at hlow
  refine divNearest_eq (scaled_pos num hden (e - 1)) ?_ ?_ fun _ => rfl
  · rw [hratio, le_div_iff₀ hpos]
    push_cast at hlow ⊢
    linarith
  · rw [hratio, div_le_iff₀ hpos]
    have hlt := hfits.lt
    push_cast
    linarith

/-- What lies in the interval of a double is rounded to it. -/
theorem nearestRank_eq {num den m : Nat} {e : Int} (hden : 0 < den) (hc : Canonical m e)
    (hm : 0 < m) (h : RoundsTo (num / den) m e) : Decimal.nearestRank num den = rankOf m e := by
  have hdenpos : (0 : ℝ) < den := Nat.cast_pos.mpr hden
  have hnum : 0 < num := by
    have hpos := (div_pos_iff_of_pos_right hdenpos).mp (h.pos hm)
    exact Nat.cast_pos.mp hpos
  have hleast : Decimal.leastExponent = -1074 := rfl
  have hbinade : Decimal.binade = 2 ^ 52 := rfl
  have hfits := fits_exponentFor hnum hden
  unfold Decimal.nearestRank
  rw [if_neg (Nat.ne_of_gt hnum), hleast, hbinade]
  dsimp only
  generalize Decimal.exponentFor num den = t at hfits
  rcases h.exponent_eq hc hfits with rfl | ⟨rfl, rfl, hexp⟩
  · rw [h.divNearest_scaled hden, Int.sub_neg]
    rfl
  · rw [h.divNearest_scaled_below hden hexp hfits]
    unfold rankOf
    have hshift : (e - 1 - -1074).toNat + 1 = (e + 1074).toNat := by omega
    omega

end WorkWatch.Double
