import WorkWatch.Proofs.Double.Integer
import WorkWatch.Proofs.Double.Nearest

/-! The doubles nearest to integers. They stand in the order of the integers, and up to `2 ^ 53` in
size they are the integers themselves. -/

namespace WorkWatch.Double

open Decimal (divNearest infiniteRank nearestRank)

/-- The double nearest to an integer, infinite where the integer is too large. -/
def nearestTo (n : Int) : Float := Decimal.nearest (n < 0) n.natAbs 1

theorem divNearest_mono {num num' : Nat} (den : Nat) (h : num ≤ num') :
    divNearest num den ≤ divNearest num' den := by
  have hdiv : num / den ≤ num' / den := Nat.div_le_div_right h
  have hsum := Nat.div_add_mod num den
  have hsum' := Nat.div_add_mod num' den
  unfold divNearest
  dsimp only
  rcases Nat.lt_or_eq_of_le hdiv with hlt | heq
  · split <;> split <;> omega
  · rw [← heq] at hsum' ⊢
    simp only [Bool.or_eq_true, Bool.and_eq_true, decide_eq_true_eq, beq_iff_eq]
    split <;> split <;> omega

theorem scaled_mono {num num' : Nat} (h : num ≤ num') (den : Nat) (e : Int) :
    divNearest (Decimal.scaled num den e).1 (Decimal.scaled num den e).2 ≤
      divNearest (Decimal.scaled num' den e).1 (Decimal.scaled num' den e).2 := by
  unfold Decimal.scaled
  split
  · exact divNearest_mono _ h
  · exact divNearest_mono _ (Nat.mul_le_mul_right _ h)

/-- The rank of the nearest double does not decrease with the number. -/
theorem nearestRank_mono {m n : Nat} (h : m ≤ n) : nearestRank m 1 ≤ nearestRank n 1 := by
  rcases Nat.eq_zero_or_pos m with rfl | hm
  · exact Nat.zero_le _
  · have hlog : m.log2 ≤ n.log2 := by
      rw [Nat.le_log2 (by omega)]
      exact (Nat.log2_self_le (by omega)).trans h
    have hmbounds := scaled_one_bounds (show m ≠ 0 by omega)
    have hnbounds := scaled_one_bounds (show n ≠ 0 by omega)
    rw [nearestRank_one (by omega), nearestRank_one (by omega)]
    rcases Nat.lt_or_eq_of_le hlog with hlt | heq
    · omega
    · have hmono := scaled_mono h 1 (n.log2 - 52)
      rw [heq]
      omega

theorem nearestTo_eq (n : Int) :
    nearestTo n = Decimal.ofRank (n < 0) (min (nearestRank n.natAbs 1) infiniteRank) := by
  unfold nearestTo Decimal.nearest Decimal.ofRank
  rw [Nat.min_assoc, Nat.min_self]

theorem isNumber_nearestTo (n : Int) : IsNumber (nearestTo n) := by
  rw [nearestTo_eq]
  exact isNumber_ofRank _ (Nat.min_le_right _ _)

/-- What the double nearest to a natural number denotes. -/
noncomputable def nearestValue (m : Nat) : EReal :=
  value (Decimal.ofRank false (min (nearestRank m 1) infiniteRank))

theorem value_nearestTo (n : Int) :
    value (nearestTo n) = if n < 0 then -nearestValue n.natAbs else nearestValue n.natAbs := by
  rw [nearestTo_eq]
  split
  · rename_i h
    rw [decide_eq_true h, value_ofRank_neg (Nat.min_le_right _ _)]
    rfl
  · rename_i h
    rw [decide_eq_false h]
    rfl

theorem nearestValue_mono {m n : Nat} (h : m ≤ n) : nearestValue m ≤ nearestValue n := by
  unfold nearestValue
  rw [← not_lt, value_ofRank_lt_iff (Nat.min_le_right _ _) (Nat.min_le_right _ _), Nat.not_lt]
  have hmono := nearestRank_mono h
  omega

theorem nearestValue_nonneg (m : Nat) : 0 ≤ nearestValue m := by
  refine le_trans (le_of_eq ?_) (nearestValue_mono (Nat.zero_le m))
  exact value_zero.symm

/-- The nearest doubles stand in the order of the integers. -/
theorem value_nearestTo_mono {a b : Int} (h : a ≤ b) :
    value (nearestTo a) ≤ value (nearestTo b) := by
  rw [value_nearestTo, value_nearestTo]
  split
  · split
    · exact EReal.neg_le_neg_iff.mpr (nearestValue_mono (by omega))
    · have hneg : -nearestValue a.natAbs ≤ 0 :=
        (EReal.neg_le_neg_iff.mpr (nearestValue_nonneg _)).trans_eq neg_zero
      exact hneg.trans (nearestValue_nonneg _)
  · rw [if_neg (by omega)]
    exact nearestValue_mono (by omega)

/-! Small integers are doubles. -/

theorem exists_canonical {m : Nat} (hm : m ≠ 0) (h : m ≤ 2 ^ 53) :
    ∃ m₀ e₀, Canonical m₀ e₀ ∧ e₀ ≤ 971 ∧ 0 < m₀ ∧ magnitude m₀ e₀ = m := by
  have hsame : magnitude m 0 = m := by
    unfold magnitude
    rw [zpow_zero, mul_one]
  rcases Nat.lt_or_eq_of_le h with hlt | rfl
  · have hlog : m.log2 ≤ 52 := Nat.le_of_lt_succ ((Nat.log2_lt hm).mpr hlt)
    obtain ⟨k, hk⟩ := Nat.exists_eq_add_of_le hlog
    have hfull : 2 ^ 52 ≤ m * 2 ^ k := by
      rw [hk, Nat.pow_add]
      exact Nat.mul_le_mul_right _ (Nat.log2_self_le hm)
    have hbits : m * 2 ^ k < 2 ^ 53 := by
      have hsplit : 53 = (m.log2 + 1) + k := by omega
      rw [hsplit, Nat.pow_add]
      exact Nat.mul_lt_mul_of_pos_right Nat.lt_log2_self (Nat.two_pow_pos k)
    refine ⟨m * 2 ^ k, 0 - k, ⟨hbits, by omega, Or.inl hfull⟩, by omega,
      Nat.lt_of_lt_of_le (by decide) hfull, ?_⟩
    rw [magnitude_shift, hsame]
  · refine ⟨2 ^ 52, 0 + 1, ⟨by decide, by decide, Or.inl (Nat.le_refl _)⟩, by decide, by decide, ?_⟩
    rw [← magnitude_carry, hsame]

theorem nearestValue_eq {m : Nat} (h : m ≤ 2 ^ 53) : nearestValue m = ((m : ℝ) : EReal) := by
  unfold nearestValue
  by_cases hm : m = 0
  · subst hm
    rw [Nat.cast_zero]
    exact value_zero
  · obtain ⟨m₀, e₀, hc, he, hpos, hmagnitude⟩ := exists_canonical hm h
    have hrounds : RoundsTo ((m : ℝ) / (1 : Nat)) m₀ e₀ := by
      rw [Nat.cast_one, div_one, ← hmagnitude]
      exact roundsTo_self m₀ e₀
    rw [nearestRank_eq Nat.one_pos hc hpos hrounds, Nat.min_eq_left (hc.rankOf_lt he).le,
      value_ofRank_rankOf hc he, hmagnitude]

theorem value_nearestTo_eq {n : Int} (h : n.natAbs ≤ 2 ^ 53) :
    value (nearestTo n) = ((n : ℝ) : EReal) := by
  rw [value_nearestTo, nearestValue_eq h, Nat.cast_natAbs]
  split
  · rename_i hsign
    rw [abs_of_neg hsign, Int.cast_neg, EReal.coe_neg, neg_neg]
  · rename_i hsign
    rw [abs_of_nonneg (not_lt.mp hsign)]

/-- Below `2 ^ 53` in size an integer shares its double with no other one. -/
theorem eq_of_value_nearestTo_eq {a n : Int} (ha : a.natAbs < 2 ^ 53)
    (h : value (nearestTo a) = value (nearestTo n)) : a = n := by
  rw [value_nearestTo_eq ha.le] at h
  rcases Int.lt_trichotomy a n with hlt | heq | hgt
  · -- Between the two stands an integer that is a double.
    have hmono := value_nearestTo_mono (Int.add_one_le_of_lt hlt)
    rw [← h, value_nearestTo_eq (by omega), EReal.coe_le_coe_iff, Int.cast_le] at hmono
    omega
  · exact heq
  · have hmono := value_nearestTo_mono (Int.le_sub_one_of_lt hgt)
    rw [← h, value_nearestTo_eq (by omega), EReal.coe_le_coe_iff, Int.cast_le] at hmono
    omega

end WorkWatch.Double
