import WorkWatch.Proofs.Double.Binary

/-! Ranks of doubles. Counted from zero upwards, the finite doubles of one sign are the canonical
pairs of a mantissa and an exponent, and a greater rank is a greater number. -/

namespace WorkWatch.Double

open Float.Model Float.Model.UnpackedFloat

/-- The sign of a double that is written with or without a minus. -/
def signOf (negative : Bool) : Sign := if negative then .negative else .positive

theorem signOf_isNegative (s : Sign) : signOf (isNegative s) = s := by
  cases s <;> rfl

/-- The rank of the double `m * 2 ^ e`. -/
def rankOf (m : Nat) (e : Int) : Nat := (e + 1074).toNat * 2 ^ 52 + m

theorem Canonical.rankOf_lt {m : Nat} {e : Int} (h : Canonical m e) (he : e ≤ 971) :
    rankOf m e < Decimal.infiniteRank := by
  have hlt := h.lt
  have hinfinite : Decimal.infiniteRank = 2047 * 2 ^ 52 := rfl
  have hexp : (e + 1074).toNat ≤ 2045 := by omega
  unfold rankOf
  omega

/-- The ranks below that of infinity are those of mantissas with exponents. -/
theorem exists_rankOf_eq {rank : Nat} (h : rank < Decimal.infiniteRank) :
    ∃ m e, Canonical m e ∧ e ≤ 971 ∧ rankOf m e = rank := by
  have hinfinite : Decimal.infiniteRank = 2047 * 2 ^ 52 := rfl
  rw [hinfinite] at h
  unfold rankOf
  by_cases hsub : rank < 2 ^ 52
  · exact ⟨rank, -1074, ⟨by omega, by omega, Or.inr rfl⟩, by omega, by omega⟩
  · refine ⟨2 ^ 52 + rank % 2 ^ 52, (rank / 2 ^ 52 : Nat) - 1075,
      ⟨by omega, by omega, Or.inl (by omega)⟩, by omega, ?_⟩
    have hexp : (((rank / 2 ^ 52 : Nat) : Int) - 1075 + 1074).toNat = rank / 2 ^ 52 - 1 := by omega
    rw [hexp]
    omega

theorem Canonical.rank_lt_iff {m₁ m₂ : Nat} {e₁ e₂ : Int} (h₁ : Canonical m₁ e₁)
    (h₂ : Canonical m₂ e₂) : rankOf m₁ e₁ < rankOf m₂ e₂ ↔ magnitude m₁ e₁ < magnitude m₂ e₂ := by
  -- The rank grows with the exponent because the mantissas of greater ones are full.
  have hrank {m₁ m₂ : Nat} {e₁ e₂ : Int} (h₁ : Canonical m₁ e₁) (h₂ : Canonical m₂ e₂)
      (he : e₁ < e₂) : rankOf m₁ e₁ < rankOf m₂ e₂ := by
    have hlt := h₁.lt
    have hleast := h₁.least
    have hfull := h₂.full
    unfold rankOf
    have hstep : (e₁ + 1074).toNat + 1 ≤ (e₂ + 1074).toNat := by omega
    omega
  rcases Int.lt_trichotomy e₁ e₂ with he | rfl | he
  · exact iff_of_true (hrank h₁ h₂ he) (h₁.magnitude_lt_of_exponent_lt h₂ he)
  · have hsame : rankOf m₁ e₁ < rankOf m₂ e₁ ↔ m₁ < m₂ := Nat.add_lt_add_iff_left
    rw [hsame]
    refine ⟨fun h => magnitude_lt h e₁, fun h => ?_⟩
    by_contra hge
    rcases Nat.lt_or_eq_of_le (Nat.le_of_not_lt hge) with hlt | heq
    · exact absurd h (magnitude_lt hlt e₁).not_gt
    · rw [heq] at h
      exact absurd h (lt_irrefl _)
  · exact iff_of_false (hrank h₂ h₁ he).not_gt (h₂.magnitude_lt_of_exponent_lt h₁ he).not_gt

theorem ofFields_rankOf (s : Sign) {m : Nat} {e : Int} (h : Canonical m e) (he : e ≤ 971) :
    ofFields s (rankOf m e / 2 ^ 52) (rankOf m e % 2 ^ 52) =
      if hm : m = 0 then .zero s else .finite s m e (Nat.pos_of_ne_zero hm) := by
  have hlt := h.lt
  have hleast := h.least
  unfold rankOf ofFields
  rcases h.full with hfull | rfl
  · have hfield : ((e + 1074).toNat * 2 ^ 52 + m) / 2 ^ 52 = (e + 1074).toNat + 1 := by omega
    have hfraction : ((e + 1074).toNat * 2 ^ 52 + m) % 2 ^ 52 = m - 2 ^ 52 := by omega
    have hmantissa : 2 ^ 52 + (m - 2 ^ 52) = m := Nat.add_sub_of_le hfull
    have hexp : (((e + 1074).toNat + 1 : Nat) : Int) - 1075 = e := by omega
    rw [hfield, hfraction, if_neg (by omega), if_neg (by omega), dif_neg (by omega)]
    simp only [hmantissa, hexp]
  · rcases Nat.lt_or_ge m (2 ^ 52) with hsub | hfull
    · have hfield : ((-1074 + 1074 : Int).toNat * 2 ^ 52 + m) / 2 ^ 52 = 0 := by omega
      have hfraction : ((-1074 + 1074 : Int).toNat * 2 ^ 52 + m) % 2 ^ 52 = m := by omega
      rw [hfield, hfraction, if_neg (by decide), if_pos rfl]
    · have hfield : ((-1074 + 1074 : Int).toNat * 2 ^ 52 + m) / 2 ^ 52 = 1 := by omega
      have hfraction : ((-1074 + 1074 : Int).toNat * 2 ^ 52 + m) % 2 ^ 52 = m - 2 ^ 52 := by omega
      have hmantissa : 2 ^ 52 + (m - 2 ^ 52) = m := Nat.add_sub_of_le hfull
      rw [hfield, hfraction, if_neg (by decide), if_neg (by decide), dif_neg (by omega)]
      simp only [hmantissa]
      rfl

/-- The double at the rank of a mantissa and an exponent. -/
theorem unpack_ofRank_rankOf (negative : Bool) {m : Nat} {e : Int} (h : Canonical m e)
    (he : e ≤ 971) :
    (Decimal.ofRank negative (rankOf m e)).toModel.unpack =
      if hm : m = 0 then .zero (signOf negative)
      else .finite (signOf negative) m e (Nat.pos_of_ne_zero hm) := by
  rw [unpack_ofRank negative (h.rankOf_lt he).le]
  exact ofFields_rankOf (signOf negative) h he

theorem unpack_ofRank_zero (negative : Bool) :
    (Decimal.ofRank negative 0).toModel.unpack = .zero (signOf negative) := by
  have hzero : Canonical 0 (-1074) := ⟨by decide, Int.le_refl _, Or.inr rfl⟩
  have hrank : rankOf 0 (-1074) = 0 := rfl
  rw [← hrank, unpack_ofRank_rankOf negative hzero (by decide), dif_pos rfl]

theorem unpack_ofRank_infinite (negative : Bool) :
    (Decimal.ofRank negative Decimal.infiniteRank).toModel.unpack =
      .infinity (signOf negative) := by
  rw [unpack_ofRank negative (Nat.le_refl _)]
  rfl

theorem isNumber_ofRank (negative : Bool) {rank : Nat} (h : rank ≤ Decimal.infiniteRank) :
    IsNumber (Decimal.ofRank negative rank) := by
  unfold IsNumber
  rcases Nat.lt_or_eq_of_le h with hlt | rfl
  · obtain ⟨m, e, hc, he, rfl⟩ := exists_rankOf_eq hlt
    rw [unpack_ofRank_rankOf negative hc he]
    split <;> nofun
  · rw [unpack_ofRank_infinite]
    nofun

theorem value_ofRank_rankOf {m : Nat} {e : Int} (h : Canonical m e) (he : e ≤ 971) :
    value (Decimal.ofRank false (rankOf m e)) = (magnitude m e : ℝ) := by
  unfold value
  rw [unpack_ofRank_rankOf false h he]
  split
  · rename_i hm
    subst hm
    simp [unpackedValue, magnitude]
  · rfl

theorem value_ofRank_infinite : value (Decimal.ofRank false Decimal.infiniteRank) = ⊤ := by
  unfold value
  rw [unpack_ofRank_infinite]
  rfl

theorem value_ofRank_neg {rank : Nat} (h : rank ≤ Decimal.infiniteRank) :
    value (Decimal.ofRank true rank) = -value (Decimal.ofRank false rank) := by
  unfold value
  rcases Nat.lt_or_eq_of_le h with hlt | rfl
  · obtain ⟨m, e, hc, he, rfl⟩ := exists_rankOf_eq hlt
    rw [unpack_ofRank_rankOf true hc he, unpack_ofRank_rankOf false hc he]
    split
    · exact neg_zero.symm
    · exact (EReal.coe_neg _)
  · rw [unpack_ofRank_infinite, unpack_ofRank_infinite]
    exact EReal.neg_top.symm

/-- A greater rank is a greater number. -/
theorem value_ofRank_lt_iff {r₁ r₂ : Nat} (h₁ : r₁ ≤ Decimal.infiniteRank)
    (h₂ : r₂ ≤ Decimal.infiniteRank) :
    value (Decimal.ofRank false r₁) < value (Decimal.ofRank false r₂) ↔ r₁ < r₂ := by
  rcases Nat.lt_or_eq_of_le h₁ with hlt₁ | rfl
  · obtain ⟨m₁, e₁, hc₁, he₁, rfl⟩ := exists_rankOf_eq hlt₁
    rw [value_ofRank_rankOf hc₁ he₁]
    rcases Nat.lt_or_eq_of_le h₂ with hlt₂ | rfl
    · obtain ⟨m₂, e₂, hc₂, he₂, rfl⟩ := exists_rankOf_eq hlt₂
      rw [value_ofRank_rankOf hc₂ he₂, EReal.coe_lt_coe_iff, hc₁.rank_lt_iff hc₂]
    · rw [value_ofRank_infinite]
      exact iff_of_true (EReal.coe_lt_top _) hlt₁
  · rw [value_ofRank_infinite]
    exact iff_of_false not_top_lt (Nat.not_lt.mpr h₂)

end WorkWatch.Double
