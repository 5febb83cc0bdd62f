import WorkWatch.Proofs.Double.Rounding

/-! The integers that have no double. Rounding to 53 bits carries an integer to infinity from half a
unit below `2 ^ 1024` on, and no smaller one. -/

namespace WorkWatch.Double

open Decimal (divNearest)

/-- An even integer is reached by rounding from half a unit below it on. -/
theorem even_le_divNearest_iff {n num den : Nat} (hden : 0 < den) (hn : n % 2 = 0) (hpos : 0 < n) :
    n ≤ divNearest num den ↔ (2 * n - 1) * den ≤ 2 * num := by
  have hsum := Nat.div_add_mod num den
  have hlt := Nat.mod_lt num hden
  have htwice : (2 * n - 1) * den = 2 * (den * (n - 1)) + den := by
    obtain ⟨k, rfl⟩ : ∃ k, n = k + 1 := ⟨n - 1, by omega⟩
    rw [Nat.add_sub_cancel, Nat.mul_comm den k]
    have hodd : 2 * (k + 1) - 1 = 2 * k + 1 := by omega
    rw [hodd, Nat.add_mul, Nat.one_mul, Nat.mul_assoc]
  have hmono {a b : Nat} (h : a ≤ b) : den * a ≤ den * b := Nat.mul_le_mul_left den h
  have hsucc (a : Nat) : den * (a + 1) = den * a + den := Nat.mul_succ den a
  rw [htwice]
  generalize hq : num / den = q at hsum
  generalize hr : num % den = r at hsum hlt
  simp only [divNearest, hq, hr]
  rcases Nat.lt_trichotomy q (n - 1) with hless | heq | hmore
  · have hle := hmono (Nat.succ_le_of_lt hless)
    rw [Nat.succ_eq_add_one, hsucc] at hle
    split <;> omega
  · subst heq
    by_cases hhalf : 2 * r < den
    · rw [if_pos (by simp [hhalf])]
      omega
    · have hodd : (n - 1) % 2 ≠ 0 := by omega
      rw [if_neg (by simp [hhalf, hodd])]
      omega
  · have hle := hmono (Nat.succ_le_of_lt hmore)
    rw [Nat.succ_eq_add_one, hsucc] at hle
    split <;> omega

/-- Fifty-three bits of an integer are kept. -/
theorem exponentFor_one {m : Nat} (hm : m ≠ 0) : Decimal.exponentFor m 1 = (m.log2 : Int) - 52 := by
  have hself : 2 ^ m.log2 ≤ m := Nat.log2_self_le hm
  have hlow : max ((m.log2 : Int) - (1 : Nat).log2 - 53) Decimal.leastExponent = m.log2 - 53 := by
    have hone : (1 : Nat).log2 = 0 := rfl
    have hleast : Decimal.leastExponent = -1074 := rfl
    rw [hone, hleast]
    omega
  unfold Decimal.exponentFor
  rw [hlow]
  have hfull : 2 * Decimal.binade ≤
      (Decimal.scaled m 1 (m.log2 - 53)).1 / (Decimal.scaled m 1 (m.log2 - 53)).2 := by
    change 2 ^ 53 ≤ _
    unfold Decimal.scaled
    split
    · rename_i hexp
      rw [Nat.one_mul]
      refine (Nat.le_div_iff_mul_le (Nat.two_pow_pos _)).mpr ?_
      calc 2 ^ 53 * 2 ^ ((m.log2 : Int) - 53).toNat
          = 2 ^ (53 + ((m.log2 : Int) - 53).toNat) := (Nat.pow_add ..).symm
        _ = 2 ^ m.log2 := by congr 1; omega
        _ ≤ m := hself
    · rename_i hexp
      rw [Nat.div_one]
      calc 2 ^ 53 = 2 ^ (m.log2 + (-((m.log2 : Int) - 53)).toNat) := by congr 1; omega
        _ = 2 ^ m.log2 * 2 ^ (-((m.log2 : Int) - 53)).toNat := Nat.pow_add ..
        _ ≤ m * 2 ^ (-((m.log2 : Int) - 53)).toNat := Nat.mul_le_mul_right _ hself
  dsimp only
  rw [if_pos hfull]
  omega

theorem scaled_one_bounds {m : Nat} (hm : m ≠ 0) :
    2 ^ 52 ≤ divNearest (Decimal.scaled m 1 (m.log2 - 52)).1 (Decimal.scaled m 1 (m.log2 - 52)).2 ∧
      divNearest (Decimal.scaled m 1 (m.log2 - 52)).1 (Decimal.scaled m 1 (m.log2 - 52)).2 ≤
        2 ^ 53 := by
  have hself : 2 ^ m.log2 ≤ m := Nat.log2_self_le hm
  have hlt : m < 2 ^ (m.log2 + 1) := Nat.lt_log2_self
  unfold Decimal.scaled
  split
  · rename_i hexp
    have hpow (k : Nat) :
        2 ^ (52 + k) * (1 * Decimal.twoTo ((m.log2 : Int) - 52).toNat) = 2 ^ (m.log2 + k) := by
      rw [Nat.one_mul]
      change 2 ^ (52 + k) * 2 ^ ((m.log2 : Int) - 52).toNat = _
      rw [← Nat.pow_add]
      congr 1
      omega
    have hden : 0 < 1 * Decimal.twoTo ((m.log2 : Int) - 52).toNat := by
      rw [Nat.one_mul]
      exact Nat.two_pow_pos _
    exact ⟨le_divNearest hden (Nat.le_trans (Nat.le_of_eq (hpow 0)) hself),
      divNearest_le hden (Nat.le_trans (Nat.le_of_lt hlt) (Nat.le_of_eq (hpow 1).symm))⟩
  · rename_i hexp
    have hpow (k : Nat) : 2 ^ (m.log2 + k) * Decimal.twoTo (-((m.log2 : Int) - 52)).toNat =
        2 ^ (52 + k) := by
      change 2 ^ (m.log2 + k) * 2 ^ (-((m.log2 : Int) - 52)).toNat = _
      rw [← Nat.pow_add]
      congr 1
      omega
    refine ⟨le_divNearest Nat.one_pos ?_, divNearest_le Nat.one_pos ?_⟩
    · rw [Nat.mul_one]
      exact Nat.le_trans (Nat.le_of_eq (hpow 0).symm) (Nat.mul_le_mul_right _ hself)
    · rw [Nat.mul_one]
      exact Nat.le_trans (Nat.mul_le_mul_right _ (Nat.le_of_lt hlt)) (Nat.le_of_eq (hpow 1))

theorem nearestRank_one {m : Nat} (hm : m ≠ 0) :
    Decimal.nearestRank m 1 = (m.log2 + 1022) * 2 ^ 52 +
      divNearest (Decimal.scaled m 1 (m.log2 - 52)).1 (Decimal.scaled m 1 (m.log2 - 52)).2 := by
  have hleast : Decimal.leastExponent = -1074 := rfl
  have hbinade : Decimal.binade = 2 ^ 52 := rfl
  unfold Decimal.nearestRank
  have hexp : ((m.log2 : Int) - 52 - -1074).toNat = m.log2 + 1022 := by omega
  rw [if_neg hm, exponentFor_one hm, hleast, hbinade]
  dsimp only
  rw [hexp]

theorem twoTo_succ (k : Nat) : Decimal.twoTo (k + 1) = 2 * 2 ^ k := Nat.pow_succ'

/-- Where integers are too large for a double. -/
theorem infiniteRank_le_iff (m : Nat) :
    Decimal.infiniteRank ≤ Decimal.nearestRank m 1 ↔ (2 ^ 54 - 1) * 2 ^ 970 ≤ m := by
  have hinfinite : Decimal.infiniteRank = 2047 * 2 ^ 52 := rfl
  have hpos : 0 < 2 ^ 970 := Nat.two_pow_pos 970
  by_cases hm : m = 0
  · subst hm
    have hrank : Decimal.nearestRank 0 1 = 0 := rfl
    rw [hrank, hinfinite]
    omega
  · have hbelow (j : Nat) (h : m.log2 + 1 ≤ j + 970) : m < 2 ^ j * 2 ^ 970 := by
      rw [← Nat.pow_add]
      exact Nat.lt_of_lt_of_le Nat.lt_log2_self (Nat.pow_le_pow_right Nat.two_pos h)
    have habove (j : Nat) (h : j + 970 ≤ m.log2) : 2 ^ j * 2 ^ 970 ≤ m := by
      rw [← Nat.pow_add]
      exact Nat.le_trans (Nat.pow_le_pow_right Nat.two_pos h) (Nat.log2_self_le hm)
    obtain ⟨hlow, hhigh⟩ := scaled_one_bounds hm
    rw [nearestRank_one hm, hinfinite]
    -- Only integers of exactly 1024 bits may go either way, as rounding may carry them.
    rcases Nat.lt_trichotomy m.log2 1023 with hless | heq | hmore
    · have hm := hbelow 53 (by omega)
      generalize 2 ^ 970 = unit at hm ⊢
      omega
    · have hscaled : Decimal.scaled m 1 (m.log2 - 52) = (m, 2 * 2 ^ 970) := by
        have hexp : ((m.log2 : Int) - 52).toNat = 970 + 1 := by omega
        unfold Decimal.scaled
        rw [if_pos (by omega), Nat.one_mul, hexp, twoTo_succ]
      rw [hscaled, heq]
      dsimp only
      generalize 2 ^ 970 = unit at hpos ⊢
      have hcarry : 2 ^ 53 ≤ divNearest m (2 * unit) ↔
          (2 * 2 ^ 53 - 1) * (2 * unit) ≤ 2 * m :=
        even_le_divNearest_iff (Nat.mul_pos Nat.two_pos hpos) (by decide) (by decide)
      omega
    · have hm := habove 54 (by omega)
      generalize 2 ^ 970 = unit at hm ⊢
      omega

/-- An integer has no double if it is at least half a unit below `2 ^ 1024` in size. -/
theorem ofInt?_eq_none_iff (n : Int) :
    Decimal.ofInt? n = none ↔ (2 ^ 54 - 1) * 2 ^ 970 ≤ n.natAbs := by
  rw [← infiniteRank_le_iff]
  unfold Decimal.ofInt?
  dsimp only
  split
  · rename_i h
    exact ⟨fun _ => h, fun _ => rfl⟩
  · rename_i h
    exact ⟨nofun, fun hle => absurd hle h⟩

end WorkWatch.Double
