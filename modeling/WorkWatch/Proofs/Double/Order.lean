import Mathlib.Algebra.Order.Field.Power
import Mathlib.Data.EReal.Operations
import WorkWatch.Proofs.Double.Stored

/-! The order of doubles is the order of the extended reals that they denote. NaN stands apart:
every comparison with it fails. -/

namespace WorkWatch.Double

open Float.Model Float.Model.UnpackedFloat

/-- The real number `m * 2 ^ e`. -/
noncomputable def magnitude (m : Nat) (e : Int) : ℝ := m * 2 ^ e

/-- What an unpacked double denotes; NaN is read as zero. -/
noncomputable def unpackedValue : UnpackedFloat → EReal
  | .notANumber => 0
  | .infinity .positive => ⊤
  | .infinity .negative => ⊥
  | .zero _ => 0
  | .finite .positive m e _ => (magnitude m e : ℝ)
  | .finite .negative m e _ => (-magnitude m e : ℝ)

theorem magnitude_pos {m : Nat} (hm : 0 < m) (e : Int) : 0 < magnitude m e := by
  unfold magnitude
  have : (0 : ℝ) < m := Nat.cast_pos.mpr hm
  positivity

theorem magnitude_lt {m₁ m₂ : Nat} (h : m₁ < m₂) (e : Int) : magnitude m₁ e < magnitude m₂ e := by
  unfold magnitude
  have : (m₁ : ℝ) < m₂ := Nat.cast_lt.mpr h
  gcongr

theorem magnitude_shift (m : Nat) (e : Int) (k : Nat) :
    magnitude (m * 2 ^ k) (e - k) = magnitude m e := by
  unfold magnitude
  rw [zpow_sub₀ two_ne_zero, zpow_natCast]
  push_cast
  field_simp

theorem magnitude_lower (m : Nat) {e k : Int} (h : k ≤ e) :
    magnitude m e = magnitude (m * 2 ^ (e - k).toNat) k := by
  have hexp : k = e - ((e - k).toNat : Int) := by omega
  rw [← magnitude_shift m e (e - k).toNat, ← hexp]

/-- The exponent decides as long as the mantissa of the greater number has no leading zeros. -/
theorem magnitude_lt_of_exponent_lt {m₁ m₂ : Nat} {e₁ e₂ : Int} (h₁ : m₁ < 2 ^ 53)
    (h₂ : 2 ^ 52 ≤ m₂) (he : e₁ < e₂) : magnitude m₁ e₁ < magnitude m₂ e₂ := by
  obtain ⟨k, hk⟩ := Int.le.dest (Int.add_one_le_iff.mpr he)
  have hlt : m₁ < m₂ * 2 ^ (k + 1) := by
    have hone : 1 ≤ 2 ^ k := Nat.one_le_two_pow
    calc m₁ < 2 ^ 52 * 2 * 1 := h₁
      _ ≤ m₂ * 2 * 2 ^ k := by gcongr
      _ = m₂ * 2 ^ (k + 1) := by ring
  have hexp : e₁ = e₂ - ((k + 1 : Nat) : Int) := by omega
  calc magnitude m₁ e₁ < magnitude (m₂ * 2 ^ (k + 1)) e₁ := magnitude_lt hlt e₁
    _ = magnitude (m₂ * 2 ^ (k + 1)) (e₂ - ((k + 1 : Nat) : Int)) := by rw [← hexp]
    _ = magnitude m₂ e₂ := magnitude_shift m₂ e₂ (k + 1)

theorem Canonical.magnitude_lt_of_exponent_lt {m₁ m₂ : Nat} {e₁ e₂ : Int}
    (h₁ : Canonical m₁ e₁) (h₂ : Canonical m₂ e₂) (he : e₁ < e₂) :
    magnitude m₁ e₁ < magnitude m₂ e₂ := by
  have hleast := h₁.least
  exact Double.magnitude_lt_of_exponent_lt h₁.lt (h₂.full.resolve_right (by omega)) he

theorem Canonical.compare_eq {m₁ m₂ : Nat} {e₁ e₂ : Int}
    (h₁ : Canonical m₁ e₁) (h₂ : Canonical m₂ e₂) :
    (compare e₁ e₂).then (compare m₁ m₂) = cmp (magnitude m₁ e₁) (magnitude m₂ e₂) := by
  rcases Int.lt_trichotomy e₁ e₂ with he | rfl | he
  · rw [compare_lt_iff_lt.mpr he, (cmp_eq_lt_iff _ _).mpr (h₁.magnitude_lt_of_exponent_lt h₂ he)]
    rfl
  · rw [compare_eq_iff_eq.mpr rfl, Ordering.eq_then]
    rcases Nat.lt_trichotomy m₁ m₂ with hm | rfl | hm
    · rw [compare_lt_iff_lt.mpr hm, (cmp_eq_lt_iff _ _).mpr (magnitude_lt hm e₁)]
    · rw [compare_eq_iff_eq.mpr rfl, (cmp_eq_eq_iff _ _).mpr rfl]
    · rw [compare_gt_iff_gt.mpr hm, (cmp_eq_gt_iff _ _).mpr (magnitude_lt hm e₁)]
  · rw [compare_gt_iff_gt.mpr he, (cmp_eq_gt_iff _ _).mpr (h₂.magnitude_lt_of_exponent_lt h₁ he)]
    rfl

theorem cmp_neg_coe (a b : ℝ) : cmp ((-a : ℝ) : EReal) ((-b : ℝ) : EReal) = cmp b a := by
  unfold cmp cmpUsing
  simp

theorem cmp_coe (a b : ℝ) : cmp (a : EReal) (b : EReal) = cmp a b := by
  unfold cmp cmpUsing
  simp

/-- Comparing unpacked doubles compares what they denote. -/
theorem compare_unpacked {x y : UnpackedFloat} (hx : IsStored x) (hy : IsStored y)
    (nx : x ≠ .notANumber) (ny : y ≠ .notANumber) :
    x.compare y = some (cmp (unpackedValue x) (unpackedValue y)) := by
  have hlt {a b : EReal} (h : a < b) : some Ordering.lt = some (cmp a b) :=
    congrArg some ((cmp_eq_lt_iff a b).mpr h).symm
  have hgt {a b : EReal} (h : b < a) : some Ordering.gt = some (cmp a b) :=
    congrArg some ((cmp_eq_gt_iff a b).mpr h).symm
  have heq (a : EReal) : some Ordering.eq = some (cmp a a) :=
    congrArg some (cmp_self_eq_eq a).symm
  have hpos {m : Nat} (hm : 0 < m) (e : Int) : (0 : EReal) < (magnitude m e : ℝ) :=
    EReal.coe_pos.mpr (magnitude_pos hm e)
  have hneg {m : Nat} (hm : 0 < m) (e : Int) : ((-magnitude m e : ℝ) : EReal) < 0 :=
    EReal.coe_neg'.mpr (neg_neg_of_pos (magnitude_pos hm e))
  -- Zero and the infinities are told by kind; only two finite numbers of one sign need their parts.
  match x, y with
  | .notANumber, _ => exact absurd rfl nx
  | _, .notANumber => exact absurd rfl ny
  | .infinity .positive, .infinity .positive => exact heq _
  | .infinity .positive, .infinity .negative => exact hgt (bot_lt_top)
  | .infinity .negative, .infinity .positive => exact hlt (bot_lt_top)
  | .infinity .negative, .infinity .negative => exact heq _
  | .infinity .positive, .zero _ => exact hgt (EReal.zero_lt_top)
  | .infinity .negative, .zero _ => exact hlt (EReal.bot_lt_zero)
  | .infinity .positive, .finite .positive .. => exact hgt (EReal.coe_lt_top _)
  | .infinity .positive, .finite .negative .. => exact hgt (EReal.coe_lt_top _)
  | .infinity .negative, .finite .positive .. => exact hlt (EReal.bot_lt_coe _)
  | .infinity .negative, .finite .negative .. => exact hlt (EReal.bot_lt_coe _)
  | .zero _, .infinity .positive => exact hlt (EReal.zero_lt_top)
  | .zero _, .infinity .negative => exact hgt (EReal.bot_lt_zero)
  | .zero _, .zero _ => exact heq _
  | .zero _, .finite .positive _ _ hm => exact hlt (hpos hm _)
  | .zero _, .finite .negative _ _ hm => exact hgt (hneg hm _)
  | .finite .positive .., .infinity .positive => exact hlt (EReal.coe_lt_top _)
  | .finite .negative .., .infinity .positive => exact hlt (EReal.coe_lt_top _)
  | .finite .positive .., .infinity .negative => exact hgt (EReal.bot_lt_coe _)
  | .finite .negative .., .infinity .negative => exact hgt (EReal.bot_lt_coe _)
  | .finite .positive _ _ hm, .zero _ => exact hgt (hpos hm _)
  | .finite .negative _ _ hm, .zero _ => exact hlt (hneg hm _)
  | .finite .positive m₁ e₁ h₁, .finite .negative m₂ e₂ h₂ =>
    exact hgt ((hneg h₂ _).trans (hpos h₁ _))
  | .finite .negative m₁ e₁ h₁, .finite .positive m₂ e₂ h₂ =>
    exact hlt ((hneg h₁ _).trans (hpos h₂ _))
  | .finite .positive m₁ e₁ h₁, .finite .positive m₂ e₂ h₂ =>
    exact congrArg some ((hx.1.compare_eq hy.1).trans (cmp_coe _ _).symm)
  | .finite .negative m₁ e₁ h₁, .finite .negative m₂ e₂ h₂ =>
    change some ((compare e₁ e₂).then (compare m₁ m₂)).swap = _
    rw [hx.1.compare_eq hy.1, cmp_swap]
    exact congrArg some (cmp_neg_coe _ _).symm

/-- A double other than NaN. -/
def IsNumber (x : Float) : Prop := x.toModel.unpack ≠ .notANumber

/-- What a double denotes; NaN is read as zero. -/
noncomputable def value (x : Float) : EReal := unpackedValue x.toModel.unpack

theorem compare_doubles {x y : Float} (hx : IsNumber x) (hy : IsNumber y) :
    x.toModel.unpack.compare y.toModel.unpack = some (cmp (value x) (value y)) :=
  compare_unpacked (unpack_stored _) (unpack_stored _) hx hy

theorem compare_nan {x y : Float} (h : ¬ (IsNumber x ∧ IsNumber y)) :
    x.toModel.unpack.compare y.toModel.unpack = none := by
  simp only [IsNumber, not_and_or, not_not] at h
  rcases h with h | h <;> rw [h]
  · cases y.toModel.unpack <;> rfl
  · cases hx : x.toModel.unpack with
    | infinity s => cases s <;> rfl
    | finite s => cases s <;> rfl
    | _ => rfl

theorem le_iff {x y : Float} : x ≤ y ↔ IsNumber x ∧ IsNumber y ∧ value x ≤ value y := by
  have hle : x ≤ y ↔ (x.toModel.unpack.compare y.toModel.unpack).any (·.isLE) = true :=
    decide_eq_true_iff
  rw [hle]
  by_cases h : IsNumber x ∧ IsNumber y
  · rw [compare_doubles h.1 h.2]
    simp only [Option.any_some, h.1, h.2, true_and]
    rcases lt_trichotomy (value x) (value y) with hlt | heq | hgt
    · simp [(cmp_eq_lt_iff _ _).mpr hlt, hlt.le]
    · simp [heq]
    · simp [(cmp_eq_gt_iff _ _).mpr hgt, hgt]
  · rw [compare_nan h]
    simp only [Option.any_none, Bool.false_eq_true, false_iff]
    exact fun hall => h ⟨hall.1, hall.2.1⟩

theorem lt_iff {x y : Float} : x < y ↔ IsNumber x ∧ IsNumber y ∧ value x < value y := by
  have hlt : x < y ↔ (x.toModel.unpack.compare y.toModel.unpack == some .lt) = true :=
    decide_eq_true_iff
  rw [hlt]
  by_cases h : IsNumber x ∧ IsNumber y
  · rw [compare_doubles h.1 h.2]
    simp [h.1, h.2]
  · rw [compare_nan h]
    simp only [beq_iff_eq, reduceCtorEq, false_iff]
    exact fun hall => h ⟨hall.1, hall.2.1⟩

theorem beq_iff {x y : Float} :
    (x == y) = true ↔ IsNumber x ∧ IsNumber y ∧ value x = value y := by
  change (x.toModel.unpack.compare y.toModel.unpack == some .eq) = true ↔ _
  by_cases h : IsNumber x ∧ IsNumber y
  · rw [compare_doubles h.1 h.2]
    simp [h.1, h.2]
  · rw [compare_nan h]
    simp only [beq_iff_eq, reduceCtorEq, false_iff]
    exact fun hall => h ⟨hall.1, hall.2.1⟩

protected theorem le_of_not_lt {x y : Float} (hx : IsNumber x) (hy : IsNumber y)
    (h : ¬ y < x) : x ≤ y := by
  rw [lt_iff] at h
  exact le_iff.mpr ⟨hx, hy, not_lt.mp fun hlt => h ⟨hy, hx, hlt⟩⟩

protected theorem lt_of_not_le {x y : Float} (hx : IsNumber x) (hy : IsNumber y)
    (h : ¬ y ≤ x) : x < y := by
  rw [le_iff] at h
  exact lt_iff.mpr ⟨hx, hy, not_le.mp fun hle => h ⟨hy, hx, hle⟩⟩

protected theorem le_of_lt {x y : Float} (h : x < y) : x ≤ y := by
  obtain ⟨hx, hy, hlt⟩ := lt_iff.mp h
  exact le_iff.mpr ⟨hx, hy, hlt.le⟩

protected theorem le_trans {x y z : Float} (hxy : x ≤ y) (hyz : y ≤ z) : x ≤ z := by
  obtain ⟨hx, -, hle⟩ := le_iff.mp hxy
  obtain ⟨-, hz, hle'⟩ := le_iff.mp hyz
  exact le_iff.mpr ⟨hx, hz, hle.trans hle'⟩

theorem isNumber_of_lt {x y : Float} (h : x < y) : IsNumber x ∧ IsNumber y :=
  ⟨(lt_iff.mp h).1, (lt_iff.mp h).2.1⟩

end WorkWatch.Double
