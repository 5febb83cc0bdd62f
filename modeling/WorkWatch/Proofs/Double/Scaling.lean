import WorkWatch.Proofs.Double.Product

/-! Scaling by powers of two. Doubling a double raises its exponent, or its mantissa as long as that
has leading zeros; so the exact product has the form of a double, and rounding only changes it when
the exponent passes the greatest one, where the product exceeds every finite double. -/

namespace WorkWatch.Double

open Float.Model Float.Model.UnpackedFloat

/-- The real number that a finite double denotes. -/
noncomputable def real (x : Float) : ℝ := (value x).toReal

theorem value_eq_real {x : Float} (hx : Decimal.isFinite x = true) : value x = real x := by
  obtain ⟨hnumber, hfinite⟩ := isFinite_iff.mp hx
  have htop : value x ≠ ⊤ ∧ value x ≠ ⊥ := by
    unfold value
    cases hu : x.toModel.unpack with
    | notANumber => exact absurd hu hnumber
    | infinity s => exact absurd hu (hfinite s)
    | zero s => exact ⟨EReal.zero_ne_top, EReal.zero_ne_bot⟩
    | finite s m e hm =>
      cases s with
      | positive => exact ⟨EReal.coe_ne_top _, EReal.coe_ne_bot _⟩
      | negative => exact ⟨EReal.coe_ne_top _, EReal.coe_ne_bot _⟩
  exact (EReal.coe_toReal htop.1 htop.2).symm

theorem le_iff_real_le {x y : Float} (hx : Decimal.isFinite x = true)
    (hy : Decimal.isFinite y = true) : x ≤ y ↔ real x ≤ real y := by
  rw [le_iff, value_eq_real hx, value_eq_real hy, EReal.coe_le_coe_iff]
  exact ⟨fun h => h.2.2, fun h => ⟨(isFinite_iff.mp hx).1, (isFinite_iff.mp hy).1, h⟩⟩

theorem beq_iff_real_eq {x y : Float} (hx : Decimal.isFinite x = true)
    (hy : Decimal.isFinite y = true) : (x == y) = true ↔ real x = real y := by
  rw [beq_iff, value_eq_real hx, value_eq_real hy, EReal.coe_eq_coe_iff]
  exact ⟨fun h => h.2.2, fun h => ⟨(isFinite_iff.mp hx).1, (isFinite_iff.mp hy).1, h⟩⟩

theorem pos_iff_real_pos {x : Float} (hx : Decimal.isFinite x = true) : 0 < x ↔ 0 < real x := by
  rw [lt_iff, value_zero, value_eq_real hx, EReal.coe_pos]
  exact ⟨fun h => h.2.2, fun h => ⟨isNumber_zero, (isFinite_iff.mp hx).1, h⟩⟩

theorem isFinite_of_value {x : Float} (hx : IsNumber x) {r : ℝ} (h : value x = r) :
    Decimal.isFinite x = true := by
  refine isFinite_iff.mpr ⟨hx, fun s hu => ?_⟩
  unfold value at h
  rw [hu] at h
  cases s with
  | positive => exact EReal.coe_ne_top r h.symm
  | negative => exact EReal.coe_ne_bot r h.symm

/-- A finite double above zero is a mantissa with an exponent. -/
theorem exists_unpack_positive {x : Float} (hfinite : Decimal.isFinite x = true) (hpos : 0 < x) :
    ∃ m e, ∃ hm : 0 < m, x.toModel.unpack = .finite .positive m e hm ∧ Canonical m e ∧ e ≤ 971 := by
  obtain ⟨hnumber, hnotInfinite⟩ := isFinite_iff.mp hfinite
  have hvalue := (lt_iff.mp hpos).2.2
  have hstored : IsStored x.toModel.unpack := unpack_stored _
  rw [value_zero, value] at hvalue
  cases hu : x.toModel.unpack with
  | notANumber => exact absurd hu hnumber
  | infinity s => exact absurd hu (hnotInfinite s)
  | zero s =>
    rw [hu] at hvalue
    exact absurd hvalue (lt_irrefl _)
  | finite s m e hm =>
    rw [hu] at hvalue hstored
    cases s with
    | positive => exact ⟨m, e, hm, rfl, hstored⟩
    | negative =>
      exact absurd hvalue
        (not_lt.mpr (EReal.coe_nonpos.mpr (neg_nonpos.mpr (magnitude_pos hm e).le)))

theorem value_of_unpack {x : Float} {m : Nat} {e : Int} {hm : 0 < m}
    (h : x.toModel.unpack = .finite .positive m e hm) : value x = (magnitude m e : ℝ) := by
  unfold value
  rw [h]
  rfl

theorem value_mul_floatPower {x : Float} {m : Nat} {e : Int} {hm : 0 < m}
    (h : x.toModel.unpack = .finite .positive m e hm) (hc : Canonical m e) {n : Nat}
    (hn : n ≤ 1023) :
    value (x * Timescale.floatPower n) = roundedValue (m * 2 ^ 52) (e + ((n : Int) - 52)) := by
  have hmul := unpackedValue_mul_power hm hc hn
  rw [← unpack_floatPower hn, ← h] at hmul
  exact hmul

theorem Canonical.exists_twice {m : Nat} {e : Int} (h : Canonical m e) :
    ∃ m₀ e₀, Canonical m₀ e₀ ∧ magnitude m₀ e₀ = magnitude m e * 2 := by
  have hlt := h.lt
  have hleast := h.least
  rcases Nat.lt_or_ge m (2 ^ 52) with hzeros | hfull
  · have hexp : e = -1074 := h.full.resolve_left (by omega)
    refine ⟨m * 2, e, ⟨by omega, hleast, Or.inr hexp⟩, ?_⟩
    unfold magnitude
    push_cast
    ring
  · refine ⟨m, e + 1, ⟨hlt, by omega, Or.inl hfull⟩, ?_⟩
    unfold magnitude
    rw [zpow_add_one₀ two_ne_zero, mul_assoc]

theorem Canonical.exists_scaled {m : Nat} {e : Int} (h : Canonical m e) (n : Nat) :
    ∃ m₀ e₀, Canonical m₀ e₀ ∧ magnitude m₀ e₀ = magnitude m e * 2 ^ n := by
  induction n with
  | zero => exact ⟨m, e, h, (mul_one _).symm⟩
  | succ n ih =>
    obtain ⟨m₁, e₁, h₁, hscaled⟩ := ih
    obtain ⟨m₀, e₀, h₀, htwice⟩ := h₁.exists_twice
    refine ⟨m₀, e₀, h₀, ?_⟩
    rw [htwice, hscaled, pow_succ, mul_assoc]

/-- Rounding leaves a number alone that has the form of a double. -/
theorem roundedValue_eq {m m₀ : Nat} {e e₀ : Int} (hm : m ≠ 0) (hc : Canonical m₀ e₀)
    (he : e₀ ≤ 971) (h : magnitude m₀ e₀ = magnitude m e) :
    roundedValue m e = (magnitude m e : ℝ) := by
  rw [← h]
  exact le_antisymm (roundedValue_le hm hc he h.ge) (le_roundedValue hm hc h.le)

/-- The lesser of an exact product and a double is that of the rounded product and the double. -/
theorem min_roundedValue {m m₀ m₁ : Nat} {e e₀ e₁ : Int} (hm : m ≠ 0) (h₀ : Canonical m₀ e₀)
    (h₁ : Canonical m₁ e₁) (he : e₁ ≤ 971) (h : magnitude m₀ e₀ = magnitude m e) :
    min (roundedValue m e) (magnitude m₁ e₁ : ℝ) =
      (min (magnitude m e) (magnitude m₁ e₁) : ℝ) := by
  rcases le_total (magnitude m e) (magnitude m₁ e₁) with hle | hge
  · -- Only the exponent could keep the product from being a double.
    have hexp : e₀ ≤ e₁ := by
      by_contra hlt
      have hgt := h₁.magnitude_lt_of_exponent_lt h₀ (not_le.mp hlt)
      rw [h] at hgt
      exact absurd hle (not_le.mpr hgt)
    rw [roundedValue_eq hm h₀ (hexp.trans he) h, min_eq_left hle,
      min_eq_left (EReal.coe_le_coe_iff.mpr hle)]
  · rw [min_eq_right hge, min_eq_right (le_roundedValue hm h₁ hge)]

/-- The lesser of a scaled double and another double is exact. -/
theorem min_mul_floatPower {x y : Float} (hx : Decimal.isFinite x = true) (px : 0 < x)
    (hy : Decimal.isFinite y = true) (py : 0 < y) {n : Nat} (hn : n ≤ 1023) :
    min (value (x * Timescale.floatPower n)) (value y) =
      (min (real x * 2 ^ n) (real y) : ℝ) := by
  obtain ⟨m, e, hm, hu, hcx, -⟩ := exists_unpack_positive hx px
  obtain ⟨m₁, e₁, hm₁, hv, hcy, hle⟩ := exists_unpack_positive hy py
  obtain ⟨m₀, e₀, hc, hscaled⟩ := hcx.exists_scaled n
  have hexact := magnitude_mul_power m e n
  have hpos : m * 2 ^ 52 ≠ 0 := Nat.ne_of_gt (Nat.mul_pos hm (by decide))
  unfold real
  rw [value_mul_floatPower hu hcx hn, value_of_unpack hu, value_of_unpack hv, EReal.toReal_coe,
    EReal.toReal_coe, ← hexact]
  exact min_roundedValue hpos hc hcy hle (hscaled.trans hexact.symm)

end WorkWatch.Double
