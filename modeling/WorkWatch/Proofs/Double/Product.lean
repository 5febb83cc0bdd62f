import WorkWatch.Proofs.Double.Arithmetic
import WorkWatch.Proofs.Double.Binary
import WorkWatch.Wait.Timescale

/-! Products of positive doubles are numbers, and the powers of two that scale an interval are
positive doubles. -/

namespace WorkWatch.Double

open Float.Model Float.Model.UnpackedFloat

/-- The exponents of two factors add up to no more than the exponent of the rounded product. -/
theorem Canonical.add_le_roundingExponent {m₁ m₂ : Nat} {e₁ e₂ : Int} (h₁ : Canonical m₁ e₁)
    (h₂ : Canonical m₂ e₂) (p₁ : 0 < m₁) (p₂ : 0 < m₂) :
    e₁ + e₂ ≤ roundingExponent (m₁ * m₂) (e₁ + e₂) := by
  have hlog (h : 2 ^ 52 ≤ m₁ * m₂) : 52 ≤ (m₁ * m₂).log2 :=
    (Nat.le_log2 (Nat.ne_of_gt (Nat.mul_pos p₁ p₂))).mpr h
  unfold roundingExponent
  rcases h₁.full with hm₁ | he₁
  · have := hlog (hm₁.trans (Nat.le_mul_of_pos_right m₁ p₂))
    omega
  · rcases h₂.full with hm₂ | he₂
    · have := hlog (hm₂.trans (Nat.le_mul_of_pos_left m₂ p₁))
      omega
    · omega

theorem unpacked_mul_ne_nan {x y : UnpackedFloat} (hx : IsStored x) (hy : IsStored y)
    (px : 0 < unpackedValue x) (py : 0 < unpackedValue y) :
    (Float.Model.pack (x.mul Format.binary64 y)).unpack ≠ .notANumber := by
  have hinfinite (s : Sign) (h : x.mul Format.binary64 y = .infinity s) :
      (Float.Model.pack (x.mul Format.binary64 y)).unpack ≠ .notANumber := by
    rw [h, unpack_pack_infinity]
    exact nofun
  match x, y with
  | .notANumber, _ => exact absurd px (lt_irrefl _)
  | _, .notANumber => exact absurd py (lt_irrefl _)
  | .zero _, _ => exact absurd px (lt_irrefl _)
  | _, .zero _ => exact absurd py (lt_irrefl _)
  | .infinity s₁, .infinity s₂ => exact hinfinite (s₁ * s₂) rfl
  | .infinity s₁, .finite s₂ .. => exact hinfinite (s₁ * s₂) rfl
  | .finite s₁ .., .infinity s₂ => exact hinfinite (s₁ * s₂) rfl
  | .finite s₁ m₁ e₁ p₁, .finite s₂ m₂ e₂ p₂ =>
    have hpos : m₁ * m₂ ≠ 0 := Nat.ne_of_gt (Nat.mul_pos p₁ p₂)
    have hle := hx.1.add_le_roundingExponent hy.1 p₁ p₂
    exact (unpackedValue_round hpos (e₁ + e₂) (s₁ * s₂) (roundWithAccuracy_eq hle _)).1

theorem isNumber_mul {x y : Float} (hx : 0 < x) (hy : 0 < y) : IsNumber (x * y) := by
  have px := (lt_iff.mp hx).2.2
  have py := (lt_iff.mp hy).2.2
  exact unpacked_mul_ne_nan (unpack_stored _) (unpack_stored _) px py

theorem isNumber_sub {x y : Float} (hx : IsNumber x) (hy : Decimal.isFinite y = true) :
    IsNumber (x - y) := by
  obtain ⟨ny, hfinite⟩ := isFinite_iff.mp hy
  exact unpacked_sub_ne_nan hx ny (unpack_stored _) (unpack_stored _) hfinite

theorem unpack_floatPower {n : Nat} (hn : n ≤ 1023) :
    (Timescale.floatPower n).toModel.unpack =
      .finite .positive (2 ^ 52) ((n : Int) - 52) (by decide) := by
  have hbinade : Decimal.binade = 2 ^ 52 := rfl
  have hinfinite : Decimal.infiniteRank = 2047 * 2 ^ 52 := rfl
  have hrank : (n + 1023) * Decimal.binade ≤ Decimal.infiniteRank := by
    rw [hbinade, hinfinite]
    omega
  have hunpack := unpack_ofRank false hrank
  have hfield : (n + 1023) * 2 ^ 52 / 2 ^ 52 = n + 1023 := by omega
  have hfraction : (n + 1023) * 2 ^ 52 % 2 ^ 52 = 0 := by omega
  rw [hbinade, hfield, hfraction] at hunpack
  change (Timescale.floatPower n).toModel.unpack = _ at hunpack
  unfold ofFields at hunpack
  rw [if_neg (by omega), if_neg (by omega)] at hunpack
  rw [hunpack, UnpackedFloat.finite.injEq]
  exact ⟨rfl, rfl, by omega⟩

theorem floatPower_pos {n : Nat} (hn : n ≤ 1023) : 0 < Timescale.floatPower n := by
  have hunpack := unpack_floatPower hn
  refine lt_iff.mpr ⟨isNumber_zero, ?_, ?_⟩
  · unfold IsNumber
    rw [hunpack]
    exact nofun
  · rw [value_zero, value, hunpack]
    exact EReal.coe_pos.mpr (magnitude_pos (by decide) _)

theorem magnitude_mul_power (m : Nat) (e : Int) (n : Nat) :
    magnitude (m * 2 ^ 52) (e + ((n : Int) - 52)) = magnitude m e * 2 ^ n := by
  have hexp : e + ((n : Int) - 52) = e + n - (52 : Nat) := by omega
  rw [hexp, magnitude_shift]
  unfold magnitude
  rw [zpow_add₀ two_ne_zero, zpow_natCast, mul_assoc]

/-- A positive double times a power of two is the exact product, rounded. -/
theorem unpackedValue_mul_power {m : Nat} {e : Int} (hm : 0 < m) (hc : Canonical m e) {n : Nat}
    (hn : n ≤ 1023) :
    unpackedValue (Float.Model.pack ((UnpackedFloat.finite .positive m e hm).mul Format.binary64
      (.finite .positive (2 ^ 52) ((n : Int) - 52) (by decide)))).unpack =
      roundedValue (m * 2 ^ 52) (e + ((n : Int) - 52)) := by
  have hpower : Canonical (2 ^ 52) ((n : Int) - 52) :=
    ⟨by decide, by omega, Or.inl (le_refl _)⟩
  have hpos : m * 2 ^ 52 ≠ 0 := Nat.ne_of_gt (Nat.mul_pos hm (by decide))
  have hround := roundWithAccuracy_eq (hc.add_le_roundingExponent hpower hm (by decide)) .positive
  exact (unpackedValue_round hpos (e + ((n : Int) - 52)) .positive hround).2

/-- Times a power of two that is no fraction, a number does not get less, rounding included. -/
theorem le_unpacked_mul_power {x : UnpackedFloat} (hx : IsStored x) (px : 0 < unpackedValue x)
    {n : Nat} (hn : n ≤ 1023) :
    unpackedValue x ≤ unpackedValue (Float.Model.pack (x.mul Format.binary64
      (.finite .positive (2 ^ 52) ((n : Int) - 52) (by decide)))).unpack := by
  match x with
  | .notANumber => exact absurd px (lt_irrefl _)
  | .zero _ => exact absurd px (lt_irrefl _)
  | .infinity .negative => exact absurd px (not_lt.mpr bot_le)
  | .finite .negative m e hm =>
    exact absurd px (not_lt.mpr (EReal.coe_nonpos.mpr (neg_nonpos.mpr (magnitude_pos hm e).le)))
  | .infinity .positive =>
    have hmul : (UnpackedFloat.infinity .positive).mul Format.binary64
        (.finite .positive (2 ^ 52) ((n : Int) - 52) (by decide)) = .infinity .positive := rfl
    rw [hmul, unpack_pack_infinity]
  | .finite .positive m e hm =>
    have hpos : m * 2 ^ 52 ≠ 0 := Nat.ne_of_gt (Nat.mul_pos hm (by decide))
    have hpower : (1 : ℝ) ≤ 2 ^ n := one_le_pow₀ one_le_two
    rw [unpackedValue_mul_power hm hx.1 hn]
    apply le_roundedValue hpos hx.1
    rw [magnitude_mul_power]
    exact le_mul_of_one_le_right (magnitude_pos hm e).le hpower

theorem le_mul_floatPower {x : Float} (hx : 0 < x) {n : Nat} (hn : n ≤ 1023) :
    x ≤ x * Timescale.floatPower n := by
  obtain ⟨-, nx, px⟩ := lt_iff.mp hx
  refine le_iff.mpr ⟨nx, isNumber_mul hx (floatPower_pos hn), ?_⟩
  have hle := le_unpacked_mul_power (unpack_stored _) px hn
  rw [← unpack_floatPower hn] at hle
  exact hle

end WorkWatch.Double
