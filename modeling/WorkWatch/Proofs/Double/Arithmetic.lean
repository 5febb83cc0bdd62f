import WorkWatch.Proofs.Double.Order
import WorkWatch.Proofs.Double.Rounded

/-! Sums, differences and products of doubles. Rounding an exact result never passes a number that
is a double itself; hence the sign of a difference tells the order, and adding a number that is not
negative never leads backwards. -/

namespace WorkWatch.Double

open Float.Model Float.Model.UnpackedFloat

theorem magnitude_le_iff (m₁ m₂ : Nat) (e : Int) :
    magnitude m₁ e ≤ magnitude m₂ e ↔ m₁ ≤ m₂ := by
  refine ⟨fun h => ?_, fun h => ?_⟩
  · by_contra hlt
    exact absurd h (not_le.mpr (magnitude_lt (Nat.lt_of_not_le hlt) e))
  · rcases Nat.lt_or_eq_of_le h with hlt | rfl
    · exact (magnitude_lt hlt e).le
    · exact le_refl _

/-- Numbers of different exponents compare after both are written with the lesser one. -/
theorem magnitude_le_magnitude_iff (m₁ m₂ : Nat) (e₁ e₂ : Int) :
    magnitude m₁ e₁ ≤ magnitude m₂ e₂ ↔
      m₁ * 2 ^ (e₁ - e₂).toNat ≤ m₂ * 2 ^ (e₂ - e₁).toNat := by
  have hexp : e₂ - ((e₂ - e₁).toNat : Int) = e₁ - ((e₁ - e₂).toNat : Int) := by omega
  rw [← magnitude_shift m₁ e₁ (e₁ - e₂).toNat, ← magnitude_shift m₂ e₂ (e₂ - e₁).toNat, hexp]
  exact magnitude_le_iff _ _ _

theorem magnitude_carry (t : Int) : magnitude (2 ^ 53) t = magnitude (2 ^ 52) (t + 1) := by
  have hexp : (t + 1 - t).toNat = 1 := by omega
  rw [magnitude_lower (2 ^ 52) (Int.le_add_one (Int.le_refl t)), hexp, ← Nat.pow_add]

/-- What rounding `m * 2 ^ e` gives. -/
noncomputable def roundedValue (m : Nat) (e : Int) : EReal :=
  if 971 < roundingExponent m e ∨ (971 ≤ roundingExponent m e ∧ roundedMantissa m e = 2 ^ 53) then ⊤
  else (magnitude (roundedMantissa m e) (roundingExponent m e) : ℝ)

theorem roundedMagnitude_le {m m₀ : Nat} {e e₀ : Int} (hm : m ≠ 0) (hc : Canonical m₀ e₀)
    (h : magnitude m e ≤ magnitude m₀ e₀) :
    magnitude (roundedMantissa m e) (roundingExponent m e) ≤ magnitude m₀ e₀ := by
  have hleast := hc.least
  have ht : roundingExponent m e ≤ e₀ := by
    by_contra hlt
    have hval : roundingExponent m e = m.log2 + e - 52 := by
      unfold roundingExponent at hlt ⊢
      omega
    have hbig : magnitude m₀ e₀ < magnitude (2 ^ 52) (roundingExponent m e) :=
      magnitude_lt_of_exponent_lt hc.lt (Nat.le_refl _) (by omega)
    have hlog : magnitude (2 ^ 52) (roundingExponent m e) ≤ magnitude m e := by
      rw [magnitude_le_magnitude_iff, ← Nat.pow_add]
      calc 2 ^ (52 + (roundingExponent m e - e).toNat)
          = 2 ^ (m.log2 + (e - roundingExponent m e).toNat) := by congr 1; omega
        _ = 2 ^ m.log2 * 2 ^ (e - roundingExponent m e).toNat := Nat.pow_add ..
        _ ≤ m * 2 ^ (e - roundingExponent m e).toNat :=
          Nat.mul_le_mul_right _ (Nat.log2_self_le hm)
    exact absurd (hlog.trans h) (not_le.mpr hbig)
  rw [magnitude_lower m₀ ht] at h ⊢
  rw [magnitude_le_magnitude_iff] at h
  rw [magnitude_le_iff]
  exact divNearest_le (Nat.two_pow_pos _) h

theorem le_roundedMagnitude {m m₀ : Nat} {e e₀ : Int} (hm : m ≠ 0) (hc : Canonical m₀ e₀)
    (h : magnitude m₀ e₀ ≤ magnitude m e) :
    magnitude m₀ e₀ ≤ magnitude (roundedMantissa m e) (roundingExponent m e) := by
  have hleast := hc.least
  by_cases ht : roundingExponent m e ≤ e₀
  · rw [magnitude_lower m₀ ht] at h ⊢
    rw [magnitude_le_magnitude_iff] at h
    rw [magnitude_le_iff]
    exact le_divNearest (Nat.two_pow_pos _) h
  · have hfull := (le_roundedMantissa hm e).resolve_right (by omega)
    exact (magnitude_lt_of_exponent_lt hc.lt hfull (by omega)).le

/-- Rounding does not lead above a double that is not exceeded. -/
theorem roundedValue_le {m m₀ : Nat} {e e₀ : Int} (hm : m ≠ 0) (hc : Canonical m₀ e₀)
    (he : e₀ ≤ 971) (h : magnitude m e ≤ magnitude m₀ e₀) :
    roundedValue m e ≤ (magnitude m₀ e₀ : ℝ) := by
  have hle := roundedMagnitude_le hm hc h
  unfold roundedValue
  split
  · rename_i hover
    have hfull : 2 ^ 52 ≤ roundedMantissa m e := by
      rcases le_roundedMantissa hm e with hfull | hleast <;> omega
    rcases hover with hexp | ⟨hexp, hmant⟩
    · exact absurd hle (not_le.mpr (magnitude_lt_of_exponent_lt hc.lt hfull (by omega)))
    · rw [hmant, magnitude_carry] at hle
      exact absurd hle
        (not_le.mpr (magnitude_lt_of_exponent_lt hc.lt (Nat.le_refl _) (by omega)))
  · exact EReal.coe_le_coe_iff.mpr hle

/-- Rounding does not lead below a double that is reached. -/
theorem le_roundedValue {m m₀ : Nat} {e e₀ : Int} (hm : m ≠ 0) (hc : Canonical m₀ e₀)
    (h : magnitude m₀ e₀ ≤ magnitude m e) : ((magnitude m₀ e₀ : ℝ) : EReal) ≤ roundedValue m e := by
  unfold roundedValue
  split
  · exact le_top
  · exact EReal.coe_le_coe_iff.mpr (le_roundedMagnitude hm hc h)

theorem roundedValue_nonneg (m : Nat) (e : Int) : 0 ≤ roundedValue m e := by
  unfold roundedValue magnitude
  split
  · exact le_top
  · exact EReal.coe_nonneg.mpr (by positivity)

noncomputable def signed : Sign → EReal → EReal
  | .positive, x => x
  | .negative, x => -x

theorem unpackedValue_carried {q : Nat} {t : Int} (hq : q ≤ 2 ^ 53) (s : Sign) :
    carried s q t ≠ .notANumber ∧ unpackedValue (carried s q t) = signed s (magnitude q t : ℝ) := by
  unfold carried
  split
  · rename_i hz
    subst hz
    refine ⟨nofun, ?_⟩
    cases s <;> simp [unpackedValue, signed, magnitude]
  · split
    · refine ⟨nofun, ?_⟩
      cases s <;> simp [unpackedValue, signed]
    · have hmax : q = 2 ^ 53 := by omega
      refine ⟨nofun, ?_⟩
      rw [hmax, magnitude_carry]
      cases s <;> simp [unpackedValue, signed]

theorem unpackedValue_round {m : Nat} (hm : m ≠ 0) (e : Int) (s : Sign) {u : UnpackedFloat}
    (hu : u = carried s (roundedMantissa m e) (roundingExponent m e)) :
    (Float.Model.pack u).unpack ≠ .notANumber ∧
      unpackedValue (Float.Model.pack u).unpack = signed s (roundedValue m e) := by
  have hleast : -1074 ≤ roundingExponent m e := Int.le_max_right _ _
  rw [hu, unpack_pack_carried (roundedMantissa_le m e) hleast (le_roundedMantissa hm e)]
  unfold roundedValue
  split
  · refine ⟨nofun, ?_⟩
    cases s <;> simp [unpackedValue, signed]
  · exact unpackedValue_carried (roundedMantissa_le m e) s

theorem unpackedValue_normalize (n : Int) (e : Int) (s : Sign) :
    (Float.Model.pack (UnpackedFloat.normalize Format.binary64 n e s)).unpack ≠ .notANumber ∧
      unpackedValue (Float.Model.pack (UnpackedFloat.normalize Format.binary64 n e s)).unpack =
        if 0 < n then roundedValue n.toNat e else if n < 0 then -roundedValue (-n).toNat e
        else 0 := by
  unfold UnpackedFloat.normalize
  rcases Int.lt_trichotomy n 0 with hn | rfl | hn
  · rw [compare_lt_iff_lt.mpr hn, if_neg (by omega), if_pos hn]
    exact unpackedValue_round (by omega) e .negative (round_eq (by omega) e .negative)
  · simp [unpackedValue]
  · rw [compare_gt_iff_gt.mpr hn, if_pos hn]
    exact unpackedValue_round (by omega) e .positive (round_eq (by omega) e .positive)

theorem unpackedValue_finite {s : Sign} {m : Nat} {e : Int} {hm : 0 < m} {k : Int} (hk : k ≤ e) :
    unpackedValue (.finite s m e hm) =
      (((s.apply (m <<< (e - k).toNat : Nat) : Int) * 2 ^ k : ℝ) : EReal) := by
  rw [Nat.shiftLeft_eq]
  cases s
  · rw [unpackedValue, magnitude_lower m hk]
    simp [Sign.apply, magnitude]
  · rw [unpackedValue, magnitude_lower m hk]
    simp [Sign.apply, magnitude]

theorem magnitude_toNat {n : Int} (hn : 0 ≤ n) (e : Int) : magnitude n.toNat e = n * 2 ^ e := by
  unfold magnitude
  rw [← Int.cast_natCast, Int.toNat_of_nonneg hn]

theorem le_normalize {u : UnpackedFloat} (hu : IsStored u) {n : Int} {e : Int} (s : Sign)
    (h : unpackedValue u ≤ ((n * 2 ^ e : ℝ) : EReal)) (hbot : unpackedValue u ≠ ⊥) :
    unpackedValue u ≤
      unpackedValue (Float.Model.pack (UnpackedFloat.normalize Format.binary64 n e s)).unpack := by
  have hpow : (0 : ℝ) < 2 ^ e := by positivity
  rw [(unpackedValue_normalize n e s).2]
  match u with
  | .notANumber | .zero _ =>
    have hn : 0 ≤ n := by
      have h := EReal.coe_nonneg.mp h
      exact_mod_cast nonneg_of_mul_nonneg_left h hpow
    split
    · exact roundedValue_nonneg _ _
    · rw [if_neg (by omega)]
      exact le_refl _
  | .infinity .positive => exact absurd h (not_le.mpr (EReal.coe_lt_top _))
  | .infinity .negative => exact absurd rfl hbot
  | .finite .positive m₀ e₀ hm₀ =>
    have h := EReal.coe_le_coe_iff.mp h
    have hn : 0 < n := by
      have := pos_of_mul_pos_left ((magnitude_pos hm₀ e₀).trans_le h) hpow.le
      exact_mod_cast this
    rw [if_pos hn]
    rw [← magnitude_toNat hn.le] at h
    exact le_roundedValue (by omega) hu.1 h
  | .finite .negative m₀ e₀ hm₀ =>
    have h := EReal.coe_le_coe_iff.mp h
    have hneg : ((-magnitude m₀ e₀ : ℝ) : EReal) ≤ 0 :=
      EReal.coe_nonpos.mpr (neg_nonpos.mpr (magnitude_pos hm₀ e₀).le)
    split
    · exact hneg.trans (roundedValue_nonneg _ _)
    · split
      · rename_i hn
        have hle : magnitude (-n).toNat e ≤ magnitude m₀ e₀ := by
          rw [magnitude_toNat (by omega)]
          push_cast
          linarith
        have := roundedValue_le (by omega) hu.1 hu.2 hle
        rw [unpackedValue, EReal.coe_neg]
        exact EReal.neg_le_neg_iff.mpr this
      · exact hneg

theorem unpack_add (x y : Float) :
    (x + y).toModel.unpack =
      (Float.Model.pack (x.toModel.unpack.add Format.binary64 y.toModel.unpack)).unpack := rfl

/-! A zero takes part in a sum or difference only by its sign. -/

theorem zero_add_zero (s₁ s₂ : Sign) :
    UnpackedFloat.add Format.binary64 (.zero s₁) (.zero s₂) =
      .zero (if s₁ == s₂ then s₁ else .positive) := by
  cases s₁ <;> cases s₂ <;> rfl

theorem zero_add_finite (s₁ s₂ : Sign) (m : Nat) (e : Int) (h : 0 < m) :
    UnpackedFloat.add Format.binary64 (.zero s₁) (.finite s₂ m e h) = .finite s₂ m e h := rfl

theorem finite_add_zero (s₁ s₂ : Sign) (m : Nat) (e : Int) (h : 0 < m) :
    UnpackedFloat.add Format.binary64 (.finite s₁ m e h) (.zero s₂) = .finite s₁ m e h := rfl

theorem zero_sub_zero (s₁ s₂ : Sign) :
    UnpackedFloat.sub Format.binary64 (.zero s₁) (.zero s₂) =
      .zero (if s₁ == -s₂ then s₁ else .positive) := by
  cases s₁ <;> cases s₂ <;> rfl

theorem zero_sub_finite (s₁ s₂ : Sign) (m : Nat) (e : Int) (h : 0 < m) :
    UnpackedFloat.sub Format.binary64 (.zero s₁) (.finite s₂ m e h) = .finite (-s₂) m e h := rfl

theorem finite_sub_zero (s₁ s₂ : Sign) (m : Nat) (e : Int) (h : 0 < m) :
    UnpackedFloat.sub Format.binary64 (.finite s₁ m e h) (.zero s₂) = .finite s₁ m e h := rfl

theorem le_unpacked_add {x y : UnpackedFloat} (hx : IsStored x) (hy : IsStored y)
    (nx : x ≠ .notANumber) (ny : y ≠ .notANumber) (hbot : unpackedValue x ≠ ⊥)
    (hnonneg : 0 ≤ unpackedValue y) :
    (Float.Model.pack (x.add Format.binary64 y)).unpack ≠ .notANumber ∧
      unpackedValue x ≤ unpackedValue (Float.Model.pack (x.add Format.binary64 y)).unpack := by
  have htop (h : x.add Format.binary64 y = .infinity .positive) :
      (Float.Model.pack (x.add Format.binary64 y)).unpack ≠ .notANumber ∧
        unpackedValue x ≤ unpackedValue (Float.Model.pack (x.add Format.binary64 y)).unpack := by
    rw [h, unpack_pack_infinity]
    exact ⟨nofun, le_top⟩
  -- Only the sum of two finite numbers is rounded.
  match x, y with
  | .notANumber, _ => exact absurd rfl nx
  | _, .notANumber => exact absurd rfl ny
  | .infinity .negative, _ => exact absurd rfl hbot
  | _, .infinity .negative => exact absurd hnonneg (not_le.mpr EReal.bot_lt_zero)
  | .infinity .positive, .infinity .positive => exact htop rfl
  | .infinity .positive, .zero _ => exact htop rfl
  | .infinity .positive, .finite .. => exact htop rfl
  | .zero _, .infinity .positive => exact htop rfl
  | .finite .., .infinity .positive => exact htop rfl
  | .zero s₁, .zero s₂ =>
    rw [zero_add_zero, unpack_pack_zero]
    exact ⟨nofun, le_refl _⟩
  | .zero s₁, .finite s₂ m₂ e₂ h₂ =>
    rw [zero_add_finite, unpack_pack_stored hy]
    exact ⟨ny, hnonneg⟩
  | .finite s₁ m₁ e₁ h₁, .zero s₂ =>
    rw [finite_add_zero, unpack_pack_stored hx]
    exact ⟨nx, le_refl _⟩
  | .finite s₁ m₁ e₁ h₁, .finite s₂ m₂ e₂ h₂ =>
    refine ⟨(unpackedValue_normalize _ _ _).1, le_normalize hx _ ?_ hbot⟩
    rw [unpackedValue_finite (min_le_right e₁ e₂)] at hnonneg
    rw [unpackedValue_finite (min_le_left e₁ e₂)]
    have := EReal.coe_nonneg.mp hnonneg
    apply EReal.coe_le_coe_iff.mpr
    rw [Int.cast_add, add_mul]
    linarith

/-- A sum with a number that is not negative is not less than the other number. -/
theorem le_add {x y : Float} (hx : IsNumber x) (hbot : value x ≠ ⊥) (hy : 0 ≤ y) : x ≤ x + y := by
  obtain ⟨-, ny, hnonneg⟩ := le_iff.mp hy
  have h := le_unpacked_add (unpack_stored _) (unpack_stored _) hx ny hbot hnonneg
  rw [← unpack_add] at h
  exact le_iff.mpr ⟨hx, h.1, h.2⟩

theorem unpackedValue_neg (s : Sign) {m : Nat} {e : Int} (hm : 0 < m) :
    unpackedValue (.finite (-s) m e hm) = -unpackedValue (.finite s m e hm) := by
  cases s
  · change ((magnitude m e : ℝ) : EReal) = -((-magnitude m e : ℝ) : EReal)
    rw [EReal.coe_neg, neg_neg]
  · exact EReal.coe_neg _

/-- A positive exact difference stays positive when it is rounded. -/
theorem normalize_pos {n e : Int} (hn : 0 < n) (he : -1074 ≤ e) (s : Sign) :
    0 <
      unpackedValue (Float.Model.pack (UnpackedFloat.normalize Format.binary64 n e s)).unpack := by
  have hleast : Canonical 1 (-1074) := ⟨by decide, by decide, Or.inr rfl⟩
  have hle : magnitude 1 (-1074) ≤ magnitude n.toNat e := by
    have hexp : (-1074 - e).toNat = 0 := by omega
    have hone : 1 ≤ n.toNat := by omega
    rw [magnitude_le_magnitude_iff, hexp]
    exact Nat.mul_le_mul hone Nat.one_le_two_pow
  rw [(unpackedValue_normalize n e s).2, if_pos hn]
  exact (EReal.coe_pos.mpr (magnitude_pos Nat.one_pos _)).trans_le
    (le_roundedValue (by omega) hleast hle)

theorem le_of_unpacked_sub {x y : UnpackedFloat} (hx : IsStored x) (hy : IsStored y)
    (hnan : (Float.Model.pack (x.sub Format.binary64 y)).unpack ≠ .notANumber)
    (hle : unpackedValue (Float.Model.pack (x.sub Format.binary64 y)).unpack ≤ 0) :
    x ≠ .notANumber ∧ y ≠ .notANumber ∧ unpackedValue x ≤ unpackedValue y := by
  have htop (h : x.sub Format.binary64 y = .infinity .positive) : False := by
    rw [h, unpack_pack_infinity] at hle
    exact absurd hle (not_le.mpr EReal.zero_lt_top)
  have hnan (h : x.sub Format.binary64 y = .notANumber) : False := by
    rw [h, unpack_pack_notANumber] at hnan
    exact hnan rfl
  -- Where the difference is exact its sign is at hand; a difference that was rounded keeps it.
  match x, y with
  | .notANumber, _ => exact (hnan rfl).elim
  | .infinity _, .notANumber => exact (hnan rfl).elim
  | .zero _, .notANumber => exact (hnan rfl).elim
  | .finite .., .notANumber => exact (hnan rfl).elim
  | .infinity .positive, .infinity .positive => exact (hnan rfl).elim
  | .infinity .positive, .infinity .negative => exact (htop rfl).elim
  | .infinity .positive, .zero _ => exact (htop rfl).elim
  | .infinity .positive, .finite .. => exact (htop rfl).elim
  | .infinity .negative, .infinity _ => exact ⟨nofun, nofun, bot_le⟩
  | .infinity .negative, .zero _ => exact ⟨nofun, nofun, bot_le⟩
  | .infinity .negative, .finite .. => exact ⟨nofun, nofun, bot_le⟩
  | .zero _, .infinity .positive => exact ⟨nofun, nofun, le_top⟩
  | .finite .., .infinity .positive => exact ⟨nofun, nofun, le_top⟩
  | .zero _, .infinity .negative => exact (htop rfl).elim
  | .finite .., .infinity .negative => exact (htop rfl).elim
  | .zero _, .zero _ => exact ⟨nofun, nofun, le_refl _⟩
  | .zero s₁, .finite s₂ m₂ e₂ h₂ =>
    have hneg : IsStored (.finite (-s₂) m₂ e₂ h₂) := hy
    rw [zero_sub_finite, unpack_pack_stored hneg, unpackedValue_neg] at hle
    exact ⟨nofun, nofun, EReal.neg_le_zero.mp hle⟩
  | .finite s₁ m₁ e₁ h₁, .zero s₂ =>
    rw [finite_sub_zero, unpack_pack_stored hx] at hle
    exact ⟨nofun, nofun, hle⟩
  | .finite s₁ m₁ e₁ h₁, .finite s₂ m₂ e₂ h₂ =>
    have hleast : -1074 ≤ min e₁ e₂ := le_min hx.1.least hy.1.least
    refine ⟨nofun, nofun, ?_⟩
    rw [unpackedValue_finite (min_le_left e₁ e₂), unpackedValue_finite (min_le_right e₁ e₂)]
    apply EReal.coe_le_coe_iff.mpr
    by_contra hlt
    have hpow : (0 : ℝ) < 2 ^ min e₁ e₂ := by positivity
    have hdiff := Int.cast_lt.mp (lt_of_mul_lt_mul_right (not_le.mp hlt) hpow.le)
    exact absurd hle (not_le.mpr (normalize_pos (Int.sub_pos.mpr hdiff) hleast .positive))

/-- The sign of a difference tells the order. -/
protected theorem le_of_sub_nonpos {x y : Float} (h : x - y ≤ 0) : x ≤ y := by
  obtain ⟨hnan, -, hle⟩ := le_iff.mp h
  have := le_of_unpacked_sub (unpack_stored _) (unpack_stored _) hnan hle
  exact le_iff.mpr this

theorem unpacked_sub_ne_nan {x y : UnpackedFloat} (nx : x ≠ .notANumber) (ny : y ≠ .notANumber)
    (hx : IsStored x) (hy : IsStored y) (hfinite : ∀ s, y ≠ .infinity s) :
    (Float.Model.pack (x.sub Format.binary64 y)).unpack ≠ .notANumber := by
  match x, y with
  | .notANumber, _ => exact absurd rfl nx
  | _, .notANumber => exact absurd rfl ny
  | _, .infinity s => exact absurd rfl (hfinite s)
  | .infinity s, .zero _ =>
    exact fun h => absurd ((unpack_pack_infinity s).symm.trans h) nofun
  | .infinity s, .finite .. =>
    exact fun h => absurd ((unpack_pack_infinity s).symm.trans h) nofun
  | .zero s₁, .zero s₂ =>
    rw [zero_sub_zero, unpack_pack_zero]
    exact nofun
  | .zero s₁, .finite s₂ m₂ e₂ h₂ =>
    have hneg : IsStored (.finite (-s₂) m₂ e₂ h₂) := hy
    rw [zero_sub_finite, unpack_pack_stored hneg]
    exact nofun
  | .finite s₁ m₁ e₁ h₁, .zero s₂ =>
    rw [finite_sub_zero, unpack_pack_stored hx]
    exact nofun
  | .finite .., .finite .. => exact (unpackedValue_normalize _ _ _).1

@[simp] theorem value_zero : value 0 = 0 := rfl

theorem isNumber_zero : IsNumber 0 := nofun

end WorkWatch.Double
