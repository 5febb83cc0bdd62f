import WorkWatch.Decimal.Layout
import WorkWatch.Decimal.Read
import WorkWatch.Proofs.Decimal.Point
import WorkWatch.Proofs.Text.Digits
import WorkWatch.Proofs.Text.Split

/-! Reading doubles from their text. A text of digits with a point and an exponent denotes a decimal
fraction, and it is read as the double to which that fraction is rounded. -/

namespace WorkWatch.Decimal

open Double (Canonical RoundsTo rankOf nearestRank_eq zpow_eq_ite)
open WorkWatch.Text

/-! Decimal fractions. -/

theorem length_toDigits_bounds {n : Nat} (h : n ≠ 0) :
    (10 : ℝ) ^ ((Nat.toDigits 10 n).length - 1 : Int) ≤ n ∧
      (n : ℝ) < 10 ^ ((Nat.toDigits 10 n).length : Int) := by
  obtain ⟨k, hk⟩ : ∃ k, (Nat.toDigits 10 n).length = k + 1 :=
    ⟨_, (Nat.succ_pred_eq_of_pos (List.length_pos_iff.mpr Nat.toDigits_ne_nil)).symm⟩
  have hlength {j : Nat} (hj : 0 < j) : (Nat.toDigits 10 n).length ≤ j ↔ n < 10 ^ j :=
    Nat.length_toDigits_le_iff (by decide) hj
  rw [hk, Nat.cast_add_one, add_sub_cancel_right]
  constructor
  · rw [zpow_natCast]
    rcases Nat.eq_zero_or_pos k with rfl | hpos
    · rw [pow_zero]
      exact_mod_cast Nat.one_le_iff_ne_zero.mpr h
    · have hlow := mt (hlength hpos).mpr (by omega)
      exact_mod_cast Nat.le_of_not_lt hlow
  · have hhigh := (hlength (Nat.succ_pos k)).mp (Nat.le_of_eq hk)
    exact_mod_cast hhigh

/-- The limits that settle a number by its size leave every double between them. -/
theorem size_bounds {q : ℝ} {m : Nat} {e size : Int} (hc : Canonical m e) (he : e ≤ 971)
    (hm : 0 < m) (h : RoundsTo q m e) (hlow : (10 : ℝ) ^ (size - 1) ≤ q)
    (hhigh : q < 10 ^ size) : -330 ≤ size ∧ size ≤ 310 := by
  have hten {a b : Int} (hab : a ≤ b) : (10 : ℝ) ^ a ≤ 10 ^ b :=
    zpow_le_zpow_right₀ (by norm_num) hab
  constructor
  · by_contra hsmall
    have htiny : (10 : ℝ) ^ (-331 : Int) ≤ 2 ^ (-1075 : Int) := by
      have hpow : 2 ^ 1075 ≤ 10 ^ 331 := by decide +kernel
      rw [zpow_neg, zpow_neg]
      apply inv_anti₀ (Double.two_zpow_pos _)
      exact_mod_cast hpow
    have hhalf : (2 : ℝ) ^ (-1075 : Int) ≤ q := by
      have hone : (1 : ℝ) ≤ m := Nat.one_le_cast.mpr hm
      calc (2 : ℝ) ^ (-1075 : Int) ≤ 2 ^ (e - 1) := Double.two_zpow_le (by have := hc.least; omega)
        _ = (1 - 1 / 2) * 2 ^ e := by
          rw [zpow_sub_one₀ two_ne_zero]
          ring
        _ ≤ (m - 1 / 2) * 2 ^ e :=
          mul_le_mul_of_nonneg_right (by linarith) (Double.two_zpow_pos e).le
        _ ≤ q := (Double.half_sub_le_lowEnd m e).trans h.low
    have hless := hhigh.trans_le (hten (show size ≤ -331 by omega))
    exact absurd (hhalf.trans_lt hless) htiny.not_gt
  · by_contra hlarge
    have hhuge : (2 : ℝ) ^ (1024 : Int) ≤ 10 ^ (310 : Int) := by
      have hpow : 2 ^ 1024 ≤ 10 ^ 310 := by decide +kernel
      exact_mod_cast hpow
    have hbelow : q < 2 ^ (1024 : Int) := by
      calc q < 2 ^ 53 * 2 ^ e := h.lt hc.lt
        _ = 2 ^ (e + (53 : Nat)) := (Double.two_zpow_add e 53).symm
        _ ≤ 2 ^ (1024 : Int) := Double.two_zpow_le (by omega)
    have hmore := (hten (show 310 ≤ size - 1 by omega)).trans hlow
    exact absurd (hmore.trans_lt hbelow) hhuge.not_gt

/-- A decimal fraction is the double to which it is rounded. -/
theorem ofDecimal_eq (negative : Bool) {digits m : Nat} {exponent e : Int} (hc : Canonical m e)
    (he : e ≤ 971) (hm : 0 < m) (h : RoundsTo (digits * 10 ^ exponent) m e) :
    ofDecimal negative digits exponent = ofRank negative (rankOf m e) := by
  have hne : digits ≠ 0 := by
    rintro rfl
    have hpos := h.pos hm
    rw [Nat.cast_zero, zero_mul] at hpos
    exact lt_irrefl _ hpos
  have hten := ten_zpow_pos exponent
  obtain ⟨hfirst, hlast⟩ := length_toDigits_bounds hne
  obtain ⟨hlow, hhigh⟩ : -330 ≤ ((Nat.toDigits 10 digits).length + exponent : Int) ∧
      ((Nat.toDigits 10 digits).length + exponent : Int) ≤ 310 := by
    apply size_bounds hc he hm h
    · rw [add_sub_right_comm, zpow_add₀ (by norm_num)]
      exact mul_le_mul_of_nonneg_right hfirst hten.le
    · rw [zpow_add₀ (by norm_num)]
      exact mul_lt_mul_of_pos_right hlast hten
  unfold ofDecimal
  dsimp only
  rw [if_neg hne, if_neg (by omega), if_neg (by omega)]
  rw [zpow_eq_ite] at h
  split
  · rename_i hsign
    rw [if_pos hsign] at h
    unfold nearest
    rw [nearestRank_eq Nat.one_pos hc hm]
    rw [Nat.cast_mul, cast_tenTo, Nat.cast_one, div_one]
    exact h
  · rename_i hsign
    rw [if_neg hsign] at h
    unfold nearest
    rw [nearestRank_eq (tenTo_pos _) hc hm]
    rw [cast_tenTo, div_eq_mul_inv]
    exact h

/-! Numerals. -/

/-- What stands in the text of a number: digits, a point, the mark of an exponent, signs. -/
def IsNumeral (c : Char) : Prop := isDigit c = true ∨ c = '.' ∨ c = 'e' ∨ c = '-' ∨ c = '+'

/-- The text of a number without its sign begins with a digit. -/
structure Unsigned (text : List Char) : Prop where
  numeral : ∀ c ∈ text, IsNumeral c
  first : ∃ c rest, text = c :: rest ∧ isDigit c = true

/-- Digits only, at least one. -/
structure IsRow (digits : List Char) : Prop where
  ne_nil : digits ≠ []
  digit : ∀ c ∈ digits, isDigit c = true

theorem isRow_digitsOf (n : Nat) : IsRow (digitsOf n) :=
  ⟨Nat.toDigits_ne_nil, fun _ => Nat.isDigit_of_mem_toDigits (by decide) (by decide)⟩

theorem IsRow.unsigned_append {digits rest : List Char} (h : IsRow digits)
    (hrest : ∀ c ∈ rest, IsNumeral c) : Unsigned (digits ++ rest) := by
  constructor
  · intro c hc
    exact (List.mem_append.mp hc).elim (fun hc => Or.inl (h.digit c hc)) (hrest c)
  · cases digits with
    | nil => exact absurd rfl h.ne_nil
    | cons first more => exact ⟨first, more ++ rest, rfl, h.digit first List.mem_cons_self⟩

theorem IsRow.unsigned {digits : List Char} (h : IsRow digits) : Unsigned digits := by
  have hnone : ∀ c ∈ ([] : List Char), IsNumeral c := nofun
  rw [← List.append_nil digits]
  exact h.unsigned_append hnone

theorem normalized_digit {c : Char} (h : isDigit c = true) :
    isOuterBlank c = false ∧ anyDigitValue? c = some (digitValue c) ∧ digitChar (digitValue c) = c := by
  have hrange := isDigit_iff.mp h
  refine ⟨?_, if_pos h, ?_⟩
  · unfold isOuterBlank isBlank
    simp
    omega
  · unfold digitChar digitValue
    have hsum : '0'.toNat + (c.toNat - '0'.toNat) = c.toNat := Nat.add_sub_of_le hrange.1
    rw [hsum, Char.ofNat_toNat]

theorem normalized_eq {text : List Char} (h : ∀ c ∈ text, IsNumeral c) :
    normalized (String.ofList text) = text := by
  unfold normalized
  rw [String.toList_ofList, trim_eq_self]
  · conv_rhs => rw [← List.map_id text]
    refine List.map_congr_left fun c hc => ?_
    rcases h c hc with hdigit | rfl | rfl | rfl | rfl
    · obtain ⟨-, hvalue, hchar⟩ := normalized_digit hdigit
      rw [hvalue]
      exact hchar
    all_goals rfl
  · intro c hc
    rcases h c hc with hdigit | rfl | rfl | rfl | rfl
    · exact (normalized_digit hdigit).1
    all_goals rfl

theorem withoutUnderscores_eq {text : List Char} (h : '_' ∉ text) {before : Char}
    (hbefore : before ≠ '_') : withoutUnderscores before text = some text := by
  induction text generalizing before with
  | nil => rw [withoutUnderscores, if_neg hbefore]
  | cons c text ih =>
    rw [List.mem_cons, not_or] at h
    rw [withoutUnderscores, if_neg (by simp [hbefore]), ih h.2 (Ne.symm h.1)]
    · rfl
    · exact Ne.symm h.1

theorem takeSign_unsigned {text : List Char} (h : Unsigned text) :
    takeSign text = (false, text) := by
  obtain ⟨c, rest, rfl, hdigit⟩ := h.first
  have hrange := isDigit_iff.mp hdigit
  rw [takeSign]
  · rintro rest' heq
    rw [(List.cons.inj heq).1] at hrange
    exact absurd hrange (by decide)
  · rintro rest' heq
    rw [(List.cons.inj heq).1] at hrange
    exact absurd hrange (by decide)

/-- A numeral is none of the words for infinity and NaN. -/
theorem word_ne {text : List Char} (h : Unsigned text) (first : Char) {more : List Char}
    (hfirst : 97 ≤ first.toNat) :
    String.ofList (text.map Char.toLower) ≠ String.ofList (first :: more) := by
  obtain ⟨c, rest, rfl, hdigit⟩ := h.first
  intro heq
  rw [String.ofList_inj, List.map_cons, List.cons.injEq] at heq
  have hrange := isDigit_iff.mp hdigit
  have hlower : c.toLower = c := by
    unfold Char.toLower
    rw [dif_neg]
    rintro ⟨hle, -⟩
    have : 65 ≤ c.toNat := hle
    omega
  rw [hlower] at heq
  rw [← heq.1] at hfirst
  omega

theorem readFloat_numeral (negative : Bool) {text : List Char} (h : Unsigned text) :
    readFloat? (String.ofList ((if negative then ['-'] else []) ++ text)) =
      readUnsigned negative text := by
  have hnumeral : ∀ c ∈ (if negative then ['-'] else []) ++ text, IsNumeral c := by
    intro c hc
    rcases List.mem_append.mp hc with hsign | htext
    · cases negative
      · cases hsign
      · exact Or.inr (Or.inr (Or.inr (Or.inl (List.mem_singleton.mp hsign))))
    · exact h.numeral c htext
  have hunderscore : '_' ∉ (if negative then ['-'] else []) ++ text := by
    intro hmem
    rcases hnumeral '_' hmem with hdigit | hother
    · exact absurd hdigit (by decide)
    · exact absurd hother (by decide)
  have hsign : takeSign ((if negative then ['-'] else []) ++ text) = (negative, text) := by
    cases negative
    · exact takeSign_unsigned h
    · rfl
  unfold readFloat?
  rw [normalized_eq hnumeral, withoutUnderscores_eq hunderscore (by decide)]
  simp only [Option.bind_eq_bind, Option.bind_some, hsign, Bool.or_eq_true, decide_eq_true_eq]
  rw [if_neg, if_neg]
  · exact word_ne h 'n' (by decide)
  · rintro (hword | hword)
    · exact word_ne h 'i' (by decide) hword
    · exact word_ne h 'i' (by decide) hword

/-! The parts of a numeral. -/

theorem readUnsigned_whole (negative : Bool) {whole tail : List Char} (hwhole : IsRow whole)
    (htail : ∀ c ∈ tail.head?, isDigit c = false ∧ c ≠ '.') {exponent : Int}
    (hexponent : readExponent tail = some exponent) :
    readUnsigned negative (whole ++ tail) =
      some (ofDecimal negative (ofDigits whole) exponent) := by
  obtain ⟨htake, hdrop⟩ := span_append hwhole.digit fun c hc => (htail c hc).1
  have hempty : whole.isEmpty = false := List.isEmpty_eq_false_iff.mpr hwhole.ne_nil
  unfold readUnsigned
  dsimp only
  rw [htake, hdrop, hempty, Bool.false_and, if_neg (by decide)]
  split
  · exact absurd rfl (htail '.' rfl).2
  · rw [hexponent, List.append_nil]
    change some (ofDecimal negative (ofDigits whole) (exponent - 0)) = _
    rw [Int.sub_zero]

theorem readUnsigned_row (negative : Bool) {digits : List Char} (h : IsRow digits) :
    readUnsigned negative digits = some (ofDecimal negative (ofDigits digits) 0) := by
  have hnone : ∀ c ∈ ([] : List Char).head?, isDigit c = false ∧ c ≠ '.' := nofun
  have hread := readUnsigned_whole negative h hnone rfl
  rwa [List.append_nil] at hread

theorem readUnsigned_point (negative : Bool) {whole fraction tail : List Char} (hwhole : IsRow whole)
    (hfraction : ∀ c ∈ fraction, isDigit c = true)
    (htail : ∀ c ∈ tail.head?, isDigit c = false) {exponent : Int}
    (hexponent : readExponent tail = some exponent) :
    readUnsigned negative (whole ++ '.' :: (fraction ++ tail)) =
      some (ofDecimal negative (ofDigits (whole ++ fraction)) (exponent - fraction.length)) := by
  have hpoint : ∀ c ∈ ('.' :: (fraction ++ tail)).head?, isDigit c = false := by
    rintro c ⟨⟩
    rfl
  obtain ⟨htake, hdrop⟩ := span_append hwhole.digit hpoint
  obtain ⟨htake', hdrop'⟩ := span_append hfraction htail
  have hempty : whole.isEmpty = false := List.isEmpty_eq_false_iff.mpr hwhole.ne_nil
  unfold readUnsigned
  dsimp only
  rw [htake, hdrop, hempty, Bool.false_and, if_neg (by decide)]
  split
  · rename_i rest hrest
    obtain rfl := (List.cons.inj hrest).2
    rw [htake', hdrop', hexponent]
    rfl
  · rename_i hother
    exact absurd rfl (hother _)

theorem padded_ne_nil (width n : Nat) : padded width n ≠ [] := by
  unfold padded
  exact List.append_ne_nil_of_right_ne_nil _ Nat.toDigits_ne_nil

theorem readExponent_exponentText (exponent : Int) :
    readExponent (exponentText exponent) = some exponent := by
  have hempty : (padded 2 exponent.natAbs).isEmpty = false := by
    rw [List.isEmpty_eq_false_iff]
    exact padded_ne_nil _ _
  have hall : (padded 2 exponent.natAbs).all isDigit = true :=
    List.all_eq_true.mpr fun _ => isDigit_of_mem_padded
  unfold exponentText
  by_cases hsign : exponent < 0
  · rw [if_pos hsign, readExponent]
    change (if ((true && !(padded 2 exponent.natAbs).isEmpty) &&
      (padded 2 exponent.natAbs).all isDigit) = true then
        some (-(ofDigits (padded 2 exponent.natAbs) : Int)) else none) = some exponent
    rw [hempty, hall, ofDigits_padded, if_pos (by decide)]
    congr 1
    omega
  · rw [if_neg hsign, readExponent]
    change (if ((true && !(padded 2 exponent.natAbs).isEmpty) &&
      (padded 2 exponent.natAbs).all isDigit) = true then
        some (ofDigits (padded 2 exponent.natAbs) : Int) else none) = some exponent
    rw [hempty, hall, ofDigits_padded, if_pos (by decide)]
    congr 1
    omega

end WorkWatch.Decimal
