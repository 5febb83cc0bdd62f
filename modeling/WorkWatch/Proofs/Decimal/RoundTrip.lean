import WorkWatch.Proofs.Decimal.Read
import WorkWatch.Proofs.Decimal.Shortest

/-! The full text of a double is read as that double again. -/

namespace WorkWatch.Decimal

open Double (IsNumber IsStored binary_ofFloat isNegative rankOf signOf_isNegative
  unpack_ofRank_infinite unpack_ofRank_rankOf unpack_ofRank_zero unpack_stored)
open WorkWatch.Text

/-! Notations. -/

/-- The text of a number is read as a decimal fraction that equals the number. -/
def Denotes (text : List Char) (q : ℝ) : Prop :=
  Unsigned text ∧ ∀ negative, ∃ (digits : Nat) (exponent : Int),
    readUnsigned negative text = some (ofDecimal negative digits exponent) ∧
      amountAt digits exponent = q

theorem IsRow.append {digits more : List Char} (h : IsRow digits)
    (hmore : ∀ c ∈ more, isDigit c = true) : IsRow (digits ++ more) :=
  ⟨List.append_ne_nil_of_left_ne_nil h.ne_nil more,
    fun c hc => (List.mem_append.mp hc).elim (h.digit c) (hmore c)⟩

theorem isDigit_of_mem_zeros {count : Nat} {c : Char} (h : c ∈ List.replicate count '0') :
    isDigit c = true := by
  rw [List.eq_of_mem_replicate h]
  rfl

/-- Digits, a point, more digits and an exponent. -/
theorem denotes_point {whole fraction tail : List Char} (hwhole : IsRow whole)
    (hfraction : ∀ c ∈ fraction, isDigit c = true) (htail : ∀ c ∈ tail, IsNumeral c)
    (hhead : ∀ c ∈ tail.head?, isDigit c = false) {exponent : Int}
    (hexponent : readExponent tail = some exponent) :
    Denotes (whole ++ '.' :: (fraction ++ tail))
      (ofDigits (whole ++ fraction) * 10 ^ (exponent - fraction.length)) := by
  refine ⟨hwhole.unsigned_append fun c hc => ?_, fun negative =>
    ⟨_, _, readUnsigned_point negative hwhole hfraction hhead hexponent, rfl⟩⟩
  rcases List.mem_cons.mp hc with rfl | hc
  · exact Or.inr (Or.inl rfl)
  · exact (List.mem_append.mp hc).elim (fun hc => Or.inl (hfraction c hc)) (htail c)

theorem denotes_fixed {whole fraction : List Char} (hwhole : IsRow whole)
    (hfraction : ∀ c ∈ fraction, isDigit c = true) :
    Denotes (whole ++ '.' :: fraction)
      (ofDigits (whole ++ fraction) * 10 ^ (-(fraction.length : Int))) := by
  have hnone : ∀ c ∈ ([] : List Char), IsNumeral c := nofun
  have hhead : ∀ c ∈ ([] : List Char).head?, isDigit c = false := nofun
  have hexponent : readExponent [] = some 0 := rfl
  have hdenotes := denotes_point hwhole hfraction hnone hhead hexponent
  rwa [List.append_nil, Int.zero_sub] at hdenotes

theorem denotes_small {digits : List Char} (h : IsRow digits) {point : Int} (hpoint : point ≤ 0) :
    Denotes (positional true digits point) (ofDigits digits * 10 ^ (point - digits.length)) := by
  have hfraction : ∀ c ∈ List.replicate (-point).toNat '0' ++ digits, isDigit c = true :=
    fun c hc => (List.mem_append.mp hc).elim isDigit_of_mem_zeros (h.digit c)
  have hdenotes := denotes_fixed (isRow_digitsOf 0) hfraction
  have hzeros : ofDigits (digitsOf 0 ++ List.replicate (-point).toNat '0') = 0 :=
    ofDigits_replicate_zero ((-point).toNat + 1)
  have hplaces : -((List.replicate (-point).toNat '0' ++ digits).length : Int) =
      point - digits.length := by
    rw [List.length_append, List.length_replicate]
    omega
  rw [hplaces, ← List.append_assoc, ofDigits_append, hzeros, Nat.zero_mul, Nat.zero_add]
    at hdenotes
  unfold positional
  rw [if_pos hpoint]
  exact hdenotes

theorem denotes_whole {digits : List Char} (h : IsRow digits) {point : Int} (hpoint : 0 < point)
    (hshort : digits.length ≤ point.toNat) :
    Denotes (positional true digits point) (ofDigits digits * 10 ^ (point - digits.length)) := by
  obtain ⟨count, hcount⟩ : ∃ count, count = point.toNat - digits.length := ⟨_, rfl⟩
  have hdenotes := denotes_fixed
    (h.append fun c (hc : c ∈ List.replicate count '0') => isDigit_of_mem_zeros hc)
    (isRow_digitsOf 0).digit
  have hzeros : (digits ++ List.replicate count '0') ++ digitsOf 0 =
      digits ++ List.replicate (count + 1) '0' := by
    rw [List.append_assoc, List.replicate_succ']
    rfl
  have hamount : ((ofDigits digits * 10 ^ (count + 1) : Nat) : ℝ) *
      10 ^ (-((digitsOf 0).length : Int)) = ofDigits digits * 10 ^ (point - digits.length) := by
    have hplaces : point - digits.length =
        ((count + 1 : Nat) : Int) + -((digitsOf 0).length : Int) := by
      change point - digits.length = ((count + 1 : Nat) : Int) + -1
      omega
    rw [hplaces, zpow_add₀ (by norm_num), zpow_natCast, ← mul_assoc]
    push_cast
    rfl
  rw [hzeros, ofDigits_append, ofDigits_replicate_zero, Nat.add_zero, List.length_replicate,
    hamount] at hdenotes
  unfold positional
  rw [if_neg (Int.not_le.mpr hpoint), List.take_of_length_le hshort,
    List.drop_of_length_le hshort]
  dsimp only
  rw [← hcount]
  exact hdenotes

theorem denotes_mixed {digits : List Char} (h : IsRow digits) {point : Int} (hpoint : 0 < point)
    (hlong : point.toNat < digits.length) :
    Denotes (positional true digits point) (ofDigits digits * 10 ^ (point - digits.length)) := by
  have hlength : (digits.take point.toNat).length = point.toNat := List.length_take_of_le hlong.le
  have hfraction : (digits.drop point.toNat).isEmpty = false := by
    rw [List.isEmpty_eq_false_iff, Ne, List.drop_eq_nil_iff]
    omega
  have htake : IsRow (digits.take point.toNat) := by
    refine ⟨fun hnil => ?_, fun c hc => h.digit c (List.mem_of_mem_take hc)⟩
    rw [hnil, List.length_nil] at hlength
    omega
  have hdenotes := denotes_fixed htake fun c (hc : c ∈ digits.drop point.toNat) =>
    h.digit c (List.mem_of_mem_drop hc)
  have hplaces : -((digits.drop point.toNat).length : Int) = point - digits.length := by
    rw [List.length_drop]
    omega
  rw [List.take_append_drop, hplaces] at hdenotes
  unfold positional
  rw [if_neg (Int.not_le.mpr hpoint)]
  dsimp only
  rw [hlength, Nat.sub_self, List.replicate_zero, List.append_nil, hfraction, if_neg (by decide)]
  exact hdenotes

theorem denotes_positional {digits : List Char} (h : IsRow digits) (point : Int) :
    Denotes (positional true digits point) (ofDigits digits * 10 ^ (point - digits.length)) := by
  by_cases hsmall : point ≤ 0
  · exact denotes_small h hsmall
  · rcases Nat.lt_or_ge point.toNat digits.length with hlong | hshort
    · exact denotes_mixed h (Int.not_le.mp hsmall) hlong
    · exact denotes_whole h (Int.not_le.mp hsmall) hshort

theorem isNumeral_of_mem_exponentText {exponent : Int} {c : Char} (h : c ∈ exponentText exponent) :
    IsNumeral c := by
  unfold exponentText at h
  rcases List.mem_cons.mp h with rfl | h
  · exact Or.inr (Or.inr (Or.inl rfl))
  · rcases List.mem_cons.mp h with rfl | h
    · split
      · exact Or.inr (Or.inr (Or.inr (Or.inl rfl)))
      · exact Or.inr (Or.inr (Or.inr (Or.inr rfl)))
    · exact Or.inl (isDigit_of_mem_padded h)

theorem denotes_exponential {digits : List Char} (h : IsRow digits) (point : Int) :
    Denotes (exponential digits point) (ofDigits digits * 10 ^ (point - digits.length)) := by
  cases digits with
  | nil => exact absurd rfl h.ne_nil
  | cons first rest =>
    have hfirst : IsRow [first] := by
      refine ⟨List.cons_ne_nil first [], fun c hc => h.digit c ?_⟩
      exact List.mem_cons.mpr (Or.inl (List.mem_singleton.mp hc))
    have hnumeral : ∀ c ∈ exponentText (point - 1), IsNumeral c :=
      fun c => isNumeral_of_mem_exponentText
    have hread := readExponent_exponentText (point - 1)
    unfold exponential
    cases rest with
    | nil =>
      have hhead : ∀ c ∈ (exponentText (point - 1)).head?, isDigit c = false ∧ c ≠ '.' := by
        rintro c ⟨⟩
        exact ⟨rfl, by decide⟩
      exact ⟨hfirst.unsigned_append hnumeral, fun negative =>
        ⟨_, _, readUnsigned_whole negative hfirst hhead hread, rfl⟩⟩
    | cons second more =>
      have hhead : ∀ c ∈ (exponentText (point - 1)).head?, isDigit c = false := by
        rintro c ⟨⟩
        rfl
      have hmore : ∀ c ∈ second :: more, isDigit c = true :=
        fun c hc => h.digit c (List.mem_cons_of_mem first hc)
      have hdenotes := denotes_point hfirst hmore hnumeral hhead hread
      have hplaces : point - 1 - (second :: more).length =
          point - (first :: second :: more).length := by
        simp only [List.length_cons]
        omega
      rw [hplaces] at hdenotes
      exact hdenotes

/-- Digits are written as a text that denotes their amount. -/
theorem denotes_digits (d : Digits) : Denotes (Layout.full.digits d) d.amount := by
  have hpositional := denotes_positional (isRow_digitsOf d.value) d.point
  have hexponential := denotes_exponential (isRow_digitsOf d.value) d.point
  rw [ofDigits_digitsOf] at hpositional hexponential
  unfold Layout.digits
  dsimp only
  split
  · exact hpositional
  · exact hexponential

/-! The full text. -/

/-- The full text of a double other than NaN is read as a double with the same parts. -/
theorem readFloat_fullText {x : Float} (hx : IsNumber x) :
    ∃ y, readFloat? (fullText x) = some y ∧ y.toModel.unpack = x.toModel.unpack := by
  have hstored : IsStored x.toModel.unpack := unpack_stored _
  unfold fullText
  rw [binary_ofFloat]
  cases hu : x.toModel.unpack with
  | notANumber => exact absurd hu hx
  | infinity s =>
    refine ⟨ofRank (isNegative s) infiniteRank, ?_, ?_⟩
    · cases s <;> decide +kernel
    · rw [unpack_ofRank_infinite, signOf_isNegative]
  | zero s =>
    refine ⟨ofRank (isNegative s) 0, ?_, ?_⟩
    · cases s <;> decide +kernel
    · rw [unpack_ofRank_zero, signOf_isNegative]
  | finite s m e hm =>
    rw [hu] at hstored
    obtain ⟨hc, he⟩ := hstored
    obtain ⟨-, hrounds⟩ := shortest_roundsTo hc he hm
    obtain ⟨hunsigned, hread⟩ := denotes_digits (shortest m e)
    obtain ⟨digits, exponent, hdigits, hamount⟩ := hread (isNegative s)
    rw [← hamount] at hrounds
    refine ⟨ofRank (isNegative s) (rankOf m e), ?_, ?_⟩
    · change readFloat? (String.ofList ((if isNegative s then ['-'] else []) ++
        (if m = 0 then _ else Layout.full.digits (shortest m e)))) = _
      rw [if_neg (Nat.ne_of_gt hm), readFloat_numeral _ hunsigned, hdigits,
        ofDecimal_eq _ hc he hm hrounds]
    · rw [unpack_ofRank_rankOf _ hc he, dif_neg (Nat.ne_of_gt hm), signOf_isNegative]

end WorkWatch.Decimal
