import WorkWatch.Proofs.Decimal.RoundTrip
import WorkWatch.Proofs.Json.Standard

/-! Integers and finite doubles are written as numbers of the standard: the digits of a number other
than zero do not begin with a zero. -/

namespace WorkWatch.Json.Standard

open WorkWatch.Text
open Decimal (Digits IsRow Layout exponential exponentText fullText isRow_digitsOf padded_ne_nil
  positional shortest)

theorem Number.signed {text : List Char} (h : Unsigned text) (negative : Bool) :
    Number ((if negative then ['-'] else []) ++ text) := by
  cases negative with
  | false => exact .positive h
  | true => exact .negative h

theorem Unsigned.whole {text : List Char} (h : Whole text) : Unsigned text := by
  have hintro := Unsigned.intro h .none .none
  rwa [List.append_nil, List.append_nil] at hintro

theorem Unsigned.fixed {whole fraction : List Char} (hwhole : Whole whole)
    (hfraction : IsRow fraction) : Unsigned (whole ++ '.' :: fraction) := by
  have hintro := Unsigned.intro hwhole (.digits hfraction) .none
  rwa [List.append_nil] at hintro

variable {first : Char} {rest : List Char}

theorem isDigit_of_mem_rest (h : IsRow (first :: rest)) {c : Char} (hc : c ∈ rest) :
    isDigit c = true :=
  h.digit c (List.mem_cons_of_mem first hc)

theorem Whole.of_row (h : IsRow (first :: rest)) (hzero : first ≠ '0') : Whole (first :: rest) :=
  .positive (h.digit first List.mem_cons_self) hzero fun _ => isDigit_of_mem_rest h

theorem isRow_of_not_isEmpty {digits : List Char} (hne : ¬ digits.isEmpty = true)
    (h : ∀ c ∈ digits, isDigit c = true) : IsRow digits :=
  ⟨fun hnil => hne (List.isEmpty_iff.mpr hnil), h⟩

/-! Integers. -/

theorem digitsOf_eq_cons {n : Nat} (hn : n ≠ 0) :
    ∃ first rest, digitsOf n = first :: rest ∧ first ≠ '0' := by
  have hrow := isRow_digitsOf n
  cases hdigits : digitsOf n with
  | nil => exact absurd hdigits hrow.ne_nil
  | cons first rest =>
    rw [hdigits] at hrow
    refine ⟨first, rest, rfl, ?_⟩
    rintro rfl
    -- A leading zero would leave the same number with fewer digits.
    have hvalue : ofDigits rest = n := by
      have hsplit := ofDigits_append (List.replicate 1 '0') rest
      rw [ofDigits_replicate_zero, Nat.zero_mul, Nat.zero_add, List.replicate_one,
        List.singleton_append, ← hdigits, ofDigits_digitsOf] at hsplit
      exact hsplit.symm
    have hlt : n < 10 ^ rest.length := by
      rw [← hvalue]
      exact ofDigits_lt fun _ => isDigit_of_mem_rest hrow
    have hlength : (digitsOf n).length = rest.length + 1 := by rw [hdigits, List.length_cons]
    rcases Nat.eq_zero_or_pos rest.length with hnone | hsome
    · rw [hnone] at hlt
      omega
    · have hle := (Nat.length_toDigits_le_iff (by decide) hsome).mpr hlt
      change (digitsOf n).length ≤ rest.length at hle
      omega

theorem whole_digitsOf (n : Nat) : Whole (digitsOf n) := by
  by_cases hn : n = 0
  · rw [hn]
    exact .zero
  · obtain ⟨first, rest, hdigits, hzero⟩ := digitsOf_eq_cons hn
    have hrow := isRow_digitsOf n
    rw [hdigits] at hrow ⊢
    exact .of_row hrow hzero

theorem number_intText (n : Int) : Number (intText n).toList := by
  cases n with
  | ofNat n =>
    rw [intText, String.toList_ofList]
    exact .positive (.whole (whole_digitsOf n))
  | negSucc n =>
    rw [intText, String.toList_ofList]
    exact .negative (.whole (whole_digitsOf (n + 1)))

/-! Doubles. -/

theorem exponent_exponentText (exponent : Int) : Exponent (exponentText exponent) := by
  have hrow : IsRow (padded 2 exponent.natAbs) := ⟨padded_ne_nil _ _, fun _ => isDigit_of_mem_padded⟩
  unfold exponentText
  split
  · exact @Exponent.power 'e' ['-'] _ (Or.inl rfl) (Or.inr (Or.inr rfl)) hrow
  · exact @Exponent.power 'e' ['+'] _ (Or.inl rfl) (Or.inr (Or.inl rfl)) hrow

theorem unsigned_positional (h : IsRow (first :: rest)) (hzero : first ≠ '0') (point : Int) :
    Unsigned (positional true (first :: rest) point) := by
  unfold positional
  by_cases hpoint : point ≤ 0
  · have hfraction : IsRow (List.replicate (-point).toNat '0' ++ first :: rest) :=
      ⟨List.append_ne_nil_of_right_ne_nil _ h.ne_nil, fun c hc =>
        (List.mem_append.mp hc).elim Decimal.isDigit_of_mem_zeros (h.digit c)⟩
    rw [if_pos hpoint]
    exact .fixed .zero hfraction
  · obtain ⟨k, hk⟩ : ∃ k, point.toNat = k + 1 := ⟨point.toNat - 1, by omega⟩
    have hwhole (zeros : Nat) :
        Whole ((first :: rest).take (k + 1) ++ List.replicate zeros '0') := by
      rw [List.take_succ_cons]
      refine .positive (h.digit first List.mem_cons_self) hzero fun c hc => ?_
      rcases List.mem_append.mp hc with hc | hc
      · exact isDigit_of_mem_rest h (List.mem_of_mem_take hc)
      · exact Decimal.isDigit_of_mem_zeros hc
    rw [if_neg hpoint, hk]
    dsimp only
    split
    · exact .fixed (hwhole _) (isRow_digitsOf 0)
    · rename_i hfraction
      exact .fixed (hwhole _)
        (isRow_of_not_isEmpty hfraction fun c hc => h.digit c (List.mem_of_mem_drop hc))

theorem unsigned_exponential (h : IsRow (first :: rest)) (hzero : first ≠ '0') (point : Int) :
    Unsigned (exponential (first :: rest) point) := by
  have hwhole : Whole [first] := .positive (h.digit first List.mem_cons_self) hzero nofun
  have hfraction : Fraction (if rest.isEmpty then [] else '.' :: rest) := by
    split
    · exact .none
    · rename_i hrest
      exact .digits (isRow_of_not_isEmpty hrest fun _ => isDigit_of_mem_rest h)
  exact .intro hwhole hfraction (exponent_exponentText (point - 1))

theorem unsigned_digits {d : Digits} (h : d.value ≠ 0) : Unsigned (Layout.full.digits d) := by
  obtain ⟨first, rest, hdigits, hzero⟩ := digitsOf_eq_cons h
  have hrow := isRow_digitsOf d.value
  rw [hdigits] at hrow
  unfold Layout.digits
  dsimp only
  rw [hdigits]
  split
  · exact unsigned_positional hrow hzero d.point
  · exact unsigned_exponential hrow hzero d.point

/-- A finite double is written as a number. -/
theorem number_fullText {x : Float} (hx : Decimal.isFinite x = true) : Number (fullText x).toList := by
  obtain ⟨hnumber, hbounded⟩ := Double.isFinite_iff.mp hx
  have hstored : Double.IsStored x.toModel.unpack := Double.unpack_stored _
  unfold fullText
  rw [Double.binary_ofFloat, String.toList_ofList]
  cases hu : x.toModel.unpack with
  | notANumber => exact absurd hu hnumber
  | infinity s => exact absurd hu (hbounded s)
  | zero s => exact .signed (.fixed .zero (isRow_digitsOf 0)) _
  | finite s m e hm =>
    rw [hu] at hstored
    obtain ⟨hc, he⟩ := hstored
    obtain ⟨hvalue, -⟩ := Decimal.shortest_roundsTo hc he hm
    unfold Double.toBinary Layout.write
    dsimp only
    rw [if_neg (Nat.ne_of_gt hm)]
    exact .signed (unsigned_digits hvalue) _

end WorkWatch.Json.Standard
