import Mathlib.Algebra.Group.Nat.Defs
import Mathlib.Data.List.Induction
import WorkWatch.Text.Digits

/-! Rows of digits. A row of decimal digits of a given length denotes one number below the power of ten
of that length, and padding writes each such number as the one row that denotes it. Hexadecimal rows
are taken apart digit by digit. -/

namespace WorkWatch.Text

theorem isDigit_iff {c : Char} : isDigit c = true ↔ 48 ≤ c.toNat ∧ c.toNat ≤ 57 := by
  simp only [isDigit, Bool.and_eq_true, decide_eq_true_eq, Char.le_def, UInt32.le_iff_toNat_le]
  rfl

theorem ofDigits_eq (s : List Char) : ofDigits s = Nat.ofDigitChars 10 s 0 :=
  Nat.ofDigitChars_eq_foldl.symm

theorem ofDigits_append (front back : List Char) :
    ofDigits (front ++ back) = ofDigits front * 10 ^ back.length + ofDigits back := by
  rw [ofDigits_eq, Nat.ofDigitChars_append, Nat.ofDigitChars_eq_ofDigitChars_zero, ← ofDigits_eq,
    ← ofDigits_eq, Nat.mul_comm]

theorem ofDigits_replicate_zero (n : Nat) : ofDigits (List.replicate n '0') = 0 := by
  rw [ofDigits_eq, Nat.ofDigitChars_replicate_zero, Nat.mul_zero]

theorem ofDigits_concat (s : List Char) (c : Char) :
    ofDigits (s ++ [c]) = 10 * ofDigits s + digitValue c := by
  unfold ofDigits
  rw [List.foldl_append]
  rfl

theorem ofDigits_lt {s : List Char} (h : ∀ c ∈ s, isDigit c = true) :
    ofDigits s < 10 ^ s.length := by
  induction s using List.reverseRecOn with
  | nil => decide
  | append_singleton s c ih =>
    have hc := isDigit_iff.mp (h c List.mem_concat_self)
    have hs := ih fun d hd => h d (List.mem_append_left _ hd)
    have hvalue : digitValue c < 10 := by
      change c.toNat - 48 < 10
      omega
    rw [ofDigits_concat, List.length_append, List.length_singleton, Nat.pow_succ]
    omega

/-- Rows of digits of one length that denote the same number are the same. -/
theorem ofDigits_inj {s t : List Char} (hlength : s.length = t.length)
    (hs : ∀ c ∈ s, isDigit c = true) (ht : ∀ c ∈ t, isDigit c = true)
    (h : ofDigits s = ofDigits t) : s = t := by
  induction s using List.reverseRecOn generalizing t with
  | nil => exact (List.length_eq_zero_iff.mp hlength.symm).symm
  | append_singleton s c ih =>
    obtain ⟨t, d, rfl⟩ : ∃ front last, t = front ++ [last] := by
      cases t using List.reverseRecOn with
      | nil => simp at hlength
      | append_singleton t d => exact ⟨t, d, rfl⟩
    have hc := isDigit_iff.mp (hs c List.mem_concat_self)
    have hd := isDigit_iff.mp (ht d List.mem_concat_self)
    rw [ofDigits_concat, ofDigits_concat] at h
    change 10 * ofDigits s + (c.toNat - 48) = 10 * ofDigits t + (d.toNat - 48) at h
    have hlast : c = d := Char.toNat_inj.mp (by omega)
    have hfront : s = t := by
      apply ih
      · simpa using hlength
      · exact fun e he => hs e (List.mem_append_left _ he)
      · exact fun e he => ht e (List.mem_append_left _ he)
      · omega
    rw [hlast, hfront]

theorem isDigit_of_mem_padded {width n : Nat} {c : Char} (h : c ∈ padded width n) :
    isDigit c = true := by
  rcases List.mem_append.mp h with hzero | hdigit
  · rw [List.eq_of_mem_replicate hzero]
    rfl
  · exact Nat.isDigit_of_mem_toDigits (by decide) (by decide) hdigit

theorem ofDigits_digitsOf (n : Nat) : ofDigits (digitsOf n) = n := by
  rw [ofDigits_eq]
  exact Nat.ofDigitChars_ten_toDigits

theorem ofDigits_padded (width n : Nat) : ofDigits (padded width n) = n := by
  unfold padded
  rw [ofDigits_append, ofDigits_replicate_zero, Nat.zero_mul, Nat.zero_add, ofDigits_digitsOf]

theorem length_padded {width n : Nat} (hwidth : 0 < width) (h : n < 10 ^ width) :
    (padded width n).length = width := by
  have hdigits : (digitsOf n).length ≤ width := (Nat.length_toDigits_le_iff (by decide) hwidth).mpr h
  simp only [padded, List.length_append, List.length_replicate]
  omega

/-- The rows of digits that denote a number of up to so many digits are those that padding writes. -/
theorem eq_padded_iff {s : List Char} {n : Nat} (hne : s ≠ []) :
    (∀ c ∈ s, isDigit c = true) ∧ ofDigits s = n ↔ n < 10 ^ s.length ∧ s = padded s.length n := by
  constructor
  · rintro ⟨h, rfl⟩
    have hlt := ofDigits_lt h
    have hlength := length_padded (List.length_pos_iff.mpr hne) hlt
    exact ⟨hlt, ofDigits_inj hlength.symm h (fun _ => isDigit_of_mem_padded)
      (ofDigits_padded _ _).symm⟩
  · rintro ⟨-, h⟩
    rw [h]
    exact ⟨fun _ => isDigit_of_mem_padded, ofDigits_padded _ _⟩

theorem padded_inj {width m n : Nat} (h : padded width m = padded width n) : m = n := by
  rw [← ofDigits_padded width m, h, ofDigits_padded]

theorem padded_append_inj {width m n : Nat} {s t : List Char} (hwidth : 0 < width)
    (hm : m < 10 ^ width) (hn : n < 10 ^ width)
    (h : padded width m ++ s = padded width n ++ t) : m = n ∧ s = t := by
  have hlength := (length_padded hwidth hm).trans (length_padded hwidth hn).symm
  obtain ⟨hpadded, hrest⟩ := List.append_inj h hlength
  exact ⟨padded_inj hpadded, hrest⟩

/-! Hexadecimal digits. -/

theorem hexPadded_one {n : Nat} (h : n < 16) : hexPadded 1 n = [Nat.digitChar n] := by
  unfold hexPadded
  rw [Nat.toDigits_of_lt_base h]
  rfl

theorem hexPadded_succ {width : Nat} (hwidth : 0 < width) (n : Nat) :
    hexPadded (width + 1) n = hexPadded width (n / 16) ++ [Nat.digitChar (n % 16)] := by
  unfold hexPadded
  by_cases hsmall : n < 16
  · obtain ⟨fewer, rfl⟩ : ∃ fewer, width = fewer + 1 := ⟨width - 1, by omega⟩
    rw [Nat.toDigits_of_lt_base hsmall, Nat.div_eq_of_lt hsmall, Nat.mod_eq_of_lt hsmall,
      Nat.toDigits_zero]
    simp [List.replicate_succ']
  · rw [Nat.toDigits_of_base_le (by decide) (Nat.le_of_not_lt hsmall)]
    simp only [List.length_append, List.length_singleton, Nat.reduceSubDiff, List.append_assoc]

theorem hexPadded_byte {n : Nat} (h : n < 0x100) :
    hexPadded 2 n = [Nat.digitChar (n / 16), Nat.digitChar (n % 16)] := by
  rw [hexPadded_succ (by decide), hexPadded_one (by omega)]
  rfl

theorem hexPadded_four {n : Nat} (h : n < 0x10000) :
    hexPadded 4 n = [Nat.digitChar (n / 16 / 16 / 16), Nat.digitChar (n / 16 / 16 % 16),
      Nat.digitChar (n / 16 % 16), Nat.digitChar (n % 16)] := by
  rw [hexPadded_succ (by decide), hexPadded_succ (by decide), hexPadded_byte (by omega)]
  rfl

theorem hexValue_digitChar {value : Nat} (h : value < 16) :
    hexValue? (Nat.digitChar value) = some value := by
  revert value
  decide

end WorkWatch.Text
