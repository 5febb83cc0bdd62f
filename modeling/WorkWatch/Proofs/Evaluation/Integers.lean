import WorkWatch.Proofs.Decimal.Read
import WorkWatch.Proofs.Double.Whole
import WorkWatch.Proofs.Evaluation.Oversized

/-! Integers of the feedback against integers of an expression. Equality compares them digit by digit;
the order is that of the nearest doubles, which cannot tell some integers beyond `2 ^ 53` apart. -/

namespace WorkWatch

open Double (IsNumber nearestTo)
open Text (digitsOf intText)

/-! Integers in expressions. -/

theorem ofDecimal_whole (negative : Bool) (n : Nat) :
    Decimal.ofDecimal negative n 0 = Decimal.nearest negative n 1 := by
  have hlength {k : Nat} (hk : 0 < k) : (Nat.toDigits 10 n).length ≤ k ↔ n < 10 ^ k :=
    Nat.length_toDigits_le_iff (by decide) hk
  unfold Decimal.ofDecimal
  dsimp only
  split
  · rename_i hzero
    subst hzero
    rfl
  · split
    · -- A number that is too long is too large.
      rename_i hlong
      have hlarge : (2 ^ 54 - 1) * 2 ^ 970 ≤ n := by
        have hpow : (2 ^ 54 - 1) * 2 ^ 970 ≤ 10 ^ 310 := by decide +kernel
        have hmany : ¬ n < 10 ^ 310 := mt (hlength (by decide)).mpr (by omega)
        exact hpow.trans (Nat.le_of_not_lt hmany)
      have hrank := (Double.infiniteRank_le_iff n).mpr hlarge
      unfold Decimal.nearest Decimal.ofRank
      rw [Nat.min_eq_right hrank, Nat.min_self]
    · rw [if_neg (by omega), if_pos (Int.le_refl 0)]
      change Decimal.nearest negative (n * 1) 1 = _
      rw [Nat.mul_one]

theorem intText_eq (n : Int) :
    intText n = String.ofList ((if decide (n < 0) then ['-'] else []) ++ digitsOf n.natAbs) := by
  cases n with
  | ofNat n => rfl
  | negSucc n =>
    rw [decide_eq_true (Int.negSucc_lt_zero n)]
    rfl

theorem intText_inj {a n : Int} : intText a = intText n ↔ a = n := by
  refine ⟨fun h => ?_, fun h => h ▸ rfl⟩
  have hdash {m : Nat} {rest : List Char} : digitsOf m ≠ '-' :: rest := by
    intro heq
    have hdigit : Text.isDigit '-' = true :=
      Nat.isDigit_of_mem_toDigits (by decide) (by decide) (heq ▸ List.mem_cons_self : '-' ∈ digitsOf m)
    exact absurd hdigit (by decide)
  have hdigits {m k : Nat} (heq : digitsOf m = digitsOf k) : m = k := by
    rw [← Text.ofDigits_digitsOf m, heq, Text.ofDigits_digitsOf]
  rw [intText_eq, intText_eq, String.ofList_inj] at h
  by_cases ha : a < 0 <;> by_cases hn : n < 0 <;>
    simp only [ha, hn, decide_true, decide_false, if_true, Bool.false_eq_true, if_false,
      List.nil_append, List.singleton_append] at h
  · have hsame := hdigits (List.cons.inj h).2
    omega
  · exact absurd h.symm hdash
  · exact absurd h hdash
  · have hsame := hdigits h
    omega

/-- An integer in an expression is read as the double nearest to it. -/
theorem readFloat_intText (n : Int) : Decimal.readFloat? (intText n) = some (nearestTo n) := by
  have hrow := Decimal.isRow_digitsOf n.natAbs
  rw [intText_eq, Decimal.readFloat_numeral _ hrow.unsigned, Decimal.readUnsigned_row _ hrow,
    Text.ofDigits_digitsOf, ofDecimal_whole]
  rfl

/-! Integers of the feedback. -/

theorem numberOf_int {a : Int} (h : ¬ Oversized a) : numberOf (.int a) = .ok (some (nearestTo a)) := by
  have hrank : ¬ Decimal.infiniteRank ≤ Decimal.nearestRank a.natAbs 1 :=
    mt (Double.infiniteRank_le_iff _).mp h
  have hnumber : Decimal.ofInt? a = some (nearestTo a) := if_neg hrank
  rw [numberOf, hnumber]

theorem comparesNumber_intText {a : Int} (h : ¬ Oversized a) (n : Int)
    (relation : Float → Float → Bool) :
    comparesNumber relation (.int a) (intText n) = .ok (relation (nearestTo a) (nearestTo n)) := by
  unfold comparesNumber
  rw [numberOf_int h]
  simp only [bind, Except.bind, readFloat_intText]
  rfl

theorem equalsLiteral_intText (a n : Int) :
    equalsLiteral (.int a) (intText n) = true ↔ a = n :=
  beq_iff_eq.trans intText_inj

/-- The order of integers. -/
def Order.holds : Order → Int → Int → Bool
  | .atLeast, a, b => b ≤ a
  | .atMost, a, b => a ≤ b
  | .above, a, b => b < a
  | .below, a, b => a < b

theorem beq_nearestTo_iff (a n : Int) : (nearestTo a == nearestTo n) = true ↔
    Double.value (nearestTo a) = Double.value (nearestTo n) := by
  rw [Double.beq_iff]
  exact ⟨fun h => h.2.2, fun h => ⟨Double.isNumber_nearestTo a, Double.isNumber_nearestTo n, h⟩⟩

theorem le_nearestTo_iff (a n : Int) :
    nearestTo a ≤ nearestTo n ↔ a ≤ n ∨ (nearestTo a == nearestTo n) = true := by
  rw [beq_nearestTo_iff, Double.le_iff]
  constructor
  · rintro ⟨-, -, hle⟩
    rcases lt_or_ge n a with hgt | hle'
    · exact Or.inr (le_antisymm hle (Double.value_nearestTo_mono hgt.le))
    · exact Or.inl hle'
  · intro h
    refine ⟨Double.isNumber_nearestTo a, Double.isNumber_nearestTo n, ?_⟩
    exact h.elim (fun hle => Double.value_nearestTo_mono hle) le_of_eq

theorem lt_nearestTo_iff (a n : Int) :
    nearestTo a < nearestTo n ↔ a < n ∧ ¬ (nearestTo a == nearestTo n) = true := by
  rw [beq_nearestTo_iff, Double.lt_iff]
  constructor
  · rintro ⟨-, -, hlt⟩
    refine ⟨?_, hlt.ne⟩
    by_contra hge
    exact absurd (Double.value_nearestTo_mono (Int.not_lt.mp hge)) hlt.not_ge
  · rintro ⟨hlt, hne⟩
    exact ⟨Double.isNumber_nearestTo a, Double.isNumber_nearestTo n,
      lt_of_le_of_ne (Double.value_nearestTo_mono hlt.le) hne⟩

/-- The nearest doubles stand in the order of the integers, unless they are equal. -/
theorem Order.compare_nearestTo (order : Order) (a n : Int) :
    order.compare (nearestTo a) (nearestTo n) =
      if nearestTo a == nearestTo n then order.holds n n else order.holds a n := by
  have hcomm : (nearestTo n == nearestTo a) = true ↔ (nearestTo a == nearestTo n) = true := by
    rw [beq_nearestTo_iff, beq_nearestTo_iff, eq_comm]
  cases order <;>
    simp only [Order.compare, Order.holds, le_nearestTo_iff, lt_nearestTo_iff, hcomm] <;>
    split <;> simp [*]

/-- Two integers are told to be at least and at most each other exactly if they have the same nearest
double. -/
theorem comparesNumber_both_iff {a : Int} (h : ¬ Oversized a) (n : Int) :
    comparesNumber Order.atLeast.compare (.int a) (intText n) = .ok true ∧
        comparesNumber Order.atMost.compare (.int a) (intText n) = .ok true ↔
      (nearestTo a == nearestTo n) = true := by
  rw [comparesNumber_intText h, comparesNumber_intText h, Except.ok.injEq, Except.ok.injEq,
    Order.compare_nearestTo, Order.compare_nearestTo]
  by_cases hsame : (nearestTo a == nearestTo n) = true
  · simp [hsame, Order.holds]
  · simp only [hsame, Bool.false_eq_true, if_false, Order.holds, decide_eq_true_eq]
    refine iff_of_false ?_ not_false
    rintro ⟨hge, hle⟩
    rw [Int.le_antisymm hle hge] at hsame
    exact hsame ((beq_nearestTo_iff n n).mpr rfl)

/-- Equality tells of an integer of the feedback and one in an expression whether they are the same.
If a double can hold the first one, the orders tell the order of the two integers unless these have
the same nearest double, and then that of equal numbers; below `2 ^ 53` in size an integer shares its
double with no other one. -/
theorem integer_comparisons (a n : Int) :
    (equalsLiteral (.int a) (intText n) = true ↔ a = n) ∧
      (¬ Oversized a →
        (∀ order : Order, comparesNumber order.compare (.int a) (intText n) =
          .ok (if nearestTo a == nearestTo n then order.holds n n else order.holds a n)) ∧
        (comparesNumber Order.atLeast.compare (.int a) (intText n) = .ok true ∧
            comparesNumber Order.atMost.compare (.int a) (intText n) = .ok true ↔
          (nearestTo a == nearestTo n) = true)) ∧
      (a.natAbs < 2 ^ 53 ∨ n.natAbs < 2 ^ 53 → ((nearestTo a == nearestTo n) = true ↔ a = n)) := by
  refine ⟨equalsLiteral_intText a n, fun h => ⟨fun order => ?_, comparesNumber_both_iff h n⟩,
    fun hsmall => ⟨fun hsame => ?_, ?_⟩⟩
  · rw [comparesNumber_intText h, order.compare_nearestTo]
  · have hvalue := (beq_nearestTo_iff a n).mp hsame
    rcases hsmall with ha | hn
    · exact Double.eq_of_value_nearestTo_eq ha hvalue
    · exact (Double.eq_of_value_nearestTo_eq hn hvalue.symm).symm
  · rintro rfl
    exact (beq_nearestTo_iff a a).mpr rfl

/-- Small integers are compared as integers. -/
theorem integer_comparisons_small :
    ¬ Oversized 7 ∧
      comparesNumber Order.above.compare (.int 7) (intText 3) = .ok true ∧
      Int.natAbs 7 < 2 ^ 53 ∧ ((nearestTo 7 == nearestTo 3) = true ↔ (7 : Int) = 3) := by
  have hheld : ¬ Oversized 7 := by
    unfold Oversized
    decide +kernel
  have habove := ((integer_comparisons 7 3).2.1 hheld).1 .above
  exact ⟨hheld, habove.trans (by decide +kernel), by decide,
    (integer_comparisons 7 3).2.2 (Or.inl (by decide))⟩

/-- The first integer that no double is: it is not told to be above the one before it, although it
does not equal it, and it is told to be at least and at most that one. -/
theorem comparesNumber_beyond :
    intText 9007199254740992 = "9007199254740992" ∧
      equalsLiteral (.int 9007199254740993) "9007199254740992" = false ∧
      comparesNumber Order.above.compare (.int 9007199254740993) "9007199254740992" = .ok false ∧
      comparesNumber Order.atLeast.compare (.int 9007199254740993) "9007199254740992" = .ok true ∧
      comparesNumber Order.atMost.compare (.int 9007199254740993) "9007199254740992" = .ok true := by
  decide +kernel

end WorkWatch
