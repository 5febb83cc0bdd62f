import WorkWatch.Proofs.Decimal.Read

/-! Numbers in the digits of any script. Such a number is read as the one with the digits of the same
values in ASCII. -/

namespace WorkWatch.Decimal

open WorkWatch.Text

/-- The digit of the same value in ASCII; characters other than digits stay. -/
def asciiDigit (c : Char) : Char :=
  match anyDigitValue? c with
  | some value => digitChar value
  | none => c

/-- A digit is one of ASCII, or it stands in the block of ten that begins with the zero of its
script. -/
theorem anyDigitValue?_eq_some {c : Char} {value : Nat} (h : anyDigitValue? c = some value) :
    isDigit c = true ∧ value = digitValue c ∨
      ∃ first ∈ DigitTable.zeros, first ≤ c.toNat ∧ c.toNat < first + 10 ∧
        value = c.toNat - first := by
  unfold anyDigitValue? at h
  split at h
  · rename_i hdigit
    exact Or.inl ⟨hdigit, (Option.some.inj h).symm⟩
  · split at h
    · cases h
    · obtain ⟨first, hfirst, rfl⟩ := Option.map_eq_some_iff.mp h
      have hrange := List.find?_some hfirst
      simp only [Bool.and_eq_true, decide_eq_true_eq] at hrange
      exact Or.inr ⟨first, List.mem_of_find?_eq_some hfirst, hrange.1, hrange.2, rfl⟩

theorem anyDigitValue?_lt {c : Char} {value : Nat} (h : anyDigitValue? c = some value) :
    value < 10 := by
  rcases anyDigitValue?_eq_some h with ⟨hdigit, rfl⟩ | ⟨first, -, -, hlast, rfl⟩
  · have hrange := isDigit_iff.mp hdigit
    change c.toNat - 48 < 10
    omega
  · omega

theorem isDigit_digitChar {value : Nat} (h : value < 10) : isDigit (digitChar value) = true := by
  have hall : ∀ value < 10, isDigit (digitChar value) = true := by decide
  exact hall value h

theorem isDigit_asciiDigit {c : Char} (h : isAnyDigit c = true) : isDigit (asciiDigit c) = true := by
  obtain ⟨value, hvalue⟩ := Option.isSome_iff_exists.mp h
  unfold asciiDigit
  rw [hvalue]
  exact isDigit_digitChar (anyDigitValue?_lt hvalue)

/-- No block of digits meets the blank characters. -/
theorem zeros_apart : ∀ first ∈ DigitTable.zeros,
    0xa0 < first ∧ (first + 10 ≤ 0x1680 ∨ 0x1680 < first ∧ first + 10 ≤ 0x2000 ∨ 0x3000 < first) := by
  decide

theorem isOuterBlank_of_isAnyDigit {c : Char} (h : isAnyDigit c = true) : isOuterBlank c = false := by
  obtain ⟨value, hvalue⟩ := Option.isSome_iff_exists.mp h
  rcases anyDigitValue?_eq_some hvalue with ⟨hdigit, -⟩ | ⟨first, hfirst, hle, hlt, -⟩
  · exact (normalized_digit hdigit).1
  · have hapart := zeros_apart first hfirst
    unfold isOuterBlank isBlank
    simp
    omega

/-- Digits of any script, at least one. -/
structure IsAnyRow (digits : List Char) : Prop where
  ne_nil : digits ≠ []
  digit : ∀ c ∈ digits, isAnyDigit c = true

theorem IsAnyRow.ascii {digits : List Char} (h : IsAnyRow digits) :
    IsRow (digits.map asciiDigit) := by
  refine ⟨fun hnil => h.ne_nil (List.map_eq_nil_iff.mp hnil), fun c hc => ?_⟩
  obtain ⟨c, hmem, rfl⟩ := List.mem_map.mp hc
  exact isDigit_asciiDigit (h.digit c hmem)

/-- A number as it is written: digits, and a point with more digits if there is one. -/
inductive IsNumber : List Char → Prop
  | whole {digits : List Char} (h : IsAnyRow digits) : IsNumber digits
  | fraction {whole fraction : List Char} (hwhole : IsAnyRow whole) (hfraction : IsAnyRow fraction) :
      IsNumber (whole ++ '.' :: fraction)

variable {text : List Char}

theorem IsNumber.head_isAnyDigit (h : IsNumber text) :
    ∃ c rest, text = c :: rest ∧ isAnyDigit c = true := by
  have hrow {digits : List Char} (hdigits : IsAnyRow digits) (rest : List Char) :
      ∃ c more, digits ++ rest = c :: more ∧ isAnyDigit c = true := by
    cases digits with
    | nil => exact absurd rfl hdigits.ne_nil
    | cons c more => exact ⟨c, more ++ rest, rfl, hdigits.digit c List.mem_cons_self⟩
  cases h with
  | whole h => exact List.append_nil text ▸ hrow h []
  | fraction hwhole _ => exact hrow hwhole _

theorem IsNumber.digit_or_point (h : IsNumber text) :
    ∀ c ∈ text, isAnyDigit c = true ∨ c = '.' := by
  intro c hc
  cases h with
  | whole h => exact Or.inl (h.digit c hc)
  | fraction hwhole hfraction =>
    rcases List.mem_append.mp hc with hc | hc
    · exact Or.inl (hwhole.digit c hc)
    · rcases List.mem_cons.mp hc with rfl | hc
      · exact Or.inr rfl
      · exact Or.inl (hfraction.digit c hc)

theorem normalized_eq_map (h : ∀ c ∈ text, isAnyDigit c = true ∨ c = '.') :
    normalized (String.ofList text) = text.map asciiDigit := by
  unfold normalized
  rw [String.toList_ofList, trim_eq_self]
  · rfl
  · intro c hc
    rcases h c hc with hdigit | rfl
    · exact isOuterBlank_of_isAnyDigit hdigit
    · rfl

/-- Only the values of the digits count, not their script. -/
theorem readFloat?_ascii (h : ∀ c ∈ text, isAnyDigit c = true ∨ c = '.') :
    readFloat? (String.ofList text) = readFloat? (String.ofList (text.map asciiDigit)) := by
  have hnumeral : ∀ c ∈ text.map asciiDigit, IsNumeral c := by
    intro c hc
    obtain ⟨c, hmem, rfl⟩ := List.mem_map.mp hc
    rcases h c hmem with hdigit | rfl
    · exact Or.inl (isDigit_asciiDigit hdigit)
    · exact Or.inr (Or.inl rfl)
  unfold readFloat?
  rw [normalized_eq_map h, normalized_eq hnumeral]

theorem readFloat?_row {digits : List Char} (h : IsAnyRow digits) :
    readFloat? (String.ofList digits) =
      some (ofDecimal false (ofDigits (digits.map asciiDigit)) 0) := by
  rw [readFloat?_ascii fun c hc => Or.inl (h.digit c hc)]
  exact (readFloat_numeral false h.ascii.unsigned).trans (readUnsigned_row false h.ascii)

theorem readFloat?_point {whole fraction : List Char} (hwhole : IsAnyRow whole)
    (hfraction : IsAnyRow fraction) :
    readFloat? (String.ofList (whole ++ '.' :: fraction)) =
      some (ofDecimal false (ofDigits ((whole ++ fraction).map asciiDigit)) (-fraction.length)) := by
  have hpoint : (whole ++ '.' :: fraction).map asciiDigit =
      whole.map asciiDigit ++ '.' :: (fraction.map asciiDigit ++ []) := by
    rw [List.map_append, List.map_cons, List.append_nil]
    rfl
  have hrest : ∀ c ∈ '.' :: (fraction.map asciiDigit ++ []), IsNumeral c := by
    rw [List.append_nil, List.forall_mem_cons]
    exact ⟨Or.inr (Or.inl rfl), hfraction.ascii.unsigned.numeral⟩
  have hend : ∀ c ∈ ([] : List Char).head?, isDigit c = false := nofun
  rw [readFloat?_ascii (IsNumber.fraction hwhole hfraction).digit_or_point, hpoint]
  refine (readFloat_numeral false (hwhole.ascii.unsigned_append hrest)).trans ?_
  rw [readUnsigned_point false hwhole.ascii hfraction.ascii.digit hend rfl, List.map_append,
    List.length_map, Int.zero_sub]

theorem IsNumber.readFloat? (h : IsNumber text) :
    ∃ value, Decimal.readFloat? (String.ofList text) = some value := by
  cases h with
  | whole h => exact ⟨_, readFloat?_row h⟩
  | fraction hwhole hfraction => exact ⟨_, readFloat?_point hwhole hfraction⟩

end WorkWatch.Decimal
