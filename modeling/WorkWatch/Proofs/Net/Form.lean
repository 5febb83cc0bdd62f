import WorkWatch.Proofs.Net.Path
import WorkWatch.Proofs.Text.Digits

/-! Values in the query of a URL. A value that is written as forms write it is read back byte by
byte, and nothing in it can be taken for the end of its parameter. -/

namespace WorkWatch.Net

open WorkWatch.Text

/-! Reading a query. -/

def utf8 (s : String) : List UInt8 := s.toList.flatMap String.utf8EncodeChar

/-- The bytes that a value in a query stands for. -/
def formBytes : List Char → List UInt8
  | '%' :: a :: b :: rest =>
    match hexValue? a, hexValue? b with
    | some high, some low => UInt8.ofNat (16 * high + low) :: formBytes rest
    | _, _ => String.utf8EncodeChar '%' ++ formBytes (a :: b :: rest)
  | c :: rest => (if c = '+' then [0x20] else String.utf8EncodeChar c) ++ formBytes rest
  | [] => []

/-- The names and values of the parameters of a query. -/
def formParameters (query : List Char) : List (List UInt8 × List UInt8) :=
  ((pieces '&' query).filter (!·.isEmpty)).map fun parameter =>
    let (name, value) := (cut? ['='] parameter).getD (parameter, [])
    (formBytes name, formBytes value)

theorem formBytes_cons {c : Char} (hc : c ≠ '%') (rest : List Char) :
    formBytes (c :: rest) =
      (if c = '+' then [0x20] else String.utf8EncodeChar c) ++ formBytes rest := by
  rw [formBytes]
  rintro a b more ⟨⟩
  exact absurd rfl hc

theorem hexValue_toUpper {value : Nat} (h : value < 16) :
    hexValue? (Nat.digitChar value).toUpper = some value := by
  revert value
  decide

theorem formBytes_byte (byte : UInt8) (rest : List Char) :
    formBytes ('%' :: ((hexPadded 2 byte.toNat).map Char.toUpper ++ rest)) =
      byte :: formBytes rest := by
  have hbyte : byte.toNat < 256 := byte.toNat_lt
  have hhigh : byte.toNat / 16 < 16 := by omega
  have hlow : byte.toNat % 16 < 16 := by omega
  rw [hexPadded_byte hbyte]
  simp only [List.map_cons, List.map_nil, List.cons_append, List.nil_append]
  rw [formBytes, hexValue_toUpper hhigh, hexValue_toUpper hlow]
  dsimp only
  rw [Nat.div_add_mod, UInt8.ofNat_toNat]

theorem formBytes_percent (c : Char) (rest : List Char) :
    formBytes (percent c ++ rest) = String.utf8EncodeChar c ++ formBytes rest := by
  unfold percent
  induction String.utf8EncodeChar c with
  | nil => rfl
  | cons byte bytes ih =>
    rw [List.flatMap_cons, List.append_assoc, List.cons_append, formBytes_byte, ih]
    rfl

/-- What is written as forms write it is read back. -/
theorem formBytes_formValue (s rest : List Char) :
    formBytes (formValue s ++ rest) = s.flatMap String.utf8EncodeChar ++ formBytes rest := by
  induction s with
  | nil => rfl
  | cons c s ih =>
    unfold formValue at ih ⊢
    rw [List.flatMap_cons, List.flatMap_cons, List.append_assoc, List.append_assoc, ← ih]
    split
    · rename_i hblank
      subst hblank
      rw [List.singleton_append, formBytes_cons (by decide)]
      rfl
    · split
      · rename_i hplain
        have hpercent : c ≠ '%' := by
          rintro rfl
          cases hplain
        have hplus : c ≠ '+' := by
          rintro rfl
          cases hplain
        rw [List.singleton_append, formBytes_cons hpercent, if_neg hplus]
      · exact formBytes_percent c _

/-! The characters of a query. -/

/-- A character that values are written with. -/
def isFormChar (c : Char) : Bool := isUnreserved c || c = '+' || c = '%'

theorem isFormChar_of_mem {s : List Char} {d : Char} (h : d ∈ formValue s) :
    isFormChar d = true := by
  have hdigits : ∀ value < 16, isFormChar (Nat.digitChar value).toUpper = true := by decide
  obtain ⟨c, -, hd⟩ := List.mem_flatMap.mp h
  split at hd
  · rw [List.mem_singleton.mp hd]
    decide
  · split at hd
    · rename_i hplain
      rw [List.mem_singleton.mp hd]
      unfold isFormChar
      rw [hplain]
      rfl
    · obtain ⟨byte, -, hd⟩ := List.mem_flatMap.mp hd
      rcases List.mem_cons.mp hd with rfl | hd
      · decide
      · obtain ⟨digit, hdigit, rfl⟩ := List.mem_map.mp hd
        obtain ⟨value, hvalue, rfl⟩ := mem_hexPadded hdigit
        exact hdigits value hvalue

theorem isQueryChar_of_isFormChar {c : Char} (h : isFormChar c = true) :
    isQueryChar c = true := by
  have hascii : c.toNat < 128 := by
    simp only [isFormChar, isUnreserved, isDigit, Bool.or_eq_true, Bool.and_eq_true,
      decide_eq_true_eq, Char.le_def, UInt32.le_iff_toNat_le] at h
    change c.val.toNat < 128
    rcases h with (((((((h | h) | h) | rfl) | rfl) | rfl) | rfl) | rfl) | rfl
    · exact Nat.lt_of_le_of_lt h.2 (by decide)
    · exact Nat.lt_of_le_of_lt h.2 (by decide)
    · exact Nat.lt_of_le_of_lt h.2 (by decide)
    all_goals decide
  exact of_ascii (P := fun c => isFormChar c = true → isQueryChar c = true) (by decide) hascii h

theorem quote_eq_self {plain : Char → Bool} {s : List Char} (h : ∀ c ∈ s, plain c = true) :
    quote plain s = s := by
  fun_induction quote plain s with
  | case1 a b rest hhex ih => rw [ih fun c hc => h c (by simp [hc])]
  | case2 a b rest hhex ih =>
    rw [ih fun c hc => h c (List.mem_cons_of_mem _ hc), if_pos (h '%' List.mem_cons_self)]
    rfl
  | case3 c rest hmore ih =>
    rw [ih fun d hd => h d (List.mem_cons_of_mem _ hd), if_pos (h c List.mem_cons_self)]
    rfl
  | case4 => rfl

/-- A query of one parameter stands in a URL as it is written, and the parameter is read back. -/
theorem formParameters_single {name : List Char} (hplain : ∀ c ∈ name, isFormChar c = true)
    (value : List Char) :
    quote isQueryChar (name ++ '=' :: formValue value) = name ++ '=' :: formValue value ∧
    formParameters (name ++ '=' :: formValue value) =
      [(formBytes name, value.flatMap String.utf8EncodeChar)] := by
  have hvalue : ∀ c ∈ formValue value, isFormChar c = true := fun c => isFormChar_of_mem
  have hchars : ∀ c ∈ name ++ '=' :: formValue value, isFormChar c = true ∨ c = '=' := by
    intro c hc
    rw [List.mem_append, List.mem_cons] at hc
    rcases hc with hc | rfl | hc
    · exact Or.inl (hplain c hc)
    · exact Or.inr rfl
    · exact Or.inl (hvalue c hc)
  constructor
  · apply quote_eq_self
    intro c hc
    rcases hchars c hc with hc | rfl
    · exact isQueryChar_of_isFormChar hc
    · decide
  · have hone : '&' ∉ name ++ '=' :: formValue value := by
      intro hmem
      rcases hchars '&' hmem with h | h <;> cases h
    have hequals : '=' ∉ name := by
      intro hmem
      cases hplain '=' hmem
    have hread := formBytes_formValue value []
    rw [List.append_nil] at hread
    have hcut := cut?_append hequals [] (formValue value)
    rw [List.singleton_append] at hcut
    unfold formParameters
    rw [pieces_of_not_mem hone, List.filter_cons_of_pos (by simp), List.filter_nil,
      List.map_singleton, hcut]
    simp [hread, formBytes]

end WorkWatch.Net
