import WorkWatch.Json.Reader
import WorkWatch.Json.Writer
import WorkWatch.Proofs.Text.Digits

/-! Strings of JSON texts. What is written for a string is read back whatever follows it, so that no
written string is the beginning of another one. -/

namespace WorkWatch.Json

open WorkWatch.Text Writer Reader

/-- The code points that a reader finds for a character: itself, or two surrogates beyond the first
plane. -/
def units (c : Char) : List Nat :=
  if c.toNat < 0x10000 then [c.toNat]
  else [0xd800 + (c.toNat - 0x10000) / 0x400, 0xdc00 + (c.toNat - 0x10000) % 0x400]

/-- Puts code points in front of those that were read. -/
def preceded (points : List Nat) (found : Option (List Nat × List Char)) :
    Option (List Nat × List Char) :=
  found.map fun (more, after) => (points ++ more, after)

theorem hex4_digitChar {n : Nat} (h : n < 0x10000) :
    hex4? (Nat.digitChar (n / 16 / 16 / 16)) (Nat.digitChar (n / 16 / 16 % 16))
      (Nat.digitChar (n / 16 % 16)) (Nat.digitChar (n % 16)) = some n := by
  unfold hex4?
  rw [hexValue_digitChar (by omega), hexValue_digitChar (by omega),
    hexValue_digitChar (by omega), hexValue_digitChar (by omega)]
  change some _ = some n
  congr 1
  omega

theorem codes_unit {n : Nat} (h : n < 0x10000) (rest : List Char) :
    codes (unit n ++ rest) = preceded [n] (codes rest) := by
  unfold unit
  rw [hexPadded_four h]
  simp only [List.cons_append, List.nil_append]
  rw [codes, hex4_digitChar h]
  cases codes rest <;> rfl

theorem codes_escaped {e c : Char} (he : escape? e = some c) (rest : List Char) :
    codes ('\\' :: e :: rest) = preceded [c.toNat] (codes rest) := by
  rw [codes, he]
  · cases codes rest <;> rfl
  · rintro a b c d more rfl -
    cases he

theorem codes_plain {c : Char} (hquote : c ≠ '"') (hslash : c ≠ '\\') (hcontrol : 32 ≤ c.toNat)
    (rest : List Char) : codes (c :: rest) = preceded [c.toNat] (codes rest) := by
  have hnot : (decide (c.toNat < 32) || decide (c = '\\')) = false := by
    simp [hslash, hcontrol]
  rw [codes, hnot]
  · cases codes rest <;> rfl
  · exact hquote
  · exact fun _ _ _ _ _ h _ => hslash h
  · exact fun _ _ h _ => hslash h

theorem units_eq_singleton {c : Char} (h : c.toNat < 0x10000) : units c = [c.toNat] := if_pos h

theorem codes_character (c : Char) (rest : List Char) :
    codes (character c ++ rest) = preceded (units c) (codes rest) := by
  have hescaped {e d : Char} (he : escape? e = some d) (hd : d.toNat < 0x10000) :
      codes (['\\', e] ++ rest) = preceded (units d) (codes rest) := by
    rw [units_eq_singleton hd]
    exact codes_escaped he rest
  unfold character
  dsimp only
  repeat' split
  any_goals (subst c; exact hescaped rfl (by decide))
  · rename_i hquote hslash _ _ _ _ _ hascii
    simp only [Bool.and_eq_true, decide_eq_true_eq] at hascii
    rw [units_eq_singleton (by omega)]
    exact codes_plain hquote hslash hascii.1 rest
  · rename_i hplane
    rw [units_eq_singleton hplane]
    exact codes_unit hplane rest
  · rename_i hplane
    have hvalid : c.toNat < 0xd800 ∨ 0xdfff < c.toNat ∧ c.toNat < 0x110000 := c.valid
    unfold units
    rw [if_neg hplane, List.append_assoc, codes_unit (by omega), codes_unit (by omega)]
    cases codes rest <;> rfl

theorem codes_characters (s : List Char) (rest : List Char) :
    codes (s.flatMap character ++ '"' :: rest) = some (s.flatMap units, rest) := by
  induction s with
  | nil => rfl
  | cons c s ih =>
    rw [List.flatMap_cons, List.append_assoc, codes_character, ih]
    rfl

theorem joined_plain {n : Nat} (h : n < 0xd800 ∨ 0xe000 ≤ n) (rest : List Nat) :
    joined (n :: rest) = Char.ofNat n :: joined rest := by
  have hhigh : (decide (0xd800 ≤ n) && decide (n < 0xdc00)) = false := by simp; omega
  have hlow : (decide (0xdc00 ≤ n) && decide (n < 0xe000)) = false := by simp; omega
  cases rest <;> simp only [joined, hhigh, hlow, Bool.false_eq_true, if_false]

theorem joined_units (c : Char) (rest : List Nat) :
    joined (units c ++ rest) = c :: joined rest := by
  have hvalid : c.toNat < 0xd800 ∨ 0xdfff < c.toNat ∧ c.toNat < 0x110000 := c.valid
  unfold units
  split
  · rw [List.singleton_append, joined_plain (by omega), Char.ofNat_toNat]
  · rename_i hplane
    have hhigh : (decide (0xd800 ≤ 0xd800 + (c.toNat - 0x10000) / 0x400) &&
        decide (0xd800 + (c.toNat - 0x10000) / 0x400 < 0xdc00)) = true := by simp; omega
    have hlow : (decide (0xdc00 ≤ 0xdc00 + (c.toNat - 0x10000) % 0x400) &&
        decide (0xdc00 + (c.toNat - 0x10000) % 0x400 < 0xe000)) = true := by simp; omega
    have hsum : 0x10000 + (0xd800 + (c.toNat - 0x10000) / 0x400 - 0xd800) * 0x400 +
        (0xdc00 + (c.toNat - 0x10000) % 0x400 - 0xdc00) = c.toNat := by omega
    rw [List.cons_append, List.singleton_append, joined, if_pos hhigh, if_pos hlow, hsum,
      Char.ofNat_toNat]

theorem joined_flatMap_units (s : List Char) : joined (s.flatMap units) = s := by
  induction s with
  | nil => rfl
  | cons c s ih => rw [List.flatMap_cons, joined_units, ih]

/-- A written string is read back, up to its closing quote. -/
theorem read_string (s : String) (rest : List Char) :
    Reader.string (s.toList.flatMap character ++ '"' :: rest) = some (s, rest) := by
  unfold Reader.string
  rw [codes_characters]
  simp only [Option.map_some, joined_flatMap_units, String.ofList_toList]

theorem string_append_inj {s t : String} {front back : List Char}
    (h : Writer.string s ++ front = Writer.string t ++ back) : s = t ∧ front = back := by
  unfold Writer.string at h
  simp only [List.cons_append, List.append_assoc, List.nil_append, List.cons.injEq, true_and] at h
  have hread := read_string s front
  rw [h, read_string, Option.some.injEq, Prod.mk.injEq] at hread
  exact ⟨hread.1.symm, hread.2.symm⟩

end WorkWatch.Json
