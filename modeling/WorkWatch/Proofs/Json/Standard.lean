import WorkWatch.Json.Reader
import WorkWatch.Proofs.Decimal.Read

/-! The texts that the JSON standard admits: blanks, numbers without leading zeros, strings with their
escapes, and nothing between the tokens but the words for null and the truth values. So the words for
infinite numbers and NaN can stand in strings only: outside of them no text has a capital N or I. -/

namespace WorkWatch.Json.Standard

open WorkWatch.Text
open Decimal (IsRow)

/-! The grammar. -/

def Blank (text : List Char) : Prop := ∀ c ∈ text, Reader.isSpace c = true

theorem blank_nil : Blank [] := nofun

/-- Whole numbers without leading zeros. -/
inductive Whole : List Char → Prop
  | zero : Whole ['0']
  | positive {first : Char} {rest : List Char} (hfirst : isDigit first = true) (hzero : first ≠ '0')
      (hrest : ∀ c ∈ rest, isDigit c = true) : Whole (first :: rest)

inductive Fraction : List Char → Prop
  | none : Fraction []
  | digits {digits : List Char} (h : IsRow digits) : Fraction ('.' :: digits)

inductive Exponent : List Char → Prop
  | none : Exponent []
  | power {mark : Char} {sign digits : List Char} (hmark : mark = 'e' ∨ mark = 'E')
      (hsign : sign = [] ∨ sign = ['+'] ∨ sign = ['-']) (h : IsRow digits) :
      Exponent (mark :: (sign ++ digits))

inductive Unsigned : List Char → Prop
  | intro {whole fraction exponent : List Char} (hwhole : Whole whole)
      (hfraction : Fraction fraction) (hexponent : Exponent exponent) :
      Unsigned (whole ++ (fraction ++ exponent))

inductive Number : List Char → Prop
  | positive {text : List Char} (h : Unsigned text) : Number text
  | negative {text : List Char} (h : Unsigned text) : Number ('-' :: text)

/-- What stands between the quotes of a string. -/
inductive Characters : List Char → Prop
  | nil : Characters []
  | plain {c : Char} {rest : List Char} (hcontrol : 32 ≤ c.toNat) (hquote : c ≠ '"')
      (hslash : c ≠ '\\') (hrest : Characters rest) : Characters (c :: rest)
  | escape {c : Char} {rest : List Char} (hescape : (Reader.escape? c).isSome)
      (hrest : Characters rest) : Characters ('\\' :: c :: rest)
  | unit {a b c d : Char} {rest : List Char} (hunit : (Reader.hex4? a b c d).isSome)
      (hrest : Characters rest) : Characters ('\\' :: 'u' :: a :: b :: c :: d :: rest)

mutual
inductive Value : List Char → Prop
  | null : Value ['n', 'u', 'l', 'l']
  | yes : Value ['t', 'r', 'u', 'e']
  | no : Value ['f', 'a', 'l', 's', 'e']
  | number {text : List Char} (h : Number text) : Value text
  | string {text : List Char} (h : Characters text) : Value ('"' :: (text ++ ['"']))
  | emptyArray {gap : List Char} (h : Blank gap) : Value ('[' :: (gap ++ [']']))
  | array {items : List Char} (h : Items items) : Value ('[' :: (items ++ [']']))
  | emptyObject {gap : List Char} (h : Blank gap) : Value ('\x7b' :: (gap ++ ['\x7d']))
  | object {members : List Char} (h : Members members) :
      Value ('\x7b' :: (members ++ ['\x7d']))

/-- A value with blanks around it; a whole text is one. -/
inductive Document : List Char → Prop
  | intro {before value after : List Char} (hbefore : Blank before) (h : Value value)
      (hafter : Blank after) : Document (before ++ (value ++ after))

inductive Items : List Char → Prop
  | last {item : List Char} (h : Document item) : Items item
  | more {item rest : List Char} (h : Document item) (hrest : Items rest) :
      Items (item ++ ',' :: rest)

inductive Member : List Char → Prop
  | intro {before name after value : List Char} (hbefore : Blank before) (hname : Characters name)
      (hafter : Blank after) (h : Document value) :
      Member (before ++ '"' :: (name ++ '"' :: (after ++ ':' :: value)))

inductive Members : List Char → Prop
  | last {member : List Char} (h : Member member) : Members member
  | more {member rest : List Char} (h : Member member) (hrest : Members rest) :
      Members (member ++ ',' :: rest)
end

/-! What stands outside of strings. -/

mutual
/-- The characters outside of strings. -/
def bare : List Char → List Char
  | [] => []
  | c :: rest => if c = '"' then bareAfter rest else c :: bare rest

/-- The characters outside of strings, in a string so far. -/
def bareAfter : List Char → List Char
  | [] => []
  | '"' :: rest => bare rest
  | '\\' :: _ :: rest => bareAfter rest
  | _ :: rest => bareAfter rest
end

/-- A character that no standard text has outside of strings. -/
def isForeign (c : Char) : Bool := c = 'N' || c = 'I'

/-- The text leaves no string open, and it has a foreign character outside of strings or not. -/
def Scans (foreign : Bool) (text : List Char) : Prop :=
  ∃ outside, outside.any isForeign = foreign ∧ ∀ rest, bare (text ++ rest) = outside ++ bare rest

theorem Scans.unique {a b : Bool} {text : List Char} (ha : Scans a text) (hb : Scans b text) :
    a = b := by
  obtain ⟨outside, rfl, hbare⟩ := ha
  obtain ⟨outside', rfl, hbare'⟩ := hb
  have hsame := (hbare []).symm.trans (hbare' [])
  rw [List.append_cancel_right hsame]

theorem Scans.append {a b : Bool} {front back : List Char} (ha : Scans a front)
    (hb : Scans b back) : Scans (a || b) (front ++ back) := by
  obtain ⟨outside, rfl, hfront⟩ := ha
  obtain ⟨outside', rfl, hback⟩ := hb
  refine ⟨outside ++ outside', List.any_append, fun rest => ?_⟩
  rw [List.append_assoc, hfront, hback, List.append_assoc]

theorem scans_unquoted {text : List Char} (h : '"' ∉ text) : Scans (text.any isForeign) text := by
  refine ⟨text, rfl, fun rest => ?_⟩
  induction text with
  | nil => rfl
  | cons c text ih =>
    have hc : ¬ c = '"' := fun hquote => h (List.mem_cons.mpr (Or.inl hquote.symm))
    have htext := ih fun hquote => h (List.mem_cons_of_mem c hquote)
    rw [List.cons_append, bare, if_neg hc, htext, List.cons_append]

theorem scans_plain {text : List Char} (h : ∀ c ∈ text, c ≠ '"' ∧ isForeign c = false) :
    Scans false text := by
  have hforeign : text.any isForeign = false :=
    List.any_eq_false.mpr fun c hc => Bool.not_eq_true _ ▸ (h c hc).2
  have hscans := scans_unquoted fun hquote => (h _ hquote).1 rfl
  rwa [hforeign] at hscans

theorem scans_nil : Scans false [] := scans_plain nofun

theorem Scans.cons {foreign : Bool} {text : List Char} (h : Scans foreign text) {c : Char}
    (hquote : c ≠ '"') (hforeign : isForeign c = false) : Scans foreign (c :: text) := by
  have hfirst : Scans false [c] := scans_plain fun d hd => by
    rw [List.mem_singleton.mp hd]
    exact ⟨hquote, hforeign⟩
  exact hfirst.append h

theorem Scans.enclosed {foreign : Bool} {text : List Char} (h : Scans foreign text) {c d : Char}
    (hc : c ≠ '"' ∧ isForeign c = false) (hd : d ≠ '"' ∧ isForeign d = false) :
    Scans foreign (c :: (text ++ [d])) := by
  have hlast : Scans false [d] := scans_nil.cons hd.1 hd.2
  have happend := h.append hlast
  rw [Bool.or_false] at happend
  exact happend.cons hc.1 hc.2

theorem Blank.scans {text : List Char} (h : Blank text) : Scans false text := by
  refine scans_plain fun c hc => ?_
  have hspace := h c hc
  constructor
  · rintro rfl
    cases hspace
  · by_contra hforeign
    simp only [isForeign, Bool.not_eq_false, Bool.or_eq_true, decide_eq_true_eq] at hforeign
    rcases hforeign with rfl | rfl <;> cases hspace

theorem bareAfter_of_ne {c : Char} (hquote : c ≠ '"') (hslash : c ≠ '\\') (rest : List Char) :
    bareAfter (c :: rest) = bareAfter rest := by
  rw [bareAfter]
  · exact hquote
  · exact fun _ _ h _ => hslash h

theorem bareAfter_escape (c : Char) (rest : List Char) :
    bareAfter ('\\' :: c :: rest) = bareAfter rest := by
  rw [bareAfter]

/-- Hexadecimal digits neither end a string nor begin an escape. -/
theorem hexValue_ne {c : Char} (h : (hexValue? c).isSome) : c ≠ '"' ∧ c ≠ '\\' := by
  constructor <;> rintro rfl <;> exact absurd h (by decide)

theorem isSome_hexValue {a b c d : Char} (h : (Reader.hex4? a b c d).isSome) :
    (hexValue? a).isSome ∧ (hexValue? b).isSome ∧ (hexValue? c).isSome ∧ (hexValue? d).isSome := by
  obtain ⟨n, hn⟩ := Option.isSome_iff_exists.mp h
  simp only [Reader.hex4?, Option.bind_eq_bind, Option.bind_eq_some_iff] at hn
  obtain ⟨va, ha, vb, hb, vc, hc, vd, hd, -⟩ := hn
  simp [ha, hb, hc, hd]

/-- A string ends at its first quote that is not escaped. -/
theorem bareAfter_characters {text : List Char} (h : Characters text) (rest : List Char) :
    bareAfter (text ++ '"' :: rest) = bare rest := by
  induction h with
  | nil => rw [List.nil_append, bareAfter]
  | plain hcontrol hquote hslash hrest ih =>
    rw [List.cons_append, bareAfter_of_ne hquote hslash, ih]
  | escape hescape hrest ih => rw [List.cons_append, List.cons_append, bareAfter_escape, ih]
  | unit hunit hrest ih =>
    obtain ⟨ha, hb, hc, hd⟩ := isSome_hexValue hunit
    simp only [List.cons_append]
    rw [bareAfter_escape, bareAfter_of_ne (hexValue_ne ha).1 (hexValue_ne ha).2,
      bareAfter_of_ne (hexValue_ne hb).1 (hexValue_ne hb).2,
      bareAfter_of_ne (hexValue_ne hc).1 (hexValue_ne hc).2,
      bareAfter_of_ne (hexValue_ne hd).1 (hexValue_ne hd).2, ih]

theorem Characters.scans {text : List Char} (h : Characters text) :
    Scans false ('"' :: (text ++ ['"'])) := by
  refine ⟨[], rfl, fun rest => ?_⟩
  rw [List.cons_append, bare, if_pos rfl, List.append_assoc]
  exact bareAfter_characters h rest

/-! Numbers. -/

/-- What stands in the text of a number. -/
def IsNumeral (c : Char) : Prop :=
  isDigit c = true ∨ c = '.' ∨ c = 'e' ∨ c = 'E' ∨ c = '-' ∨ c = '+'

theorem IsNumeral.plain {c : Char} (h : IsNumeral c) : c ≠ '"' ∧ isForeign c = false := by
  rcases h with h | rfl | rfl | rfl | rfl | rfl
  · have hne {d : Char} (hd : isDigit d = false) : c ≠ d := by
      rintro rfl
      exact absurd (h.symm.trans hd) (by decide)
    have hN : c ≠ 'N' := hne (by decide)
    have hI : c ≠ 'I' := hne (by decide)
    exact ⟨hne (by decide), by simp [isForeign, hN, hI]⟩
  all_goals decide

theorem Whole.isNumeral {text : List Char} (h : Whole text) : ∀ c ∈ text, IsNumeral c := by
  cases h with
  | zero =>
    intro c hc
    rw [List.mem_singleton.mp hc]
    exact Or.inl rfl
  | positive hfirst hzero hrest =>
    intro c hc
    rcases List.mem_cons.mp hc with rfl | hc
    · exact Or.inl hfirst
    · exact Or.inl (hrest c hc)

theorem Fraction.isNumeral {text : List Char} (h : Fraction text) : ∀ c ∈ text, IsNumeral c := by
  cases h with
  | none => nofun
  | digits hdigits =>
    intro c hc
    rcases List.mem_cons.mp hc with rfl | hc
    · exact Or.inr (Or.inl rfl)
    · exact Or.inl (hdigits.digit c hc)

theorem Exponent.isNumeral {text : List Char} (h : Exponent text) : ∀ c ∈ text, IsNumeral c := by
  cases h with
  | none => nofun
  | power hmark hsign hdigits =>
    intro c hc
    rcases List.mem_cons.mp hc with rfl | hc
    · rcases hmark with rfl | rfl
      · exact Or.inr (Or.inr (Or.inl rfl))
      · exact Or.inr (Or.inr (Or.inr (Or.inl rfl)))
    · rcases List.mem_append.mp hc with hc | hc
      · rcases hsign with rfl | rfl | rfl
        · cases hc
        · rw [List.mem_singleton.mp hc]
          exact Or.inr (Or.inr (Or.inr (Or.inr (Or.inr rfl))))
        · rw [List.mem_singleton.mp hc]
          exact Or.inr (Or.inr (Or.inr (Or.inr (Or.inl rfl))))
      · exact Or.inl (hdigits.digit c hc)

theorem Unsigned.isNumeral {text : List Char} (h : Unsigned text) : ∀ c ∈ text, IsNumeral c := by
  obtain ⟨hwhole, hfraction, hexponent⟩ := h
  intro c hc
  rcases List.mem_append.mp hc with hc | hc
  · exact hwhole.isNumeral c hc
  · rcases List.mem_append.mp hc with hc | hc
    · exact hfraction.isNumeral c hc
    · exact hexponent.isNumeral c hc

theorem Number.scans {text : List Char} (h : Number text) : Scans false text := by
  cases h with
  | positive h => exact scans_plain fun c hc => (h.isNumeral c hc).plain
  | negative h =>
    exact (scans_plain fun c hc => (h.isNumeral c hc).plain).cons (by decide) (by decide)

/-! Whole texts. -/

mutual
theorem Value.scans : ∀ {text : List Char}, Value text → Scans false text
  | _, .null => scans_plain (by simp [isForeign])
  | _, .yes => scans_plain (by simp [isForeign])
  | _, .no => scans_plain (by simp [isForeign])
  | _, .number h => Number.scans h
  | _, .string h => Characters.scans h
  | _, .emptyArray h => (Blank.scans h).enclosed (by decide) (by decide)
  | _, .array h => (Items.scans h).enclosed (by decide) (by decide)
  | _, .emptyObject h => (Blank.scans h).enclosed (by decide) (by decide)
  | _, .object h => (Members.scans h).enclosed (by decide) (by decide)

theorem Document.scans : ∀ {text : List Char}, Document text → Scans false text
  | _, .intro hbefore h hafter =>
    (Blank.scans hbefore).append ((Value.scans h).append (Blank.scans hafter))

theorem Items.scans : ∀ {text : List Char}, Items text → Scans false text
  | _, .last h => Document.scans h
  | _, .more h hrest => (Document.scans h).append ((Items.scans hrest).cons (by decide) (by decide))

theorem Member.scans : ∀ {text : List Char}, Member text → Scans false text
  | _, @Member.intro before name after value hbefore hname hafter h => by
    have hvalue : Scans false (':' :: value) := (Document.scans h).cons (by decide) (by decide)
    have hnamed := (Characters.scans hname).append ((Blank.scans hafter).append hvalue)
    rw [List.cons_append, List.append_assoc] at hnamed
    exact (Blank.scans hbefore).append hnamed

theorem Members.scans : ∀ {text : List Char}, Members text → Scans false text
  | _, .last h => Member.scans h
  | _, .more h hrest => (Member.scans h).append ((Members.scans hrest).cons (by decide) (by decide))
end

/-- A text of the standard has no foreign character outside of strings. -/
theorem Document.bare_not_foreign {text : List Char} (h : Document text) :
    (bare text).any isForeign = false := by
  obtain ⟨outside, hforeign, hbare⟩ := h.scans
  have hall := hbare []
  rw [List.append_nil, bare, List.append_nil] at hall
  rw [hall]
  exact hforeign

end WorkWatch.Json.Standard
