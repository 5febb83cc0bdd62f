import WorkWatch.Proofs.Json.Numerals
import WorkWatch.Proofs.Json.Strings

/-! Documents whose numbers are all finite. They are the documents that are written as texts of the
standard, for the words for infinite numbers and NaN have a foreign character. -/

namespace WorkWatch.Json

open WorkWatch.Text

mutual
/-- No number inside is infinite or NaN. -/
def isFinite : Json → Bool
  | .float value => Decimal.isFinite value
  | .arr items => finiteItems items
  | .obj members => finiteMembers members
  | _ => true

def finiteItems : List Json → Bool
  | [] => true
  | first :: rest => first.isFinite && finiteItems rest

def finiteMembers : List (String × Json) → Bool
  | [] => true
  | (_, first) :: rest => first.isFinite && finiteMembers rest
end

theorem finiteItems_iff {items : List Json} :
    finiteItems items = true ↔ ∀ item ∈ items, item.isFinite = true := by
  induction items with
  | nil => exact iff_of_true rfl nofun
  | cons first rest ih => rw [finiteItems, Bool.and_eq_true, ih, List.forall_mem_cons]

theorem finiteMembers_iff {members : List (String × Json)} :
    finiteMembers members = true ↔ ∀ member ∈ members, member.2.isFinite = true := by
  induction members with
  | nil => exact iff_of_true rfl nofun
  | cons first rest ih => rw [finiteMembers, Bool.and_eq_true, ih, List.forall_mem_cons]

namespace Standard

open Writer

/-! Strings. -/

theorem Characters.append {front back : List Char} (hfront : Characters front)
    (hback : Characters back) : Characters (front ++ back) := by
  induction hfront with
  | nil => exact hback
  | plain hcontrol hquote hslash _ ih => exact .plain hcontrol hquote hslash ih
  | escape hescape _ ih => exact .escape hescape ih
  | unit hunit _ ih => exact .unit hunit ih

theorem characters_unit {n : Nat} (h : n < 0x10000) : Characters (Writer.unit n) := by
  unfold Writer.unit
  rw [hexPadded_four h]
  exact .unit (Option.isSome_of_eq_some (hex4_digitChar h)) .nil

theorem characters_character (c : Char) : Characters (character c) := by
  have hescaped {e : Char} (he : (Reader.escape? e).isSome) : Characters ['\\', e] :=
    .escape he .nil
  unfold character
  dsimp only
  repeat' split
  any_goals exact hescaped (by decide)
  · rename_i hquote hslash _ _ _ _ _ hascii
    simp only [Bool.and_eq_true, decide_eq_true_eq] at hascii
    exact .plain hascii.1 hquote hslash .nil
  · rename_i hplane
    exact characters_unit hplane
  · rename_i hplane
    have hvalid : c.toNat < 0xd800 ∨ 0xdfff < c.toNat ∧ c.toNat < 0x110000 := c.valid
    exact (characters_unit (by omega)).append (characters_unit (by omega))

theorem characters_flatMap (s : List Char) : Characters (s.flatMap character) := by
  induction s with
  | nil => exact .nil
  | cons c s ih =>
    rw [List.flatMap_cons]
    exact (characters_character c).append ih

/-! Doubles. -/

theorem value_float {x : Float} (hx : Decimal.isFinite x = true) : Value (Writer.float x) := by
  have hnumber := number_fullText hx
  unfold Decimal.isFinite at hx
  unfold Writer.float
  cases hbinary : Decimal.Binary.ofFloat x with
  | finite negative mantissa exponent => exact .number hnumber
  | nan | infinite _ =>
    rw [hbinary] at hx
    cases hx

/-- The words for infinite numbers and NaN begin with a foreign character, after their sign. -/
theorem scans_float {x : Float} (hx : Decimal.isFinite x = false) : Scans true (Writer.float x) := by
  unfold Decimal.isFinite at hx
  unfold Writer.float
  cases hbinary : Decimal.Binary.ofFloat x with
  | nan => exact @scans_unquoted "NaN".toList (by decide +kernel)
  | infinite negative =>
    cases negative with
    | false => exact @scans_unquoted "Infinity".toList (by decide +kernel)
    | true => exact @scans_unquoted ('-' :: "Infinity".toList) (by decide +kernel)
  | finite negative mantissa exponent =>
    rw [hbinary] at hx
    cases hx

/-! Written documents. -/

structure BlankGaps (gaps : Gaps) : Prop where
  item : Blank gaps.item
  name : Blank gaps.name

theorem Value.document {text gap : List Char} (h : Value text) (hgap : Blank gap) :
    Document (gap ++ text) := by
  have hintro := Document.intro hgap h blank_nil
  rwa [List.append_nil] at hintro

theorem member_string {gaps : Gaps} (hgaps : BlankGaps gaps) (name : String) {gap text : List Char}
    (hgap : Blank gap) (h : Value text) :
    Member (gap ++ (Writer.string name ++ ':' :: (gaps.name ++ text))) := by
  have hintro := Member.intro hgap (characters_flatMap name.toList) blank_nil
    (h.document hgaps.name)
  unfold Writer.string
  simpa only [List.cons_append, List.append_assoc, List.nil_append] using hintro

variable {gaps : Gaps}

mutual
theorem value_of_isFinite (hgaps : BlankGaps gaps) :
    ∀ {value : Json}, value.isFinite = true → Value (Writer.value gaps value)
  | .null, _ => .null
  | .bool false, _ => .no
  | .bool true, _ => .yes
  | .int value, _ => .number (number_intText value)
  | .float _, h => value_float h
  | .str value, _ => .string (characters_flatMap value.toList)
  | .arr [], _ => .emptyArray blank_nil
  | .arr (first :: rest), h => by
    obtain ⟨hfirst, hrest⟩ := Bool.and_eq_true_iff.mp h
    have hdocument := (value_of_isFinite hgaps hfirst).document blank_nil
    have harray := Value.array (items_of_isFinite hgaps hdocument hrest)
    rwa [List.nil_append, List.append_assoc] at harray
  | .obj [], _ => .emptyObject blank_nil
  | .obj ((name, first) :: rest), h => by
    obtain ⟨hfirst, hrest⟩ := Bool.and_eq_true_iff.mp h
    have hmember := member_string hgaps name blank_nil (value_of_isFinite hgaps hfirst)
    have hobject := Value.object (members_of_isFinite hgaps hmember hrest)
    rw [Writer.value]
    simpa only [List.append_assoc, List.cons_append, List.nil_append] using hobject

theorem items_of_isFinite (hgaps : BlankGaps gaps) : ∀ {front : List Char} {rest : List Json},
    Document front → finiteItems rest = true → Items (front ++ Writer.items gaps rest)
  | front, [], hfront, _ => by
    rw [Writer.items, List.append_nil]
    exact .last hfront
  | front, first :: rest, hfront, h => by
    obtain ⟨hfirst, hrest⟩ := Bool.and_eq_true_iff.mp h
    have hdocument := (value_of_isFinite hgaps hfirst).document hgaps.item
    exact .more hfront (items_of_isFinite hgaps hdocument hrest)

theorem members_of_isFinite (hgaps : BlankGaps gaps) :
    ∀ {front : List Char} {rest : List (String × Json)}, Member front →
      finiteMembers rest = true → Members (front ++ Writer.members gaps rest)
  | front, [], hfront, _ => by
    rw [Writer.members, List.append_nil]
    exact .last hfront
  | front, (name, first) :: rest, hfront, h => by
    obtain ⟨hfirst, hrest⟩ := Bool.and_eq_true_iff.mp h
    have hmember := member_string hgaps name hgaps.item (value_of_isFinite hgaps hfirst)
    have hmore := Members.more hfront (members_of_isFinite hgaps hmember hrest)
    rw [Writer.members]
    simpa only [List.append_assoc, List.cons_append] using hmore
end

theorem scans_member (hgaps : BlankGaps gaps) (name : String) {foreign : Bool} {text : List Char}
    (h : Scans foreign text) :
    Scans foreign (Writer.string name ++ ':' :: (gaps.name ++ text)) := by
  have hvalue := ((Blank.scans hgaps.name).append h).cons (c := ':') (by decide) (by decide)
  rw [Bool.false_or] at hvalue
  exact (Characters.scans (characters_flatMap name.toList)).append hvalue

mutual
/-- A document has a foreign character outside of strings exactly if a number inside is not finite. -/
theorem scans_value (hgaps : BlankGaps gaps) :
    ∀ value : Json, Scans (!value.isFinite) (Writer.value gaps value)
  | .null => Value.scans .null
  | .bool false => Value.scans .no
  | .bool true => Value.scans .yes
  | .int value => Number.scans (number_intText value)
  | .float value => by
    cases hvalue : Decimal.isFinite value with
    | false =>
      rw [isFinite, hvalue]
      exact scans_float hvalue
    | true =>
      rw [isFinite, hvalue]
      exact Value.scans (value_float hvalue)
  | .str value => Characters.scans (characters_flatMap value.toList)
  | .arr [] => Value.scans (.emptyArray blank_nil)
  | .arr (first :: rest) => by
    have hitems := ((scans_value hgaps first).append (scans_items hgaps rest)).enclosed
      (c := '[') (d := ']') (by decide) (by decide)
    rw [← Bool.not_and, List.append_assoc] at hitems
    exact hitems
  | .obj [] => Value.scans (.emptyObject blank_nil)
  | .obj ((name, first) :: rest) => by
    have hmembers := ((scans_member hgaps name (scans_value hgaps first)).append
      (scans_members hgaps rest)).enclosed (c := '\x7b') (d := '\x7d') (by decide) (by decide)
    rw [← Bool.not_and] at hmembers
    rw [Writer.value, isFinite, finiteMembers]
    simpa only [List.append_assoc, List.cons_append, List.nil_append] using hmembers

theorem scans_items (hgaps : BlankGaps gaps) :
    ∀ rest : List Json, Scans (!finiteItems rest) (Writer.items gaps rest)
  | [] => scans_nil
  | first :: rest => by
    have hitems := ((Blank.scans hgaps.item).append (scans_value hgaps first)).append
      (scans_items hgaps rest)
    rw [Bool.false_or, ← Bool.not_and] at hitems
    exact hitems.cons (by decide) (by decide)

theorem scans_members (hgaps : BlankGaps gaps) :
    ∀ rest : List (String × Json), Scans (!finiteMembers rest) (Writer.members gaps rest)
  | [] => scans_nil
  | (name, first) :: rest => by
    have hmembers := ((Blank.scans hgaps.item).append
      (scans_member hgaps name (scans_value hgaps first))).append (scans_members hgaps rest)
    rw [Bool.false_or, ← Bool.not_and] at hmembers
    have hcons := hmembers.cons (c := ',') (by decide) (by decide)
    rw [Writer.members, finiteMembers]
    simpa only [List.append_assoc, List.cons_append] using hcons
end

/-- A document is written as a text of the standard exactly if all its numbers are finite. -/
theorem document_value_iff (hgaps : BlankGaps gaps) {value : Json} :
    Document (Writer.value gaps value) ↔ value.isFinite = true := by
  constructor
  · intro h
    have hforeign := (scans_value hgaps value).unique (Document.scans h)
    rwa [Bool.not_eq_false'] at hforeign
  · exact fun h => (value_of_isFinite hgaps h).document blank_nil

end Standard

open Standard

theorem document_spaced_iff {value : Json} :
    Document value.spaced.toList ↔ value.isFinite = true := by
  have hspace : Blank [' '] := by
    intro c hc
    rw [List.mem_singleton.mp hc]
    rfl
  rw [spaced, String.toList_ofList]
  exact document_value_iff ⟨hspace, hspace⟩

end WorkWatch.Json
