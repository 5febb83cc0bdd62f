import WorkWatch.Proofs.Decimal.Script
import WorkWatch.Proofs.Settings.Valid
import WorkWatch.Settings.Duration

/-! How a duration may be written. The parts that are found in a text make it up if and only if it can
be taken apart into parts at all, and then there is only one way to do so: where a unit ends, the
number of the next part begins with a digit. -/

namespace WorkWatch.Duration

open Text
open Decimal (IsNumber IsAnyRow)

variable {s rest : List Char}

/-! One part. -/

/-- A unit is read where it stands, but for minutes in front of an `s`. -/
theorem unit?_eq_some_iff {unit : TimeUnit} :
    unit? s = some (unit, rest) ↔
      s = unit.text ++ rest ∧ (unit = .minutes → rest.head? ≠ some 's') := by
  constructor
  · intro h
    unfold unit? at h
    split at h
    · cases h
      exact ⟨rfl, nofun⟩
    · cases h
      exact ⟨rfl, nofun⟩
    · rename_i hnot
      cases h
      refine ⟨rfl, fun _ hhead => ?_⟩
      obtain ⟨more, hmore⟩ := List.head?_eq_some_iff.mp hhead
      exact hnot more hmore
    · cases h
      exact ⟨rfl, nofun⟩
    · cases h
  · rintro ⟨rfl, hminutes⟩
    cases unit with
    | milliseconds => rfl
    | seconds => rfl
    | minutes =>
      change unit? ('m' :: rest) = some (.minutes, rest)
      rw [unit?]
      rintro more rfl
      exact hminutes rfl rfl
    | hours => rfl

/-- A unit continues neither a row of digits nor one with a point behind it. -/
theorem head_unit (unit : TimeUnit) (rest : List Char) :
    ∀ c ∈ (unit.text ++ rest).head?, isAnyDigit c = false ∧ c ≠ '.' := by
  cases unit <;> rintro c ⟨⟩ <;> decide

theorem number_of_unit {digits : List Char} (h : IsNumber digits)
    (hrest : ∀ c ∈ rest.head?, isAnyDigit c = false ∧ c ≠ '.') :
    number (digits ++ rest) = (digits, rest) := by
  have hstop : ∀ c ∈ rest.head?, isAnyDigit c = false := fun c hc => (hrest c hc).1
  unfold number
  dsimp only
  cases h with
  | whole hwhole =>
    obtain ⟨htake, hdrop⟩ := span_append hwhole.digit hstop
    rw [htake, hdrop]
    split
    · exact absurd rfl (hrest '.' rfl).2
    · rfl
  | @fraction whole fraction hwhole hfraction =>
    have hpoint : ∀ c ∈ ('.' :: (fraction ++ rest)).head?, isAnyDigit c = false := by
      rintro c ⟨⟩
      decide
    obtain ⟨htake, hdrop⟩ := span_append hwhole.digit hpoint
    obtain ⟨htake', hdrop'⟩ := span_append hfraction.digit hstop
    have hempty : fraction.isEmpty = false := List.isEmpty_eq_false_iff.mpr hfraction.ne_nil
    rw [List.append_assoc, List.cons_append, htake, hdrop]
    change (if ((fraction ++ rest).takeWhile isAnyDigit).isEmpty = true then _ else _) = _
    rw [htake', hdrop', hempty, if_neg (by decide)]

theorem isAnyRow_takeWhile (h : s.head?.any isAnyDigit = true) :
    IsAnyRow (s.takeWhile isAnyDigit) := by
  refine ⟨?_, fun c => List.mem_takeWhile_imp⟩
  cases s with
  | nil => cases h
  | cons c more =>
    have hc : isAnyDigit c = true := h
    rw [List.takeWhile_cons_of_pos hc]
    exact List.cons_ne_nil _ _

/-- From a digit on, the number and the rest are the text. -/
theorem number_spec (h : s.head?.any isAnyDigit = true) :
    IsNumber (number s).1 ∧ (number s).1 ++ (number s).2 = s := by
  have hwhole := isAnyRow_takeWhile h
  have hsplit : s.takeWhile isAnyDigit ++ s.dropWhile isAnyDigit = s :=
    List.takeWhile_append_dropWhile
  unfold number
  dsimp only
  split
  · rename_i after hafter
    split
    · exact ⟨.whole hwhole, hsplit⟩
    · rename_i hfraction
      refine ⟨.fraction hwhole ⟨?_, fun c => List.mem_takeWhile_imp⟩, ?_⟩
      · simpa using hfraction
      · rw [List.append_assoc, List.cons_append, List.takeWhile_append_dropWhile, ← hafter, hsplit]
  · exact ⟨.whole hwhole, hsplit⟩

/-- A part is read if and only if it stands there: a number directly followed by a unit. -/
theorem part?_eq_some_iff {part : Part} :
    part? s = some (part, rest) ↔
      IsNumber part.number ∧ s = part.text ++ rest ∧
        (part.unit = .minutes → rest.head? ≠ some 's') := by
  constructor
  · intro h
    unfold part? at h
    split at h
    · rename_i hdigit
      obtain ⟨hnumber, hs⟩ := number_spec hdigit
      obtain ⟨⟨unit, after⟩, hunit, hpart⟩ := Option.map_eq_some_iff.mp h
      cases hpart
      obtain ⟨htext, hminutes⟩ := unit?_eq_some_iff.mp hunit
      refine ⟨hnumber, ?_, hminutes⟩
      rw [Part.text, List.append_assoc, ← htext]
      exact hs.symm
    · cases h
  · rintro ⟨hnumber, rfl, hminutes⟩
    obtain ⟨digits, unit⟩ := part
    obtain ⟨c, more, hfirst, hdigit⟩ := hnumber.head_isAnyDigit
    have hread : number (digits ++ (unit.text ++ rest)) = (digits, unit.text ++ rest) :=
      number_of_unit hnumber (head_unit unit rest)
    have hunit : unit? (unit.text ++ rest) = some (unit, rest) :=
      unit?_eq_some_iff.mpr ⟨rfl, hminutes⟩
    change part? (digits ++ unit.text ++ rest) = _
    rw [List.append_assoc, part?, hread, if_pos]
    · dsimp only
      rw [hunit]
      rfl
    · change digits = c :: more at hfirst
      rw [hfirst]
      exact hdigit

/-! A reader that goes back and tries a shorter number wherever no unit follows the longest one does
not find more. -/

/-- The ways to take digits from the beginning of a text, at least one, the most first. -/
def rows : List Char → List (List Char × List Char)
  | [] => []
  | c :: rest =>
    if isAnyDigit c then (rows rest).map (fun way => (c :: way.1, way.2)) ++ [([c], rest)] else []

/-- The ways to take a number from the beginning of a text, the longest first. -/
def numbers (s : List Char) : List (List Char × List Char) :=
  (rows s).flatMap fun way =>
    (match way.2 with
      | '.' :: after => (rows after).map fun more => (way.1 ++ '.' :: more.1, more.2)
      | _ => []) ++ [way]

theorem isAnyRow_cons_iff {c : Char} {digits : List Char} :
    IsAnyRow (c :: digits) ↔ isAnyDigit c = true ∧ (digits = [] ∨ IsAnyRow digits) := by
  constructor
  · intro h
    obtain ⟨hc, hdigits⟩ := List.forall_mem_cons.mp h.digit
    exact ⟨hc, or_iff_not_imp_left.mpr fun hne => ⟨hne, hdigits⟩⟩
  · rintro ⟨hc, rfl | hdigits⟩
    · exact ⟨List.cons_ne_nil _ _, List.forall_mem_singleton.mpr hc⟩
    · exact ⟨List.cons_ne_nil _ _, List.forall_mem_cons.mpr ⟨hc, hdigits.digit⟩⟩

theorem mem_rows_iff {digits : List Char} :
    (digits, rest) ∈ rows s ↔ IsAnyRow digits ∧ digits ++ rest = s := by
  induction s generalizing digits with
  | nil =>
    refine ⟨nofun, fun ⟨h, happend⟩ => ?_⟩
    exact absurd (List.append_eq_nil_iff.mp happend).1 h.ne_nil
  | cons c s ih =>
    cases digits with
    | nil =>
      refine ⟨fun h => ?_, fun h => absurd rfl h.1.ne_nil⟩
      unfold rows at h
      split at h <;> simp at h
    | cons first digits =>
      rw [isAnyRow_cons_iff, List.cons_append, List.cons.injEq, rows]
      split
      · rename_i hc
        rw [List.mem_append, List.mem_map, List.mem_singleton]
        constructor
        · rintro (⟨⟨more, after⟩, hmore, heq⟩ | heq)
          · cases heq
            obtain ⟨hrow, hs⟩ := ih.mp hmore
            exact ⟨⟨hc, Or.inr hrow⟩, rfl, hs⟩
          · cases heq
            exact ⟨⟨hc, Or.inl rfl⟩, rfl, rfl⟩
        · rintro ⟨⟨-, rfl | hrow⟩, rfl, rfl⟩
          · exact Or.inr rfl
          · exact Or.inl ⟨(digits, rest), ih.mpr ⟨hrow, rfl⟩, rfl⟩
      · rename_i hc
        refine ⟨nofun, ?_⟩
        rintro ⟨⟨hfirst, -⟩, rfl, -⟩
        exact absurd hfirst hc

theorem mem_numbers_iff {digits : List Char} :
    (digits, rest) ∈ numbers s ↔ IsNumber digits ∧ digits ++ rest = s := by
  unfold numbers
  simp only [List.mem_flatMap, List.mem_append, List.mem_singleton, Prod.exists]
  constructor
  · rintro ⟨whole, after, hway, hmem | heq⟩
    · obtain ⟨hwhole, hs⟩ := mem_rows_iff.mp hway
      split at hmem
      · rename_i more
        obtain ⟨⟨fraction, last⟩, hmore, heq⟩ := List.mem_map.mp hmem
        obtain ⟨hfraction, hafter⟩ := mem_rows_iff.mp hmore
        cases heq
        refine ⟨.fraction hwhole hfraction, ?_⟩
        rw [List.append_assoc, List.cons_append, hafter, hs]
      · cases hmem
    · cases heq
      obtain ⟨hwhole, hs⟩ := mem_rows_iff.mp hway
      exact ⟨.whole hwhole, hs⟩
  · rintro ⟨hnumber, rfl⟩
    cases hnumber with
    | whole h => exact ⟨digits, rest, mem_rows_iff.mpr ⟨h, rfl⟩, Or.inr rfl⟩
    | @fraction whole fraction hwhole hfraction =>
      refine ⟨whole, '.' :: (fraction ++ rest), mem_rows_iff.mpr ⟨hwhole, ?_⟩, Or.inl ?_⟩
      · rw [List.append_assoc, List.cons_append]
      · exact List.mem_map.mpr ⟨(fraction, rest), mem_rows_iff.mpr ⟨hfraction, rfl⟩, rfl⟩

/-- Of all the ways to take a number, only the longest may be followed by a unit. -/
theorem part?_eq_findSome? (s : List Char) :
    part? s = (numbers s).findSome? fun way =>
      (unit? way.2).map fun found => (⟨way.1, found.1⟩, found.2) := by
  cases hfound : (numbers s).findSome? _ with
  | some found =>
    obtain ⟨part, rest⟩ := found
    obtain ⟨⟨digits, after⟩, hway, hunit⟩ := List.exists_of_findSome?_eq_some hfound
    obtain ⟨hnumber, hs⟩ := mem_numbers_iff.mp hway
    obtain ⟨⟨unit, last⟩, hread, heq⟩ := Option.map_eq_some_iff.mp hunit
    cases heq
    obtain ⟨hafter, hminutes⟩ := unit?_eq_some_iff.mp hread
    refine part?_eq_some_iff.mpr ⟨hnumber, ?_, hminutes⟩
    rw [Part.text, List.append_assoc, ← hafter, hs]
  | none =>
    by_contra hpart
    obtain ⟨⟨part, rest⟩, hpart⟩ := Option.ne_none_iff_exists'.mp hpart
    obtain ⟨hnumber, hs, hminutes⟩ := part?_eq_some_iff.mp hpart
    have hway : (part.number, part.unit.text ++ rest) ∈ numbers s := by
      rw [mem_numbers_iff, hs, Part.text, List.append_assoc]
      exact ⟨hnumber, rfl⟩
    have hunit := unit?_eq_some_iff.mpr ⟨rfl, hminutes⟩
    have hnone := List.findSome?_eq_none_iff.mp hfound _ hway
    dsimp only at hnone
    rw [hunit] at hnone
    cases hnone

/-! The parts of a text. -/

theorem partsAfter_eq_drop (covered : Nat) (s : List Char) :
    partsAfter covered s = partsAfter 0 (s.drop covered) := by
  induction covered generalizing s with
  | zero => rfl
  | succ covered ih =>
    cases s with
    | nil => rfl
    | cons c rest => exact ih rest

/-- Behind a part that is found the search goes on. -/
theorem partsAfter_of_part? {part : Part} (h : part? s = some (part, rest)) :
    partsAfter 0 s = part :: partsAfter 0 rest := by
  obtain ⟨hnumber, rfl, -⟩ := part?_eq_some_iff.mp h
  obtain ⟨c, more, hfirst, -⟩ := hnumber.head_isAnyDigit
  have htext : part.text = c :: (more ++ part.unit.text) := by
    rw [Part.text, hfirst, List.cons_append]
  rw [htext, List.cons_append] at h ⊢
  have hdrop : (more ++ part.unit.text ++ rest).drop (part.text.length - 1) = rest := by
    rw [htext, List.length_cons, Nat.add_sub_cancel, List.drop_left]
  rw [partsAfter, h]
  dsimp only
  rw [partsAfter_eq_drop, hdrop]

/-- Every part that is found is written with a number, whatever stands around it. -/
theorem isNumber_of_mem_partsAfter {part : Part} {covered : Nat} (h : part ∈ partsAfter covered s) :
    IsNumber part.number := by
  induction s generalizing covered with
  | nil => cases h
  | cons c rest ih =>
    cases covered with
    | succ covered => exact ih h
    | zero =>
      rw [partsAfter] at h
      split at h
      · rename_i first after hfirst
        rcases List.mem_cons.mp h with rfl | hlater
        · exact (part?_eq_some_iff.mp hfirst).1
        · exact ih hlater
      · exact ih h

/-- A text taken apart: parts with nothing before, between or after them. -/
structure IsSplit (s : List Char) (parts : List Part) : Prop where
  ne_nil : parts ≠ []
  number : ∀ part ∈ parts, IsNumber part.number
  text : parts.flatMap Part.text = s

theorem head_flatMap {parts : List Part} (h : ∀ part ∈ parts, IsNumber part.number) :
    ∀ c ∈ (parts.flatMap Part.text).head?, isAnyDigit c = true := by
  intro c hc
  cases parts with
  | nil => cases hc
  | cons part parts =>
    obtain ⟨first, more, hfirst, hdigit⟩ := (h part List.mem_cons_self).head_isAnyDigit
    rw [List.flatMap_cons, Part.text, hfirst] at hc
    exact Option.some.inj hc ▸ hdigit

/-- Parts in a row are found again: no unit reaches into the number behind it. -/
theorem partsAfter_flatMap {parts : List Part} (h : ∀ part ∈ parts, IsNumber part.number) :
    partsAfter 0 (parts.flatMap Part.text) = parts := by
  induction parts with
  | nil => rfl
  | cons part parts ih =>
    obtain ⟨hnumber, hparts⟩ := List.forall_mem_cons.mp h
    have hminutes : (parts.flatMap Part.text).head? ≠ some 's' := by
      intro hhead
      have hdigit := head_flatMap hparts 's' hhead
      exact absurd hdigit (by decide)
    have hpart : part? (part.text ++ parts.flatMap Part.text) =
        some (part, parts.flatMap Part.text) :=
      part?_eq_some_iff.mpr ⟨hnumber, rfl, fun _ => hminutes⟩
    rw [List.flatMap_cons, partsAfter_of_part? hpart, ih hparts]

theorem IsSplit.partsAfter_eq {parts : List Part} (h : IsSplit s parts) : partsAfter 0 s = parts :=
  h.text ▸ partsAfter_flatMap h.number

/-- There is at most one way to take a text apart. -/
theorem IsSplit.unique {parts others : List Part} (h : IsSplit s parts) (h' : IsSplit s others) :
    parts = others := h.partsAfter_eq.symm.trans h'.partsAfter_eq

theorem parts?_eq_some_iff {parts : List Part} : parts? s = some parts ↔ IsSplit s parts := by
  unfold parts?
  dsimp only
  constructor
  · intro h
    split at h
    · cases h
    · rename_i hwhole
      obtain rfl := Option.some.inj h
      simp only [Bool.or_eq_true, List.isEmpty_iff, bne_iff_ne, ne_eq, not_or, not_not] at hwhole
      exact ⟨hwhole.1, fun part => isNumber_of_mem_partsAfter, hwhole.2⟩
  · intro h
    rw [h.partsAfter_eq, if_neg]
    simp [h.ne_nil, h.text]

/-! The length of a duration. -/

/-- The time of a part: its number times its unit. -/
def Part.Lasts (part : Part) (time : Float) : Prop :=
  ∃ value, Decimal.readFloat? (String.ofList part.number) = some value ∧
    time = value * part.unit.inSeconds

/-- What a text without blanks around it means: a number of seconds, or otherwise the sum of parts,
from left to right. -/
inductive Denotes (text : String) : Float → Prop
  | number {seconds : Float} (h : Decimal.readFloat? text = some seconds) : Denotes text seconds
  | parts {parts : List Part} {times : List Float} (hnumber : Decimal.readFloat? text = none)
      (hparts : IsSplit text.toList parts) (htimes : List.Forall₂ Part.Lasts parts times) :
      Denotes text (times.foldl (· + ·) 0)

theorem lasts_iff {part : Part} (h : IsNumber part.number) {time : Float} :
    part.Lasts time ↔ part.seconds = time := by
  obtain ⟨value, hvalue⟩ := h.readFloat?
  unfold Part.Lasts Part.seconds
  rw [hvalue]
  constructor
  · rintro ⟨_, ⟨⟩, rfl⟩
    rfl
  · rintro rfl
    exact ⟨value, rfl, rfl⟩

theorem forall₂_lasts_iff {parts : List Part} (h : ∀ part ∈ parts, IsNumber part.number)
    {times : List Float} :
    List.Forall₂ Part.Lasts parts times ↔ parts.map Part.seconds = times := by
  induction parts generalizing times with
  | nil => exact List.forall₂_nil_left_iff.trans eq_comm
  | cons part parts ih =>
    obtain ⟨hnumber, hparts⟩ := List.forall_mem_cons.mp h
    cases times with
    | nil => exact ⟨nofun, nofun⟩
    | cons time times =>
      rw [List.forall₂_cons, lasts_iff hnumber, ih hparts, List.map_cons, List.cons.injEq]

theorem total_eq_foldl (parts : List Part) :
    total parts = (parts.map Part.seconds).foldl (· + ·) 0 := by
  rw [total, List.foldl_map]

/-- What a text means is what is computed from it. -/
theorem denotes_iff {text : String} {seconds : Float} :
    Denotes text seconds ↔
      Decimal.readFloat? text = some seconds ∨
        Decimal.readFloat? text = none ∧
          ∃ parts, parts? text.toList = some parts ∧ total parts = seconds := by
  constructor
  · intro h
    cases h with
    | number h => exact Or.inl h
    | @parts parts times hnumber hparts htimes =>
      obtain rfl := (forall₂_lasts_iff hparts.number).mp htimes
      exact Or.inr ⟨hnumber, parts, parts?_eq_some_iff.mpr hparts, total_eq_foldl parts⟩
  · rintro (h | ⟨hnumber, parts, hparts, rfl⟩)
    · exact .number h
    · have hsplit := parts?_eq_some_iff.mp hparts
      rw [total_eq_foldl]
      exact .parts hnumber hsplit ((forall₂_lasts_iff hsplit.number).mpr rfl)

/-! Reading. -/

theorem ofSeconds_of_isDuration {seconds : Float} (h : IsDuration seconds) (shown : String) :
    ofSeconds shown seconds = .ok seconds :=
  if_pos (by simpa [IsDuration] using h)

theorem ofSeconds_of_not_isDuration {seconds : Float} (h : ¬ IsDuration seconds) (shown : String) :
    ofSeconds shown seconds = .error (.unusable shown) :=
  if_neg (by simpa [IsDuration] using h)

theorem parse_of_denotes {text : String} {seconds : Float}
    (h : Denotes (stripped text) seconds) : parse text = ofSeconds (quoted text) seconds := by
  unfold parse
  dsimp only
  rcases denotes_iff.mp h with hread | ⟨hread, parts, hparts, rfl⟩
  · rw [hread]
  · rw [hread]
    dsimp only
    rw [hparts]

theorem parse_of_not_denotes {text : String} (h : ∀ seconds, ¬ Denotes (stripped text) seconds) :
    parse text = .error (.malformed (quoted text)) := by
  unfold parse
  dsimp only
  cases hread : Decimal.readFloat? (stripped text) with
  | some seconds => exact absurd (.number hread) (h seconds)
  | none =>
    cases hparts : parts? (stripped text).toList with
    | some parts =>
      exact absurd (denotes_iff.mpr (Or.inr ⟨hread, parts, hparts, rfl⟩)) (h (total parts))
    | none => rfl

/-- What becomes of a text: it is a duration, it denotes a time that is none, or it denotes nothing. -/
theorem parse_cases (text : String) :
    (∃ seconds, Denotes (stripped text) seconds ∧ IsDuration seconds ∧ parse text = .ok seconds) ∨
    (∃ seconds, Denotes (stripped text) seconds ∧ ¬ IsDuration seconds ∧
      parse text = .error (.unusable (quoted text))) ∨
    (∀ seconds, ¬ Denotes (stripped text) seconds) ∧
      parse text = .error (.malformed (quoted text)) := by
  by_cases hdenotes : ∃ seconds, Denotes (stripped text) seconds
  · obtain ⟨seconds, hseconds⟩ := hdenotes
    have hparse := parse_of_denotes hseconds
    by_cases hduration : IsDuration seconds
    · rw [ofSeconds_of_isDuration hduration] at hparse
      exact Or.inl ⟨seconds, hseconds, hduration, hparse⟩
    · rw [ofSeconds_of_not_isDuration hduration] at hparse
      exact Or.inr (Or.inl ⟨seconds, hseconds, hduration, hparse⟩)
  · have hnone := not_exists.mp hdenotes
    exact Or.inr (Or.inr ⟨hnone, parse_of_not_denotes hnone⟩)

theorem parse_eq_ok_iff {text : String} {seconds : Float} :
    parse text = .ok seconds ↔ Denotes (stripped text) seconds ∧ IsDuration seconds := by
  constructor
  · intro h
    rcases parse_cases text with ⟨x, hx, hduration, hparse⟩ | ⟨x, -, -, hparse⟩ | ⟨-, hparse⟩
    · obtain rfl := Except.ok.inj (hparse.symm.trans h)
      exact ⟨hx, hduration⟩
    · exact nomatch hparse.symm.trans h
    · exact nomatch hparse.symm.trans h
  · rintro ⟨hdenotes, hduration⟩
    rw [parse_of_denotes hdenotes, ofSeconds_of_isDuration hduration]

theorem parse_eq_error_iff {text : String} {problem : DurationError} :
    parse text = .error problem ↔
      (∃ seconds, Denotes (stripped text) seconds ∧ ¬ IsDuration seconds) ∧
          problem = .unusable (quoted text) ∨
        (∀ seconds, ¬ Denotes (stripped text) seconds) ∧ problem = .malformed (quoted text) := by
  constructor
  · intro h
    rcases parse_cases text with ⟨x, -, -, hparse⟩ | ⟨x, hx, hnot, hparse⟩ | ⟨hnone, hparse⟩
    · exact nomatch hparse.symm.trans h
    · exact Or.inl ⟨⟨x, hx, hnot⟩, Except.error.inj (h.symm.trans hparse)⟩
    · exact Or.inr ⟨hnone, Except.error.inj (h.symm.trans hparse)⟩
  · rintro (⟨⟨x, hx, hnot⟩, rfl⟩ | ⟨hnone, rfl⟩)
    · rw [parse_of_denotes hx, ofSeconds_of_not_isDuration hnot]
    · exact parse_of_not_denotes hnone

theorem isDuration_of_parse {text : String} {seconds : Float} (h : parse text = .ok seconds) :
    IsDuration seconds := (parse_eq_ok_iff.mp h).2

/-- A text is accepted if and only if it denotes a positive and finite number of seconds, which is the
result; every other text is refused. There is at most one way to take a text apart. -/
theorem parse_exact (text : String) :
    (∀ seconds, parse text = .ok seconds ↔ Denotes (stripped text) seconds ∧ IsDuration seconds) ∧
    (∀ problem, parse text = .error problem ↔
      (∃ seconds, Denotes (stripped text) seconds ∧ ¬ IsDuration seconds) ∧
          problem = .unusable (quoted text) ∨
        (∀ seconds, ¬ Denotes (stripped text) seconds) ∧ problem = .malformed (quoted text)) ∧
    (∀ s parts others, IsSplit s parts → IsSplit s others → parts = others) :=
  ⟨fun _ => parse_eq_ok_iff, fun _ => parse_eq_error_iff, fun _ _ _ => IsSplit.unique⟩

/-- An hour and a half. -/
theorem parse_exact_hours :
    Denotes (stripped " 1h30m") 5400 ∧ IsDuration 5400 ∧ parse " 1h30m" = .ok 5400 := by
  have hdenotes : Denotes (stripped " 1h30m") 5400 := by
    have hstripped : stripped " 1h30m" = "1h30m" := by decide +kernel
    have hnumber : Decimal.readFloat? "1h30m" = none := by decide +kernel
    have hparts : IsSplit "1h30m".toList [⟨['1'], .hours⟩, ⟨['3', '0'], .minutes⟩] := by
      refine ⟨List.cons_ne_nil _ _, ?_, by decide⟩
      rw [List.forall_mem_cons, List.forall_mem_singleton]
      have hdigit {c : Char} (hc : isAnyDigit c = true) : IsAnyRow [c] :=
        isAnyRow_cons_iff.mpr ⟨hc, Or.inl rfl⟩
      have hone : IsAnyRow ['1'] := hdigit rfl
      have hthirty : IsAnyRow ['3', '0'] := isAnyRow_cons_iff.mpr ⟨rfl, Or.inr (hdigit rfl)⟩
      exact ⟨.whole hone, .whole hthirty⟩
    have htimes : List.Forall₂ Part.Lasts [⟨['1'], .hours⟩, ⟨['3', '0'], .minutes⟩] [3600, 1800] := by
      refine .cons ⟨1, ?_, ?_⟩ (.cons ⟨30, ?_, ?_⟩ .nil)
      all_goals decide +kernel
    have hsum : [(3600 : Float), 1800].foldl (· + ·) 0 = 5400 := by decide +kernel
    rw [hstripped, ← hsum]
    exact .parts hnumber hparts htimes
  have hduration : IsDuration 5400 := by decide +kernel
  exact ⟨hdenotes, hduration, (parse_exact " 1h30m").1 5400 |>.mpr ⟨hdenotes, hduration⟩⟩

end WorkWatch.Duration
