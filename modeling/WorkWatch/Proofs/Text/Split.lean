import Mathlib.Data.List.Basic
import WorkWatch.Text.Blank
import WorkWatch.Text.Split

/-! Texts in which a separator does not stand. Cutting at it finds nothing in them, and the first
place behind them where it does stand. -/

namespace WorkWatch.Text

theorem trim_eq_self {p : Char → Bool} {text : List Char} (h : ∀ c ∈ text, p c = false) :
    trim p text = text := by
  have hkept : ∀ text : List Char, (∀ c ∈ text, p c = false) → text.dropWhile p = text := by
    intro text h
    cases text with
    | nil => rfl
    | cons c rest => exact List.dropWhile_cons_of_neg (by rw [h c List.mem_cons_self]; decide)
  unfold trim dropRight
  rw [hkept text h, hkept text.reverse fun c hc => h c (List.mem_reverse.mp hc),
    List.reverse_reverse]

theorem strip_of_not_isBlank {text : List Char} (h : ∀ c ∈ text, isBlank c = false) :
    strip text = text := trim_eq_self h

theorem span_append {p : Char → Bool} {front rest : List Char} (h : ∀ c ∈ front, p c = true)
    (hrest : ∀ c ∈ rest.head?, p c = false) :
    (front ++ rest).takeWhile p = front ∧ (front ++ rest).dropWhile p = rest := by
  rw [List.takeWhile_append_of_pos h, List.dropWhile_append_of_pos h]
  cases rest with
  | nil => exact ⟨List.append_nil front, rfl⟩
  | cons c rest =>
    have hc : ¬ p c = true := by
      rw [hrest c rfl]
      decide
    rw [List.takeWhile_cons_of_neg hc, List.dropWhile_cons_of_neg hc]
    exact ⟨List.append_nil front, rfl⟩

/-- A text is cut at the first place where the separator can begin. -/
theorem cut?_append {first : Char} {before : List Char} (h : first ∉ before)
    (more after : List Char) :
    cut? (first :: more) (before ++ (first :: more ++ after)) = some (before, after) := by
  induction before with
  | nil =>
    have hprefix : (first :: more).isPrefixOf (first :: (more ++ after)) = true := by simp
    rw [List.nil_append, List.cons_append, cut?, if_pos hprefix]
    simp
  | cons c before ih =>
    rw [List.mem_cons, not_or] at h
    have hprefix :
        ¬ (first :: more).isPrefixOf (c :: (before ++ (first :: more ++ after))) = true := by
      simp [h.1]
    rw [List.cons_append, cut?, if_neg hprefix, ih h.2]
    rfl

theorem append_sep_inj {sep : Char} {before before' after after' : List Char} (h : sep ∉ before)
    (h' : sep ∉ before') (heq : before ++ sep :: after = before' ++ sep :: after') :
    before = before' ∧ after = after' := by
  have hcut := (cut?_append h [] after).symm.trans ((congrArg (cut? [sep]) heq).trans
    (cut?_append h' [] after'))
  exact Prod.mk.inj (Option.some.inj hcut)

theorem append_sep_inj_right {sep : Char} {before before' after after' : List Char}
    (h : sep ∉ after) (h' : sep ∉ after')
    (heq : before ++ sep :: after = before' ++ sep :: after') :
    before = before' ∧ after = after' := by
  have hreverse : after.reverse ++ sep :: before.reverse = after'.reverse ++ sep :: before'.reverse := by
    simpa using congrArg List.reverse heq
  obtain ⟨hafter, hbefore⟩ := append_sep_inj (fun hmem => h (List.mem_reverse.mp hmem))
    (fun hmem => h' (List.mem_reverse.mp hmem)) hreverse
  exact ⟨List.reverse_inj.mp hbefore, List.reverse_inj.mp hafter⟩

theorem cut?_eq_none {c : Char} {sep text : List Char} (hc : c ∈ sep) (h : c ∉ text) :
    cut? sep text = none := by
  induction text with
  | nil =>
    rw [cut?, if_neg]
    intro hempty
    rw [List.isEmpty_iff.mp hempty] at hc
    cases hc
  | cons d text ih =>
    have hprefix : ¬ sep.isPrefixOf (d :: text) = true := by
      intro hprefix
      exact h ((List.isPrefixOf_iff_prefix.mp hprefix).subset hc)
    rw [cut?, if_neg hprefix, ih fun hmem => h (List.mem_cons_of_mem d hmem)]
    rfl

theorem holds_iff (part text : List Char) : holds part text = true ↔ part <:+: text := by
  unfold holds
  induction text with
  | nil =>
    rw [cut?, List.infix_nil]
    cases part <;> simp
  | cons c text ih =>
    rw [cut?, List.infix_cons_iff, ← ih, ← List.isPrefixOf_iff_prefix]
    by_cases hprefix : part.isPrefixOf (c :: text) = true
    · rw [if_pos hprefix]
      exact iff_of_true rfl (Or.inl hprefix)
    · rw [if_neg hprefix, Option.isSome_map, or_iff_right hprefix]

theorem pieces_of_not_mem {sep : Char} {text : List Char} (h : sep ∉ text) :
    pieces sep text = [text] := by
  induction text with
  | nil => rfl
  | cons c text ih =>
    rw [List.mem_cons, not_or] at h
    rw [pieces, if_neg (Ne.symm h.1), ih h.2]

theorem pieces_append {sep : Char} {before : List Char} (h : sep ∉ before) (after : List Char) :
    pieces sep (before ++ sep :: after) = before :: pieces sep after := by
  induction before with
  | nil => rw [List.nil_append, pieces, if_pos rfl]
  | cons c before ih =>
    rw [List.mem_cons, not_or] at h
    rw [List.cons_append, pieces, if_neg (Ne.symm h.1), ih h.2]

/-- A separator parts the pieces before it from those behind it. -/
theorem pieces_concat (sep : Char) (before after : List Char) :
    pieces sep (before ++ sep :: after) = pieces sep before ++ pieces sep after := by
  induction before with
  | nil =>
    change pieces sep (sep :: after) = [] :: pieces sep after
    rw [pieces, if_pos rfl]
  | cons c before ih =>
    rw [List.cons_append, pieces, pieces, ih]
    by_cases h : c = sep
    · rw [if_pos h, if_pos h, List.cons_append]
    · rw [if_neg h, if_neg h]
      cases hpieces : pieces sep before with
      | nil => exact absurd hpieces (pieces_ne_nil sep before)
      | cons first more => rfl

theorem joined_cons {sep first : List Char} {parts : List (List Char)} (h : parts ≠ []) :
    joined sep (first :: parts) = first ++ sep ++ joined sep parts := by
  cases parts with
  | nil => exact absurd rfl h
  | cons second parts => rfl

theorem joined_append {sep : List Char} {parts more : List (List Char)} (h : parts ≠ [])
    (hmore : more ≠ []) :
    joined sep (parts ++ more) = joined sep parts ++ sep ++ joined sep more := by
  induction parts with
  | nil => exact absurd rfl h
  | cons first parts ih =>
    cases parts with
    | nil => exact joined_cons hmore
    | cons second parts =>
      have hparts := List.cons_ne_nil second parts
      rw [List.cons_append, joined_cons (List.append_ne_nil_of_left_ne_nil hparts more), ih hparts,
        joined_cons hparts]
      simp only [List.append_assoc]

theorem joined_concat {sep : List Char} {parts : List (List Char)} (h : parts ≠ [])
    (part : List Char) : joined sep (parts ++ [part]) = joined sep parts ++ sep ++ part :=
  joined_append h (List.cons_ne_nil part [])

theorem joined_dropLast_prefix (sep : List Char) (parts : List (List Char)) :
    joined sep parts.dropLast <+: joined sep parts := by
  rcases List.eq_nil_or_concat parts with rfl | ⟨init, last, rfl⟩
  · exact List.prefix_refl _
  · rw [List.concat_eq_append, List.dropLast_concat]
    by_cases hinit : init = []
    · rw [hinit]
      exact List.nil_prefix
    · rw [joined_concat hinit, List.append_assoc]
      exact List.prefix_append _ _

theorem pieces_joined {sep : Char} {parts : List (List Char)} (hne : parts ≠ [])
    (h : ∀ part ∈ parts, sep ∉ part) : pieces sep (joined [sep] parts) = parts := by
  induction parts with
  | nil => exact absurd rfl hne
  | cons first parts ih =>
    obtain ⟨hfirst, hparts⟩ := List.forall_mem_cons.mp h
    cases parts with
    | nil => exact pieces_of_not_mem hfirst
    | cons second parts =>
      rw [joined_cons (List.cons_ne_nil second parts), List.append_assoc, List.singleton_append, pieces_append hfirst,
        ih (List.cons_ne_nil second parts) hparts]

theorem intercalate_eq_joined (sep : List Char) (parts : List (List Char)) :
    sep.intercalate parts = joined sep parts := by
  induction parts with
  | nil => rfl
  | cons first parts ih =>
    cases parts with
    | nil => exact List.intercalate_singleton
    | cons second parts =>
      rw [List.intercalate_cons_cons, ih, joined_cons (List.cons_ne_nil second parts)]

/-- Texts in which the separator does not stand are read back from what it makes of them. -/
theorem pieces_intercalate {separator : String} {sep : Char} (hseparator : separator.toList = [sep])
    {parts : List String} (hne : parts ≠ []) (h : ∀ part ∈ parts, sep ∉ part.toList) :
    pieces sep (separator.intercalate parts).toList = parts.map String.toList := by
  rw [String.toList_intercalate, hseparator, intercalate_eq_joined]
  refine pieces_joined (fun hnil => hne (List.map_eq_nil_iff.mp hnil)) fun part hpart => ?_
  obtain ⟨text, htext, rfl⟩ := List.mem_map.mp hpart
  exact h text htext

/-- What lacks the separator stands before it or behind it. -/
theorem infix_of_infix_append {sep : Char} {part before after : List Char} (hsep : sep ∉ part)
    (h : part <:+: before ++ sep :: after) : part <:+: before ∨ part <:+: after := by
  obtain ⟨front, back, hsplit⟩ := h
  rcases List.append_eq_append_iff.mp hsplit with ⟨inner, hbefore, -⟩ | ⟨outer, hfront, hback⟩
  · exact Or.inl ⟨front, inner, hbefore.symm⟩
  · cases outer with
    | nil =>
      rw [List.append_nil] at hfront
      exact Or.inl ⟨front, [], by rw [List.append_nil, hfront]⟩
    | cons c outer =>
      obtain ⟨rfl, rfl⟩ := List.cons_eq_cons.mp hback
      rcases List.append_eq_append_iff.mp hfront with ⟨inner, -, hpart⟩ | ⟨inner, -, hpart⟩
      · rw [hpart] at hsep
        exact absurd (List.mem_append_right inner List.mem_cons_self) hsep
      · cases inner with
        | nil =>
          rw [List.nil_append] at hpart
          rw [← hpart] at hsep
          exact absurd List.mem_cons_self hsep
        | cons d inner =>
          obtain ⟨-, rfl⟩ := List.cons_eq_cons.mp hpart
          exact Or.inr ⟨inner, back, rfl⟩

theorem infix_of_infix_joined {sep : Char} {part : List Char} {parts : List (List Char)}
    (hne : part ≠ []) (hsep : sep ∉ part) (h : part <:+: joined [sep] parts) :
    ∃ piece ∈ parts, part <:+: piece := by
  induction parts with
  | nil => exact absurd (List.infix_nil.mp h) hne
  | cons first parts ih =>
    cases parts with
    | nil => exact ⟨first, List.mem_cons_self, h⟩
    | cons second parts =>
      rw [joined_cons (List.cons_ne_nil second parts), List.append_assoc,
        List.singleton_append] at h
      rcases infix_of_infix_append hsep h with hfirst | hrest
      · exact ⟨first, List.mem_cons_self, hfirst⟩
      · obtain ⟨piece, hmem, hpiece⟩ := ih hrest
        exact ⟨piece, List.mem_cons_of_mem first hmem, hpiece⟩

end WorkWatch.Text
