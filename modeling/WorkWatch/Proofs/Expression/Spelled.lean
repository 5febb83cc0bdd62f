import WorkWatch.Proofs.Expression.Token
import WorkWatch.Proofs.Text.Split

/-! Where the tokens of a text stand in it. A text is made up of the pieces of its tokens, with blanks
around them; the piece of a sign is its text, and the piece of a condition has rows of blanks where
the text of the condition has single spaces. -/

namespace WorkWatch

namespace Token

open Text

/-- The characters of a text that are not blank. -/
def visible (text : List Char) : List Char := text.filter fun c => !isBlank c

theorem visible_append (text text' : List Char) :
    visible (text ++ text') = visible text ++ visible text' := List.filter_append ..

theorem visible_blanks {blanks : List Char} (h : ∀ c ∈ blanks, isBlank c = true) :
    visible blanks = [] := by
  apply List.filter_eq_nil_iff.mpr
  intro c hc
  rw [h c hc]
  decide

/-- A row of characters without blanks. -/
structure IsSolid (row : List Char) : Prop where
  ne_nil : row ≠ []
  not_blank : ∀ c ∈ row, isBlank c = false

theorem IsSolid.visible {row : List Char} (h : IsSolid row) : visible row = row := by
  apply List.filter_eq_self.mpr
  intro c hc
  rw [h.not_blank c hc]
  rfl

theorem IsSolid.not_mem_space {row : List Char} (h : IsSolid row) : ' ' ∉ row := by
  intro hmem
  have hspace := h.not_blank ' ' hmem
  cases hspace

/-- The text is that of the piece with a single space for each row of blanks inside. -/
inductive Spells : List Char → List Char → Prop
  | row {row : List Char} (h : IsSolid row) : Spells row row
  | more {row gap piece text : List Char} (hrow : IsSolid row) (hne : gap ≠ [])
      (hgap : ∀ c ∈ gap, isBlank c = true) (h : Spells piece text) :
      Spells (row ++ (gap ++ piece)) (row ++ ' ' :: text)

theorem Spells.ne_nil {piece text : List Char} (h : Spells piece text) : piece ≠ [] := by
  cases h with
  | row h => exact h.ne_nil
  | more hrow _ _ _ => exact List.append_ne_nil_of_left_ne_nil hrow.ne_nil _

theorem Spells.visible_eq {piece text : List Char} (h : Spells piece text) :
    visible piece = visible text := by
  induction h with
  | row => rfl
  | @more row gap piece text _ _ hgap _ ih =>
    have hspace : visible (' ' :: text) = visible text := rfl
    rw [visible_append, visible_append, visible_append, visible_blanks hgap, ih, hspace]
    rfl

theorem Spells.eq_of_not_mem {piece text : List Char} (h : Spells piece text) (hspace : ' ' ∉ text) :
    piece = text := by
  cases h with
  | row => rfl
  | more => exact absurd (List.mem_append_right _ List.mem_cons_self) hspace

/-- The first word of the text begins the piece. -/
theorem Spells.first_word {piece text : List Char} (h : Spells piece text) :
    ∃ word more, pieces ' ' text = word :: more ∧ word <+: piece := by
  cases h with
  | row h => exact ⟨_, [], pieces_of_not_mem h.not_mem_space, List.prefix_refl _⟩
  | @more row gap piece text hrow _ _ _ =>
    exact ⟨row, _, pieces_append hrow.not_mem_space text, List.prefix_append _ _⟩

theorem Spells.append {row gap piece text text' : List Char} (hne : gap ≠ [])
    (hgap : ∀ c ∈ gap, isBlank c = true) (h : Spells row text) (h' : Spells piece text') :
    Spells (row ++ (gap ++ piece)) (text ++ ' ' :: text') := by
  induction h with
  | row hrow => exact .more hrow hne hgap h'
  | more hrow hne' hgap' _ ih =>
    rw [List.append_assoc, List.append_assoc, List.append_assoc, List.cons_append]
    exact .more hrow hne' hgap' ih

/-- The text is made up of the pieces of the tokens, and of blanks around them. Its first character
stands at the position. -/
inductive LaidOut : Nat → List Char → List Token → Prop
  | done {position : Nat} {blanks : List Char} (h : ∀ c ∈ blanks, isBlank c = true) :
      LaidOut position blanks []
  | token {position : Nat} {blanks piece rest : List Char} {token : Token} {tokens : List Token}
      (hblanks : ∀ c ∈ blanks, isBlank c = true) (hpiece : Spells piece token.text.toList)
      (hposition : token.position = position + blanks.length)
      (hrest : LaidOut (token.position + piece.length) rest tokens) :
      LaidOut position (blanks ++ (piece ++ rest)) (token :: tokens)

variable {position : Nat} {text : List Char} {token : Token} {tokens : List Token}

theorem LaidOut.front (token : Token) {piece rest : List Char}
    (hpiece : Spells piece token.text.toList)
    (hrest : LaidOut (token.position + piece.length) rest tokens) :
    LaidOut token.position (piece ++ rest) (token :: tokens) := by
  have hnone : ∀ c ∈ ([] : List Char), isBlank c = true := nofun
  exact .token hnone hpiece rfl hrest

theorem LaidOut.blank {c : Char} (hc : isBlank c = true) (h : LaidOut (position + 1) text tokens) :
    LaidOut position (c :: text) tokens := by
  cases h with
  | done hblanks => exact .done (List.forall_mem_cons.mpr ⟨hc, hblanks⟩)
  | token hblanks hpiece hposition hrest =>
    rw [← List.cons_append]
    refine .token (List.forall_mem_cons.mpr ⟨hc, hblanks⟩) hpiece ?_ hrest
    rw [hposition, List.length_cons, Nat.add_assoc, Nat.add_comm 1]

theorem LaidOut.join (token : Token) {piece : List Char} {c : Char}
    (hpiece : Spells piece token.text.toList) (hc : isBlank c = true)
    (h : LaidOut (token.position + piece.length + 1) text tokens) :
    LaidOut token.position (piece ++ c :: text) (token.join tokens) := by
  cases tokens with
  | nil => exact .front token hpiece (h.blank hc)
  | cons next tokens =>
    unfold Token.join
    dsimp only
    split
    · rename_i hconditions
      cases h with
      | @token _ blanks piece' rest _ _ hblanks hpiece' hposition hrest =>
        have hspelled := Spells.append (List.cons_ne_nil c blanks)
          (List.forall_mem_cons.mpr ⟨hc, hblanks⟩) hpiece hpiece'
        have htext : (token.text ++ " " ++ next.text).toList =
            token.text.toList ++ ' ' :: next.text.toList := by simp
        rw [← htext] at hspelled
        have hrow : piece ++ c :: (blanks ++ (piece' ++ rest)) =
            piece ++ (c :: blanks ++ piece') ++ rest := by simp
        rw [hrow]
        refine LaidOut.front ⟨.condition, token.text ++ " " ++ next.text, token.position⟩ hspelled ?_
        have hend : token.position + (piece ++ (c :: blanks ++ piece')).length =
            next.position + piece'.length := by
          rw [hposition]
          simp only [List.length_append, List.length_cons]
          omega
        rw [hend]
        exact hrest
    · exact .front token hpiece (h.blank hc)

theorem Break.toList_text {part : List Char} {lexeme : TokenKind × String}
    (h : Break part (some lexeme)) : lexeme.2.toList = part := by
  cases h <;> rfl

theorem Break.isSolid {part : List Char} {lexeme : TokenKind × String}
    (h : Break part (some lexeme)) : IsSolid part := by
  cases h <;> exact ⟨by simp, by simp [isBlank]⟩

theorem Break.kind_ne {part : List Char} {lexeme : TokenKind × String}
    (h : Break part (some lexeme)) : lexeme.1 ≠ .condition := by
  cases h <;> exact nofun

theorem foldr_join_ofWord (word : List Char) (position : Nat) :
    (ofWord word position).foldr join [] = ofWord word position := by
  unfold ofWord
  split <;> rfl

theorem LaidOut.ofWord {word rest : List Char} (hword : ∀ c ∈ word, isBlank c = false)
    (hlength : word.length ≤ position) (h : LaidOut position rest tokens) :
    LaidOut (position - word.length) (word ++ rest) (ofWord word position ++ tokens) := by
  unfold Token.ofWord
  split
  · rename_i hempty
    rw [List.isEmpty_iff.mp hempty]
    exact h
  · rename_i hne
    have hsolid : IsSolid word := ⟨mt List.isEmpty_iff.mpr hne, hword⟩
    refine LaidOut.front ⟨wordKind word, String.ofList word, position - word.length⟩ ?_ ?_
    · rw [String.toList_ofList]
      exact .row hsolid
    · rw [Nat.sub_add_cancel hlength]
      exact h

theorem LaidOut.sign {part rest : List Char} {lexeme : TokenKind × String}
    (hbreak : Break part (some lexeme)) (h : LaidOut (position + part.length) rest tokens) :
    LaidOut position (part ++ rest) (⟨lexeme.1, lexeme.2, position⟩ :: tokens) := by
  have hpiece : Spells part lexeme.2.toList := by
    rw [hbreak.toList_text]
    exact .row hbreak.isSolid
  exact LaidOut.front ⟨lexeme.1, lexeme.2, position⟩ hpiece h

theorem LaidOut.joinWord {word rest : List Char} {c : Char}
    (hword : ∀ c ∈ word, isBlank c = false) (hlength : word.length ≤ position)
    (hblank : isBlank c = true) (h : LaidOut (position + 1) rest tokens) :
    LaidOut (position - word.length) (word ++ c :: rest)
      ((Token.ofWord word position).foldr Token.join tokens) := by
  unfold Token.ofWord
  split
  · rename_i hempty
    rw [List.isEmpty_iff.mp hempty]
    exact h.blank hblank
  · rename_i hne
    have hsolid : IsSolid word := ⟨mt List.isEmpty_iff.mpr hne, hword⟩
    have hpiece : Spells word (String.ofList word).toList := by
      rw [String.toList_ofList]
      exact .row hsolid
    have hend : position - word.length + word.length + 1 = position + 1 := by
      rw [Nat.sub_add_cancel hlength]
    apply LaidOut.join ⟨_, _, position - word.length⟩ hpiece hblank
    rw [hend]
    exact h

/-- A word that is read on, and the text behind it, are made up of the tokens that are read. -/
theorem laidOut_scan (text : List Char) : ∀ (word : List Char) (position : Nat),
    (∀ c ∈ word, isBlank c = false) → word.length ≤ position →
      LaidOut (position - word.length) (word.reverse ++ text)
        ((scan word position text).foldr join []) := by
  have hreverse {word : List Char} (h : ∀ c ∈ word, isBlank c = false) :
      ∀ c ∈ word.reverse, isBlank c = false := fun c hc => h c (List.mem_reverse.mp hc)
  -- Along the text, with the word read so far: a break ends the word, a letter makes it longer.
  induction text using scan_induction with
  | atEnd =>
    intro word position hword hlength
    have hnone : LaidOut position [] [] := .done nofun
    have h := hnone.ofWord (hreverse hword) (by rwa [List.length_reverse])
    rw [List.length_reverse, List.append_nil (ofWord _ _)] at h
    rw [scan_nil, foldr_join_ofWord]
    exact h
  | @atBreak part sign rest hbreak ih =>
    intro word position hword hlength
    have hrest := ih [] (position + part.length) nofun (Nat.zero_le _)
    rw [List.length_nil, Nat.sub_zero, List.reverse_nil, List.nil_append] at hrest
    rw [scan_break hbreak]
    cases sign with
    | some lexeme =>
      have h := (hrest.sign hbreak).ofWord (hreverse hword) (by rwa [List.length_reverse])
      rw [List.length_reverse] at h
      rw [List.append_assoc, Option.toList_some, List.map_singleton, List.singleton_append,
        foldr_join_append hbreak.kind_ne, foldr_join_ofWord]
      exact h
    | none =>
      obtain ⟨c, rfl, hblank⟩ : ∃ c, part = [c] ∧ isBlank c = true := by
        cases hbreak with
        | blank h => exact ⟨_, rfl, h⟩
      have h := hrest.joinWord (hreverse hword) (by rwa [List.length_reverse]) hblank
      rw [List.length_reverse] at h
      rw [Option.toList_none, List.map_nil, List.append_nil, List.foldr_append]
      exact h
  | @atLetter c rest hletter ih =>
    intro word position hword hlength
    have hc : isBlank c = false := eq_false_of_ne_true hletter.single.2.2
    have h := ih (c :: word) (position + 1) (List.forall_mem_cons.mpr ⟨hc, hword⟩)
      (Nat.succ_le_succ hlength)
    rw [List.length_cons, Nat.add_sub_add_right, List.reverse_cons, List.append_assoc] at h
    rw [scan_letter hletter]
    exact h

/-- A text is made up of its tokens. -/
theorem laidOut_tokenize (text : List Char) : LaidOut 0 text (tokenize text) :=
  laidOut_scan text [] 0 nofun (Nat.le_refl 0)

/-! What follows for the tokens. -/

theorem LaidOut.position_le (h : LaidOut position text tokens) :
    ∀ token ∈ tokens, position ≤ token.position := by
  induction h with
  | done => nofun
  | token _ _ hposition _ ih =>
    refine List.forall_mem_cons.mpr ⟨by omega, ?_⟩
    intro token htoken
    have hle := ih token htoken
    omega

theorem LaidOut.increasing (h : LaidOut position text tokens) :
    tokens.Pairwise fun first second => first.position < second.position := by
  induction h with
  | done => exact .nil
  | token _ hpiece _ hrest ih =>
    refine List.pairwise_cons.mpr ⟨?_, ih⟩
    intro token htoken
    have hle := hrest.position_le token htoken
    have hpos := List.length_pos_iff.mpr hpiece.ne_nil
    omega

theorem LaidOut.visible_eq (h : LaidOut position text tokens) :
    visible text = visible (tokens.flatMap (·.text.toList)) := by
  induction h with
  | done h => exact visible_blanks h
  | token hblanks hpiece _ _ ih =>
    rw [visible_append, visible_append, visible_blanks hblanks, hpiece.visible_eq, ih,
      List.flatMap_cons, visible_append]
    rfl

/-- Where a token stands: its piece is found at its position, behind what the tokens before it are
made of. -/
theorem LaidOut.piece {before after : List Token}
    (h : LaidOut position text (before ++ token :: after)) :
    ∃ front piece back, text = front ++ (piece ++ back) ∧
      token.position = position + front.length ∧ Spells piece token.text.toList ∧
      visible front = visible (before.flatMap (·.text.toList)) := by
  induction before generalizing position text with
  | nil =>
    cases h with
    | @token _ blanks piece rest _ _ hblanks hpiece hposition hrest =>
      exact ⟨blanks, piece, rest, rfl, hposition, hpiece, visible_blanks hblanks⟩
  | cons first before ih =>
    cases h with
    | @token _ blanks piece rest _ _ hblanks hpiece hposition hrest =>
      obtain ⟨front, piece', back, rfl, hposition', hpiece', hvisible⟩ := ih hrest
      refine ⟨blanks ++ (piece ++ front), piece', back, ?_, ?_, hpiece', ?_⟩
      · simp only [List.append_assoc]
      · rw [hposition', hposition]
        simp only [List.length_append]
        omega
      · rw [visible_append, visible_append, visible_blanks hblanks, hpiece.visible_eq, hvisible,
          List.flatMap_cons, visible_append]
        rfl

end Token

end WorkWatch
