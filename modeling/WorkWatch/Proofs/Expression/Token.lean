import Mathlib.Data.List.DropRight
import WorkWatch.Proofs.Expression.Parser

/-! How a text falls into tokens. A text is read break by break: signs, parentheses and blanks end
the word before them, and every other character is part of a word. So texts that are joined at a
break have the tokens of both, apart from their positions, which no expression depends on. -/

namespace WorkWatch

namespace Token

open Text

/-- What ends a word, with the kind and the text of the token that it is. Blanks are no token. -/
inductive Break : List Char → Option (TokenKind × String) → Prop
  | and : Break ['&', '&'] (some (.and, "&&"))
  | or : Break ['|', '|'] (some (.or, "||"))
  | opening : Break ['('] (some (.leftParen, "("))
  | closing : Break [')'] (some (.rightParen, ")"))
  | blank {c : Char} (h : isBlank c = true) : Break [c] none

/-- A character that is part of a word, before some text. -/
def IsLetter (c : Char) (rest : List Char) : Prop :=
  ∀ part sign, Break part sign → ¬ part <+: c :: rest

theorem ne_sign_of_isBlank {c : Char} (h : isBlank c = true) :
    c ≠ '&' ∧ c ≠ '|' ∧ c ≠ '(' ∧ c ≠ ')' := by
  refine ⟨?_, ?_, ?_, ?_⟩ <;> (rintro rfl; cases h)

theorem ofWord_nil (position : Nat) : ofWord [] position = [] := rfl

theorem scan_nil (word : List Char) (position : Nat) :
    scan word position [] = ofWord word.reverse position := by rw [scan]

theorem scan_break {part : List Char} {sign : Option (TokenKind × String)} (h : Break part sign)
    (word : List Char) (position : Nat) (rest : List Char) :
    scan word position (part ++ rest) = ofWord word.reverse position ++
      (sign.toList.map fun sign => ⟨sign.1, sign.2, position⟩) ++
      scan [] (position + part.length) rest := by
  cases h with
  | and => simp [scan]
  | or => simp [scan]
  | opening => simp [scan]
  | closing => simp [scan]
  | blank h =>
    obtain ⟨hand, hor, hopening, hclosing⟩ := ne_sign_of_isBlank h
    simp [scan, *]

theorem IsLetter.single {c : Char} {rest : List Char} (h : IsLetter c rest) :
    c ≠ '(' ∧ c ≠ ')' ∧ ¬ isBlank c = true := by
  refine ⟨?_, ?_, ?_⟩
  · rintro rfl
    exact h _ _ .opening (List.prefix_append ['('] rest)
  · rintro rfl
    exact h _ _ .closing (List.prefix_append [')'] rest)
  · intro hblank
    exact h _ _ (.blank hblank) (List.prefix_append [c] rest)

theorem scan_letter {c : Char} {rest : List Char} (h : IsLetter c rest) (word : List Char)
    (position : Nat) : scan word position (c :: rest) = scan (c :: word) (position + 1) rest := by
  obtain ⟨hopening, hclosing, hblank⟩ := h.single
  rw [scan]
  · rw [if_neg hopening, if_neg hclosing, if_neg hblank]
  · rintro rest' rfl rfl
    exact h _ _ .and (List.prefix_append ['&', '&'] rest')
  · rintro rest' rfl rfl
    exact h _ _ .or (List.prefix_append ['|', '|'] rest')

theorem Break.length_pos {part : List Char} {sign : Option (TokenKind × String)}
    (h : Break part sign) : 0 < part.length := by
  cases h <;> exact Nat.succ_pos _

/-- A text is read break by break and letter by letter. -/
theorem scan_induction {motive : List Char → Prop} (atEnd : motive [])
    (atBreak : ∀ {part sign rest}, Break part sign → motive rest → motive (part ++ rest))
    (atLetter : ∀ {c rest}, IsLetter c rest → motive rest → motive (c :: rest)) :
    ∀ text, motive text
  | [] => atEnd
  | c :: rest => by
    by_cases hletter : IsLetter c rest
    · exact atLetter hletter (scan_induction atEnd atBreak atLetter rest)
    · unfold IsLetter at hletter
      push Not at hletter
      obtain ⟨part, sign, hbreak, after, hafter⟩ := hletter
      have hshorter : after.length < (c :: rest).length := by
        have hpos := hbreak.length_pos
        rw [← hafter, List.length_append]
        omega
      rw [← hafter]
      exact atBreak hbreak (scan_induction atEnd atBreak atLetter after)
termination_by text => text.length
decreasing_by
  · exact Nat.lt_succ_self _
  · exact hshorter

/-- A character that ends a word by itself. -/
def Ends (c : Char) : Prop := ∃ sign, Break [c] sign

theorem Ends.ne_sign {c : Char} (hc : Ends c) : c ≠ '&' ∧ c ≠ '|' := by
  obtain ⟨sign, hbreak⟩ := hc
  cases hbreak with
  | opening => decide
  | closing => decide
  | blank h => exact ⟨(ne_sign_of_isBlank h).1, (ne_sign_of_isBlank h).2.1⟩

theorem IsLetter.append {letter c : Char} {rest : List Char} (h : IsLetter letter rest)
    (hc : Ends c) (after : List Char) : IsLetter letter (rest ++ c :: after) := by
  intro part sign hbreak hprefix
  -- only a sign of two characters could reach past the letter, and `c` is none of these
  have hlength : part.length ≤ (letter :: rest).length := by
    cases rest with
    | nil =>
      cases hbreak with
      | and => simp [hc.ne_sign.1.symm] at hprefix
      | or => simp [hc.ne_sign.2.symm] at hprefix
      | opening => exact Nat.le_refl 1
      | closing => exact Nat.le_refl 1
      | blank => exact Nat.le_refl 1
    | cons d rest => cases hbreak <;> simp
  apply h part sign hbreak
  exact List.prefix_of_prefix_length_le hprefix (List.prefix_append (letter :: rest) _) hlength

/-- A text that is cut before a break is read up to there and from there on. -/
theorem scan_append {c : Char} (hc : Ends c) (after : List Char) (text : List Char) :
    ∀ (word : List Char) (position : Nat),
      scan word position (text ++ c :: after) =
        scan word position text ++ scan [] (position + text.length) (c :: after) := by
  induction text using scan_induction with
  | atEnd =>
    intro word position
    obtain ⟨sign, hbreak⟩ := hc
    have hscan := scan_break hbreak
    simp only [List.singleton_append] at hscan
    rw [List.nil_append, hscan, hscan, scan_nil, List.length_nil, Nat.add_zero, List.reverse_nil,
      ofWord_nil, List.nil_append, List.append_assoc]
  | @atBreak part sign rest hbreak ih =>
    intro word position
    rw [List.append_assoc, scan_break hbreak, scan_break hbreak, ih, List.length_append,
      Nat.add_assoc]
    simp only [List.append_assoc]
  | @atLetter letter rest hletter ih =>
    intro word position
    rw [List.cons_append, scan_letter (hletter.append hc after), scan_letter hletter, ih,
      List.length_cons, Nat.add_assoc, Nat.add_comm 1]

/-! Tokens apart from their positions. -/

def lexeme (token : Token) : TokenKind × String := (token.kind, token.text)

/-- The kinds and texts of the tokens of a text. -/
def lexemes (text : List Char) : List (TokenKind × String) := (tokenize text).map lexeme

theorem ofWord_lexeme (word : List Char) (position position' : Nat) :
    (ofWord word position).map lexeme = (ofWord word position').map lexeme := by
  unfold ofWord
  split <;> rfl

/-- A text has the same tokens wherever it stands. -/
theorem scan_lexeme (text : List Char) : ∀ (word : List Char) (position position' : Nat),
    (scan word position text).map lexeme = (scan word position' text).map lexeme := by
  induction text using scan_induction with
  | atEnd =>
    intro word position position'
    rw [scan_nil, scan_nil]
    exact ofWord_lexeme _ _ _
  | atBreak hbreak ih =>
    intro word position position'
    rw [scan_break hbreak, scan_break hbreak]
    simp only [List.map_append, List.map_map]
    rw [ofWord_lexeme, ih]
    rfl
  | atLetter hletter ih =>
    intro word position position'
    rw [scan_letter hletter, scan_letter hletter]
    exact ih _ _ _

theorem join_lexeme {token token' : Token} {tokens tokens' : List Token}
    (hfirst : token.lexeme = token'.lexeme) (h : tokens.map lexeme = tokens'.map lexeme) :
    (join token tokens).map lexeme = (join token' tokens').map lexeme := by
  have hkind : token.kind = token'.kind := congrArg Prod.fst hfirst
  have htext : token.text = token'.text := congrArg Prod.snd hfirst
  cases tokens with
  | nil =>
    rw [List.map_eq_nil_iff.mp h.symm]
    exact congrArg (fun first => [first]) hfirst
  | cons next rest =>
    obtain ⟨next', rest', rfl, hnext, hrest⟩ := List.map_eq_cons_iff.mp h.symm
    have hkind' : next'.kind = next.kind := congrArg Prod.fst hnext
    have htext' : next'.text = next.text := congrArg Prod.snd hnext
    unfold join
    dsimp only
    rw [hkind, htext, hkind', htext']
    split
    · rw [List.map_cons, List.map_cons, hrest]
      rfl
    · rw [List.map_cons, List.map_cons, List.map_cons, List.map_cons, hfirst, hnext, hrest]

theorem foldr_join_lexeme {tokens : List Token} : ∀ {tokens' : List Token},
    tokens.map lexeme = tokens'.map lexeme →
      (tokens.foldr join []).map lexeme = (tokens'.foldr join []).map lexeme := by
  induction tokens with
  | nil =>
    intro tokens' h
    rw [List.map_eq_nil_iff.mp h.symm]
  | cons token tokens ih =>
    intro tokens' h
    obtain ⟨token', rest', rfl, hfirst, hrest⟩ := List.map_eq_cons_iff.mp h.symm
    exact join_lexeme hfirst.symm (ih hrest.symm)

/-- A sign keeps the conditions before it and after it apart. -/
theorem foldr_join_append {sign : Token} (hsign : sign.kind ≠ .condition)
    (before after : List Token) :
    (before ++ sign :: after).foldr join [] =
      before.foldr join [] ++ sign :: after.foldr join [] := by
  have hafter (tokens : List Token) : join sign tokens = sign :: tokens := by
    cases tokens with
    | nil => rfl
    | cons next rest => exact if_neg fun h => hsign h.1
  induction before with
  | nil => exact hafter _
  | cons token before ih =>
    rw [List.cons_append, List.foldr_cons, ih, List.foldr_cons]
    cases before.foldr join [] with
    | nil => exact if_neg fun h => hsign h.2
    | cons next rest =>
      unfold join
      dsimp only [List.cons_append]
      split <;> rfl

theorem lexemes_append {before rest after : List Char} {c : Char} {sign : Token} {position : Nat}
    (hscan : scan [] before.length (c :: rest) = sign :: scan [] position after)
    (hc : Ends c) (hsign : sign.kind ≠ .condition) :
    lexemes (before ++ c :: rest) = lexemes before ++ sign.lexeme :: lexemes after := by
  unfold lexemes tokenize
  rw [scan_append hc, Nat.zero_add, hscan, foldr_join_append hsign, List.map_append, List.map_cons,
    foldr_join_lexeme (scan_lexeme after [] position 0)]

theorem ends_blank {c : Char} (h : isBlank c = true) : Ends c := ⟨none, .blank h⟩

theorem lexemes_or (before after : List Char) :
    lexemes (before ++ [' ', 'O', 'R', ' '] ++ after) =
      lexemes before ++ (.or, "OR") :: lexemes after := by
  have hscan : scan [] before.length (' ' :: 'O' :: 'R' :: ' ' :: after) =
      ⟨.or, "OR", before.length + 1⟩ :: scan [] (before.length + 4) after := rfl
  rw [List.append_assoc]
  exact lexemes_append hscan (ends_blank rfl) nofun

theorem lexemes_and (before after : List Char) :
    lexemes (before ++ [' ', 'A', 'N', 'D', ' '] ++ after) =
      lexemes before ++ (.and, "AND") :: lexemes after := by
  have hscan : scan [] before.length (' ' :: 'A' :: 'N' :: 'D' :: ' ' :: after) =
      ⟨.and, "AND", before.length + 1⟩ :: scan [] (before.length + 5) after := rfl
  rw [List.append_assoc]
  exact lexemes_append hscan (ends_blank rfl) nofun

theorem lexemes_group (text : List Char) :
    lexemes ('(' :: text ++ [')']) = (.leftParen, "(") :: lexemes text ++ [(.rightParen, ")")] := by
  have hopening : scan [] ([] : List Char).length ('(' :: (text ++ [')'])) =
      ⟨.leftParen, "(", 0⟩ :: scan [] 1 (text ++ [')']) := rfl
  have hclosing : scan [] text.length [')'] =
      ⟨.rightParen, ")", text.length⟩ :: scan [] (text.length + 1) [] := rfl
  have hopened := lexemes_append hopening ⟨_, .opening⟩ nofun
  rw [List.nil_append, lexemes_append hclosing ⟨_, .closing⟩ nofun] at hopened
  exact hopened

/-- A character of which words are made up. -/
def IsPlain (c : Char) : Prop := isBlank c = false ∧ c ∉ ['(', ')', '&', '|']

instance : DecidablePred IsPlain := fun _ => inferInstanceAs (Decidable (_ ∧ _))

theorem IsPlain.isLetter {c : Char} (h : IsPlain c) (rest : List Char) : IsLetter c rest := by
  obtain ⟨hblank, hsign⟩ := h
  intro part sign hbreak hprefix
  cases hbreak with
  | blank h =>
    obtain ⟨rfl, -⟩ := List.cons_prefix_cons.mp hprefix
    rw [hblank] at h
    cases h
  | and => simp [(List.cons_prefix_cons.mp hprefix).1.symm] at hsign
  | or => simp [(List.cons_prefix_cons.mp hprefix).1.symm] at hsign
  | opening => simp [(List.cons_prefix_cons.mp hprefix).1.symm] at hsign
  | closing => simp [(List.cons_prefix_cons.mp hprefix).1.symm] at hsign

/-- A row of characters in which no break stands. -/
def IsUnbroken (row : List Char) : Prop := ∀ part sign, Break part sign → ¬ part <:+: row

/-- A letter of a row is one before the rest of the row. -/
theorem isUnbroken_of_letters {row : List Char}
    (h : ∀ before c after, row = before ++ c :: after → IsLetter c after) : IsUnbroken row := by
  rintro part sign hbreak ⟨before, after, hrow⟩
  obtain ⟨c, more, rfl⟩ := List.exists_cons_of_length_pos hbreak.length_pos
  rw [List.append_assoc] at hrow
  exact h before c (more ++ after) hrow.symm _ _ hbreak (List.prefix_append _ after)

theorem isUnbroken_of_plain {row : List Char} (h : ∀ c ∈ row, IsPlain c) : IsUnbroken row := by
  apply isUnbroken_of_letters
  rintro before c after rfl
  exact (h c (List.mem_append_right _ List.mem_cons_self)).isLetter after

theorem IsUnbroken.isLetter {c : Char} {rest : List Char} (h : IsUnbroken (c :: rest)) :
    IsLetter c rest :=
  fun part sign hbreak hprefix => h part sign hbreak hprefix.isInfix

theorem IsUnbroken.tail {c : Char} {rest : List Char} (h : IsUnbroken (c :: rest)) :
    IsUnbroken rest :=
  fun part sign hbreak hinfix => h part sign hbreak (List.infix_cons hinfix)

theorem scan_word {text : List Char} (h : IsUnbroken text) :
    ∀ (word : List Char) (position : Nat),
      scan word position text = ofWord (word.reverse ++ text) (position + text.length) := by
  induction text with
  | nil =>
    intro word position
    rw [scan_nil, List.append_nil]
    rfl
  | cons c text ih =>
    intro word position
    rw [scan_letter h.isLetter, ih h.tail, List.reverse_cons, List.append_assoc,
      List.length_cons, Nat.add_assoc, Nat.add_comm 1]
    rfl

theorem lexemes_word {word : List Char} (h : IsUnbroken word) (hne : word ≠ []) :
    lexemes word = [(wordKind word, String.ofList word)] := by
  unfold lexemes tokenize
  rw [scan_word h, List.reverse_nil, List.nil_append]
  unfold ofWord
  rw [if_neg (mt List.isEmpty_iff.mp hne)]
  rfl

theorem lexemes_cons_blank {c : Char} (h : isBlank c = true) (text : List Char) :
    lexemes (c :: text) = lexemes text := by
  have hscan := scan_break (.blank h) [] 0 text
  unfold lexemes tokenize
  rw [List.singleton_append] at hscan
  rw [hscan]
  exact foldr_join_lexeme (scan_lexeme text [] _ 0)

theorem lexemes_concat_blank {c : Char} (h : isBlank c = true) (text : List Char) :
    lexemes (text ++ [c]) = lexemes text := by
  have hscan := scan_break (.blank h) [] (0 + text.length) []
  unfold lexemes tokenize
  rw [List.append_nil] at hscan
  rw [scan_append (ends_blank h), hscan, scan_nil]
  simp [ofWord_nil]

/-- Blanks around a text change no token. -/
theorem lexemes_strip (text : List Char) : lexemes (strip text) = lexemes text := by
  have hleft (text : List Char) : lexemes (text.dropWhile isBlank) = lexemes text := by
    induction text with
    | nil => rfl
    | cons c text ih =>
      by_cases h : isBlank c = true
      · rw [List.dropWhile_cons_of_pos h, ih, lexemes_cons_blank h]
      · rw [List.dropWhile_cons_of_neg h]
  have hright (text : List Char) : lexemes (dropRight isBlank text) = lexemes text := by
    induction text using List.reverseRecOn with
    | nil => rfl
    | append_singleton text c ih =>
      rw [dropRight_append]
      split
      · rename_i h
        rw [ih, lexemes_concat_blank h]
      · rfl
  exact (hright _).trans (hleft text)

end Token

namespace Reading

/-! No expression depends on the positions of its tokens. -/

theorem agrees_lexeme :
    tree.Agrees tree (fun token' token => token'.lexeme = token.lexeme) Eq := by
  refine ⟨fun h => congrArg Prod.fst h, ?_, ?_, ?_⟩
  · intro token token' value hsame _ h
    have htext : token'.text = token.text := congrArg Prod.snd hsame
    obtain ⟨term, hterm, rfl⟩ := h
    rw [← htext] at hterm
    exact ⟨_, tree_condition hterm, rfl⟩
  · rintro _ _ _ _ rfl rfl
    rfl
  · rintro _ _ _ _ rfl rfl
    rfl

theorem forall₂_lexeme {tokens tokens' : List Token}
    (h : tokens'.map Token.lexeme = tokens.map Token.lexeme) :
    List.Forall₂ (fun token' token => token'.lexeme = token.lexeme) tokens' tokens := by
  have hmaps : List.Forall₂ Eq (tokens'.map Token.lexeme) (tokens.map Token.lexeme) := by
    rw [h]
    exact List.forall₂_refl _
  exact List.forall₂_map_right_iff.mp (List.forall₂_map_left_iff.mp hmaps)

variable {depth : Nat} {tokens tokens' : List Token} {expression : Expression}

theorem IsTerm.of_lexemes (h : tree.IsTerm depth tokens expression)
    (hsame : tokens'.map Token.lexeme = tokens.map Token.lexeme) :
    tree.IsTerm depth tokens' expression := by
  obtain ⟨_, h', rfl⟩ := agrees_lexeme.isTerm _ _ _ h (forall₂_lexeme hsame)
  exact h'

theorem IsExpression.of_lexemes (h : tree.IsExpression depth tokens expression)
    (hsame : tokens'.map Token.lexeme = tokens.map Token.lexeme) :
    tree.IsExpression depth tokens' expression := by
  obtain ⟨_, h', rfl⟩ := agrees_lexeme.isExpression h (forall₂_lexeme hsame)
  exact h'

/-! Texts that are joined by a sign. -/

theorem IsExpression.of_and {left right : String} (h : tree.IsExpression depth
    (Token.tokenize left.toList ++ ⟨.and, "AND", 0⟩ :: Token.tokenize right.toList) expression) :
    tree.IsExpression depth (Token.tokenize (left ++ " AND " ++ right).toList) expression := by
  apply h.of_lexemes
  rw [List.map_append, String.toList_append, String.toList_append]
  exact Token.lexemes_and left.toList right.toList

theorem IsExpression.of_or {left right : String} (h : tree.IsExpression depth
    (Token.tokenize left.toList ++ ⟨.or, "OR", 0⟩ :: Token.tokenize right.toList) expression) :
    tree.IsExpression depth (Token.tokenize (left ++ " OR " ++ right).toList) expression := by
  apply h.of_lexemes
  rw [List.map_append, String.toList_append, String.toList_append]
  exact Token.lexemes_or left.toList right.toList

end Reading

/-- A text is read as an expression if the grammar derives its tokens. -/
theorem Expression.parse_eq_ok_iff {source : String} {expression : Expression} :
    Expression.parse source = .ok expression ↔
      Reading.tree.IsExpression maxNesting (Token.tokenize source.toList) expression := by
  have hstrip := Token.lexemes_strip source.toList
  unfold Expression.parse
  rw [Expression.ofTokens_eq_ok_iff]
  exact ⟨fun h => h.of_lexemes hstrip.symm, fun h => h.of_lexemes hstrip⟩

end WorkWatch
