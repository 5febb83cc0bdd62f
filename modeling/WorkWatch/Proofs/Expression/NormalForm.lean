import WorkWatch.Proofs.Expression.Spelled

/-! The normal form of an expression: its tokens with single spaces between them. A sign, a keyword
and a row of words are each read as the token that they are the text of, and no two conditions stand
side by side; so the normal form has the tokens of the expression, their positions apart. -/

namespace WorkWatch

namespace Token

open Text

/-- A word that is no keyword. -/
structure IsWord (word : List Char) : Prop where
  ne_nil : word ≠ []
  unbroken : IsUnbroken word
  kind : wordKind word = .condition

/-- How tokens are written: signs, keywords, and words with single spaces between them. -/
inductive Written : TokenKind × String → Prop
  | sign {part : List Char} {lexeme : TokenKind × String} (h : Break part (some lexeme)) :
      Written lexeme
  | keyword {word : List Char} (h : wordKind word ≠ .condition) :
      Written (wordKind word, String.ofList word)
  | condition {words : List (List Char)} (hne : words ≠ []) (h : ∀ word ∈ words, IsWord word) :
      Written (.condition, String.ofList (joined [' '] words))

theorem wordKind_cases (word : List Char) :
    (word = ['A', 'N', 'D'] ∧ wordKind word = .and) ∨ (word = ['O', 'R'] ∧ wordKind word = .or) ∨
      (word ≠ ['A', 'N', 'D'] ∧ word ≠ ['O', 'R'] ∧ wordKind word = .condition) := by
  unfold wordKind
  by_cases hand : word = ['A', 'N', 'D']
  · exact Or.inl ⟨hand, if_pos hand⟩
  · by_cases hor : word = ['O', 'R']
    · exact Or.inr (Or.inl ⟨hor, by rw [if_neg hand, if_pos hor]⟩)
    · exact Or.inr (Or.inr ⟨hand, hor, by rw [if_neg hand, if_neg hor]⟩)

theorem IsWord.ne_keyword {word : List Char} (h : IsWord word) :
    word ≠ ['A', 'N', 'D'] ∧ word ≠ ['O', 'R'] := by
  have hkind := h.kind
  constructor <;> (rintro rfl; cases hkind)

theorem IsUnbroken.not_mem {row part : List Char} {sign : Option (TokenKind × String)} {c : Char}
    (h : IsUnbroken row) (hbreak : Break part sign) (hpart : part = [c]) : c ∉ row := by
  intro hmem
  obtain ⟨before, after, rfl⟩ := List.append_of_mem hmem
  apply h part sign hbreak
  rw [hpart]
  exact ⟨before, after, by simp⟩

theorem IsUnbroken.not_blank {row : List Char} (h : IsUnbroken row) :
    ∀ c ∈ row, isBlank c = false := by
  intro c hc
  rw [Bool.eq_false_iff]
  exact fun hblank => h.not_mem (.blank hblank) rfl hc

theorem IsWord.isSolid {word : List Char} (h : IsWord word) : IsSolid word :=
  ⟨h.ne_nil, h.unbroken.not_blank⟩

theorem Written.words_of_kind {lexeme : TokenKind × String} (h : Written lexeme)
    (hkind : lexeme.1 = .condition) :
    ∃ words, words ≠ [] ∧ (∀ word ∈ words, IsWord word) ∧
      lexeme.2.toList = joined [' '] words := by
  cases h with
  | sign h => exact absurd hkind h.kind_ne
  | keyword h => exact absurd hkind h
  | condition hne h => exact ⟨_, hne, h, String.toList_ofList⟩

/-- The texts of parentheses and operators. -/
def signs : TokenKind → List String
  | .leftParen => ["("]
  | .rightParen => [")"]
  | .and => ["AND", "&&"]
  | .or => ["OR", "||"]
  | .condition => []

theorem Written.mem_signs {lexeme : TokenKind × String} (h : Written lexeme)
    (hkind : lexeme.1 ≠ .condition) : lexeme.2 ∈ signs lexeme.1 := by
  cases h with
  | sign h => cases h <;> decide
  | @keyword word h =>
    rcases wordKind_cases word with ⟨rfl, -⟩ | ⟨rfl, -⟩ | ⟨-, -, hcondition⟩
    · decide
    · decide
    · exact absurd hcondition h
  | condition => exact absurd rfl hkind

theorem isSolid_of_mem_signs {kind : TokenKind} {text : String} (h : text ∈ signs kind) :
    IsSolid text.toList := by
  have hall : ∀ text ∈ signs kind, text.toList ≠ [] ∧ text.toList.all (isBlank · = false) := by
    cases kind <;> decide
  exact ⟨(hall text h).1, by simpa using (hall text h).2⟩

/-! Every token is written so. -/

/-- The word that is being read consists of letters. -/
def IsLettered (word rest : List Char) : Prop :=
  ∀ before c after, word = before ++ c :: after → IsLetter c (after ++ rest)

theorem IsLettered.isUnbroken {word rest : List Char} (h : IsLettered word rest) :
    IsUnbroken word := by
  apply isUnbroken_of_letters
  intro before c after hword part sign hbreak hbegins
  exact h before c after hword part sign hbreak (hbegins.trans (List.prefix_append (c :: after) rest))

theorem IsLettered.concat {word rest : List Char} {c : Char} (h : IsLettered word (c :: rest))
    (hletter : IsLetter c rest) : IsLettered (word ++ [c]) rest := by
  intro before d after hword
  rcases List.eq_nil_or_concat after with rfl | ⟨after, last, rfl⟩
  · obtain ⟨-, hlast⟩ := List.append_inj' hword rfl
    cases hlast
    exact hletter
  · rw [List.concat_eq_append, ← List.cons_append, ← List.append_assoc] at hword
    obtain ⟨hinit, hlast⟩ := List.append_inj' hword rfl
    cases hlast
    rw [List.concat_eq_append, List.append_assoc, List.singleton_append]
    exact h before d after hinit

theorem written_ofWord {word : List Char} (h : IsUnbroken word) (position : Nat) :
    ∀ token ∈ ofWord word position, Written token.lexeme := by
  unfold ofWord
  split
  · nofun
  · rename_i hne
    intro token htoken
    rw [List.mem_singleton.mp htoken]
    unfold lexeme
    dsimp only
    by_cases hkind : wordKind word = .condition
    · have hword : IsWord word := ⟨mt List.isEmpty_iff.mpr hne, h, hkind⟩
      rw [hkind]
      exact .condition (List.cons_ne_nil word []) (List.forall_mem_singleton.mpr hword)
    · exact .keyword hkind

theorem written_scan (text : List Char) : ∀ (word : List Char) (position : Nat),
    IsLettered word.reverse text → ∀ token ∈ scan word position text, Written token.lexeme := by
  induction text using scan_induction with
  | atEnd =>
    intro word position hword
    rw [scan_nil]
    exact written_ofWord hword.isUnbroken position
  | @atBreak part sign rest hbreak ih =>
    intro word position hword
    have hnil : IsLettered [] rest := fun before c after h => by simp at h
    rw [scan_break hbreak]
    refine List.forall_mem_append.mpr ⟨List.forall_mem_append.mpr ⟨?_, ?_⟩, ih [] _ hnil⟩
    · exact written_ofWord hword.isUnbroken position
    · cases sign with
      | none => nofun
      | some lexeme => exact List.forall_mem_singleton.mpr (.sign hbreak)
  | @atLetter c rest hletter ih =>
    intro word position hword
    rw [scan_letter hletter]
    apply ih
    rw [List.reverse_cons]
    exact hword.concat hletter

/-- Not both are conditions. -/
def Apart (first second : Token) : Prop := ¬ (first.kind = .condition ∧ second.kind = .condition)

theorem join_of_apart {token next : Token} (h : Apart token next) (rest : List Token) :
    join token (next :: rest) = token :: next :: rest := if_neg h

theorem join_of_conditions {token next : Token}
    (h : token.kind = .condition ∧ next.kind = .condition) (rest : List Token) :
    join token (next :: rest) =
      ⟨.condition, token.text ++ " " ++ next.text, token.position⟩ :: rest := if_pos h

theorem written_join {token : Token} {tokens : List Token} (htoken : Written token.lexeme)
    (h : ∀ next ∈ tokens, Written next.lexeme) :
    ∀ next ∈ join token tokens, Written next.lexeme := by
  have hcons : ∀ next ∈ token :: tokens, Written next.lexeme :=
    List.forall_mem_cons.mpr ⟨htoken, h⟩
  cases tokens with
  | nil => exact hcons
  | cons next rest =>
    by_cases hconditions : token.kind = .condition ∧ next.kind = .condition
    · obtain ⟨hnext, hrest⟩ := List.forall_mem_cons.mp h
      obtain ⟨words, hne, hwords, htext⟩ := htoken.words_of_kind hconditions.1
      obtain ⟨words', hne', hwords', htext'⟩ := hnext.words_of_kind hconditions.2
      have hwritten := Written.condition (List.append_ne_nil_of_left_ne_nil hne words')
        (List.forall_mem_append.mpr ⟨hwords, hwords'⟩)
      have hjoined : String.ofList (joined [' '] (words ++ words')) =
          token.text ++ " " ++ next.text := by
        rw [joined_append hne hne', ← htext, ← htext']
        apply String.toList_inj.mp
        simp [lexeme]
      rw [hjoined] at hwritten
      rw [join_of_conditions hconditions]
      exact List.forall_mem_cons.mpr ⟨hwritten, hrest⟩
    · rw [join_of_apart hconditions]
      exact hcons

theorem written_tokenize (text : List Char) :
    ∀ token ∈ tokenize text, Written token.lexeme := by
  have hscan := written_scan text [] 0 fun before c after h => by simp at h
  unfold tokenize
  generalize scan [] 0 text = tokens at hscan
  induction tokens with
  | nil => nofun
  | cons first tokens ih =>
    obtain ⟨hfirst, htokens⟩ := List.forall_mem_cons.mp hscan
    exact written_join hfirst (ih htokens)

theorem apart_join {token : Token} {tokens : List Token} (h : tokens.IsChain Apart) :
    (join token tokens).IsChain Apart := by
  cases tokens with
  | nil => exact .singleton token
  | cons next rest =>
    by_cases hconditions : token.kind = .condition ∧ next.kind = .condition
    · rw [join_of_conditions hconditions]
      cases rest with
      | nil => exact .singleton _
      | cons third rest =>
        obtain ⟨hthird, hrest⟩ := List.isChain_cons_cons.mp h
        refine List.isChain_cons_cons.mpr ⟨?_, hrest⟩
        exact fun hkinds => hthird ⟨hconditions.2, hkinds.2⟩
    · rw [join_of_apart hconditions]
      exact List.isChain_cons_cons.mpr ⟨hconditions, h⟩

theorem apart_tokenize (text : List Char) : (tokenize text).IsChain Apart := by
  unfold tokenize
  generalize scan [] 0 text = tokens
  induction tokens with
  | nil => exact .nil
  | cons token tokens ih => exact apart_join ih

/-! Reading what is written. -/

theorem join_ne_nil (token : Token) (tokens : List Token) : join token tokens ≠ [] := by
  cases tokens with
  | nil => exact List.cons_ne_nil token []
  | cons next rest =>
    unfold join
    dsimp only
    split <;> exact List.cons_ne_nil _ _

/-- Three conditions in a row become one, whichever two are put together first. -/
theorem join_join {first second : Token}
    (h : first.kind = .condition ∧ second.kind = .condition) (tokens : List Token) :
    join first (join second tokens) =
      join ⟨.condition, first.text ++ " " ++ second.text, first.position⟩ tokens := by
  cases tokens with
  | nil => exact join_of_conditions h []
  | cons third tokens =>
    by_cases hthird : third.kind = .condition
    · simp [join, h.1, h.2, hthird, String.append_assoc]
    · simp [join, h.1, h.2, hthird]

/-- Tokens that make up one token are put in front of others as that token is. -/
theorem foldr_join_of_single {before : List Token} : ∀ {token : Token},
    before.foldr join [] = [token] → ∀ tokens, before.foldr join tokens = join token tokens := by
  induction before with
  | nil => nofun
  | cons first before ih =>
    intro token h tokens
    rw [List.foldr_cons] at h ⊢
    cases hbefore : before.foldr join [] with
    | nil =>
      cases before with
      | nil =>
        cases h
        rfl
      | cons second before => exact absurd hbefore (join_ne_nil _ _)
    | cons second rest =>
      rw [hbefore] at h
      by_cases hconditions : first.kind = .condition ∧ second.kind = .condition
      · rw [join_of_conditions hconditions] at h
        obtain ⟨rfl, rfl⟩ := List.cons_eq_cons.mp h
        rw [ih hbefore, join_join hconditions]
      · rw [join_of_apart hconditions] at h
        cases h

theorem lexemes_append_space {before : List Char} {lexeme : TokenKind × String}
    (h : lexemes before = [lexeme]) (after : List Char) :
    ∃ token tokens, token.lexeme = lexeme ∧ tokens.map Token.lexeme = lexemes after ∧
      lexemes (before ++ ' ' :: after) = (join token tokens).map Token.lexeme := by
  obtain ⟨token, htokens, hlexeme⟩ : ∃ token, tokenize before = [token] ∧ token.lexeme = lexeme :=
    List.map_eq_singleton_iff.mp h
  have hblank : isBlank ' ' = true := rfl
  have hscan := scan_break (.blank hblank) [] (0 + before.length) after
  rw [List.singleton_append, List.reverse_nil, ofWord_nil] at hscan
  refine ⟨token, (scan [] (0 + before.length + 1) after).foldr join [], hlexeme, ?_, ?_⟩
  · exact foldr_join_lexeme (scan_lexeme after [] _ 0)
  · unfold lexemes tokenize
    rw [scan_append (ends_blank hblank), hscan, List.foldr_append]
    exact congrArg (List.map Token.lexeme) (foldr_join_of_single htokens _)

theorem lexemes_condition {words : List (List Char)} (hne : words ≠ [])
    (h : ∀ word ∈ words, IsWord word) :
    lexemes (joined [' '] words) = [(.condition, String.ofList (joined [' '] words))] := by
  induction words with
  | nil => exact absurd rfl hne
  | cons word words ih =>
    obtain ⟨hword, hwords⟩ := List.forall_mem_cons.mp h
    have hfirst : lexemes word = [(.condition, String.ofList word)] := by
      rw [lexemes_word hword.unbroken hword.ne_nil, hword.kind]
    cases words with
    | nil => exact hfirst
    | cons second words =>
      have hmore := ih (List.cons_ne_nil second words) hwords
      obtain ⟨token, tokens, htoken, htokens, hjoin⟩ :=
        lexemes_append_space hfirst (joined [' '] (second :: words))
      rw [hmore] at htokens
      obtain ⟨next, rfl, hnext⟩ := List.map_eq_singleton_iff.mp htokens
      have hkind : token.kind = .condition := congrArg Prod.fst htoken
      have htext : token.text = String.ofList word := congrArg Prod.snd htoken
      have hkind' : next.kind = .condition := congrArg Prod.fst hnext
      have htext' : next.text = String.ofList (joined [' '] (second :: words)) :=
        congrArg Prod.snd hnext
      rw [joined_cons (List.cons_ne_nil second words), List.append_assoc, List.singleton_append,
        hjoin]
      rw [join_of_conditions ⟨hkind, hkind'⟩, List.map_singleton, htext, htext']
      unfold lexeme
      rw [List.singleton_inj, Prod.mk.injEq]
      refine ⟨rfl, ?_⟩
      apply String.toList_inj.mp
      simp

/-- What is written of a token is read as that token. -/
theorem Written.lexemes {lexeme : TokenKind × String} (h : Written lexeme) :
    lexemes lexeme.2.toList = [lexeme] := by
  cases h with
  | sign h => cases h <;> rfl
  | @keyword word h =>
    rcases wordKind_cases word with ⟨rfl, -⟩ | ⟨rfl, -⟩ | ⟨-, -, hcondition⟩
    · rfl
    · rfl
    · exact absurd hcondition h
  | condition hne h =>
    rw [String.toList_ofList]
    exact lexemes_condition hne h

/-- Written tokens with single spaces between them are read as these tokens. -/
theorem lexemes_joined {tokens : List Token} (h : ∀ token ∈ tokens, Written token.lexeme)
    (hapart : tokens.IsChain Apart) :
    Token.lexemes (joined [' '] (tokens.map (·.text.toList))) = tokens.map lexeme := by
  induction tokens with
  | nil => rfl
  | cons token tokens ih =>
    obtain ⟨htoken, htokens⟩ := List.forall_mem_cons.mp h
    cases tokens with
    | nil => exact htoken.lexemes
    | cons next rest =>
      obtain ⟨hnext, hrest⟩ := List.isChain_cons_cons.mp hapart
      have hmore := ih htokens hrest
      have htext : token.text.toList = token.lexeme.2.toList := rfl
      rw [List.map_cons, joined_cons (by simp), List.append_assoc, List.singleton_append, htext]
      obtain ⟨token', tokens', htoken', htokens', hjoin⟩ :=
        lexemes_append_space htoken.lexemes (joined [' '] ((next :: rest).map (·.text.toList)))
      rw [hmore] at htokens'
      rw [hjoin, join_lexeme htoken' htokens', join_of_apart hnext]

/-- The tokens of an expression with single spaces between them. -/
def normalForm (text : List Char) : List Char :=
  joined [' '] ((tokenize text).map (·.text.toList))

theorem lexemes_normalForm (text : List Char) : lexemes (normalForm text) = lexemes text :=
  lexemes_joined (written_tokenize text) (apart_tokenize text)

/-! All that the tokens of a text tell about it. -/

/-- The text of a condition: words that are no keywords, with single spaces between them, and no
sign. -/
structure IsConditionText (text : List Char) : Prop where
  opening : '(' ∉ text
  closing : ')' ∉ text
  and_sign : ¬ ['&', '&'] <:+: text
  or_sign : ¬ ['|', '|'] <:+: text
  words : ∀ word ∈ pieces ' ' text,
    IsSolid word ∧ word ≠ ['A', 'N', 'D'] ∧ word ≠ ['O', 'R']

theorem isConditionText_joined {words : List (List Char)} (hne : words ≠ [])
    (h : ∀ word ∈ words, IsWord word) : IsConditionText (joined [' '] words) := by
  have hinfix {part : List Char} {sign : Option (TokenKind × String)} (hbreak : Break part sign)
      (hspace : ' ' ∉ part) : ¬ part <:+: joined [' '] words := by
    intro hpart
    have hpart_ne := List.length_pos_iff.mp hbreak.length_pos
    obtain ⟨word, hmem, hword⟩ := infix_of_infix_joined hpart_ne hspace hpart
    exact (h word hmem).unbroken part sign hbreak hword
  have hmem {c : Char} (hc : c ∈ joined [' '] words) : [c] <:+: joined [' '] words := by
    obtain ⟨before, after, hsplit⟩ := List.append_of_mem hc
    exact ⟨before, after, by rw [hsplit, List.append_assoc, List.singleton_append]⟩
  refine ⟨fun hc => hinfix .opening (by decide) (hmem hc),
    fun hc => hinfix .closing (by decide) (hmem hc), hinfix .and (by decide),
    hinfix .or (by decide), ?_⟩
  rw [pieces_joined hne fun word hword => (h word hword).isSolid.not_mem_space]
  exact fun word hword => ⟨(h word hword).isSolid, (h word hword).ne_keyword⟩

/-- Tokens that keep all of a source but its blanks. -/
structure Faithful (source : List Char) (tokens : List Token) : Prop where
  increasing : tokens.Pairwise fun first second => first.position < second.position
  /-- A parenthesis or an operator stands in the source at its position. -/
  sign : ∀ token ∈ tokens, token.kind ≠ .condition →
    token.text ∈ signs token.kind ∧ token.text.toList <+: source.drop token.position
  /-- The first word of a condition stands in the source at its position. -/
  first_word : ∀ token ∈ tokens, token.kind = .condition →
    ∃ word more, pieces ' ' token.text.toList = word :: more ∧
      word <+: source.drop token.position
  /-- Up to the position of a token there is what the tokens before it are made of. -/
  before : ∀ earlier token later, tokens = earlier ++ token :: later →
    visible (source.take token.position) = visible (earlier.flatMap (·.text.toList))
  complete : visible (tokens.flatMap (·.text.toList)) = visible source
  apart : tokens.IsChain Apart
  condition : ∀ token ∈ tokens, token.kind = .condition → IsConditionText token.text.toList

theorem LaidOut.drop {source : List Char} {before after : List Token} {token : Token}
    (h : LaidOut 0 source (before ++ token :: after)) :
    visible (source.take token.position) = visible (before.flatMap (·.text.toList)) ∧
      ∃ piece, Spells piece token.text.toList ∧ piece <+: source.drop token.position := by
  obtain ⟨front, piece, back, rfl, hposition, hpiece, hvisible⟩ := h.piece
  rw [hposition, Nat.zero_add, List.take_left, List.drop_left]
  exact ⟨hvisible, piece, hpiece, List.prefix_append piece back⟩

theorem faithful_tokenize (source : List Char) : Faithful source (tokenize source) := by
  have hlaid := laidOut_tokenize source
  have hwritten := written_tokenize source
  -- Position and spelling of a token come from where its piece stands in the source.
  have hdrop : ∀ token ∈ tokenize source, ∃ piece, Spells piece token.text.toList ∧
      piece <+: source.drop token.position := by
    intro token htoken
    obtain ⟨before, after, hsplit⟩ := List.append_of_mem htoken
    rw [hsplit] at hlaid
    exact hlaid.drop.2
  refine ⟨hlaid.increasing, ?_, ?_, ?_, hlaid.visible_eq.symm, apart_tokenize source, ?_⟩
  · intro token htoken hkind
    have hsign := (hwritten token htoken).mem_signs hkind
    obtain ⟨piece, hpiece, hprefix⟩ := hdrop token htoken
    rw [hpiece.eq_of_not_mem (isSolid_of_mem_signs hsign).not_mem_space] at hprefix
    exact ⟨hsign, hprefix⟩
  · intro token htoken _
    obtain ⟨piece, hpiece, hprefix⟩ := hdrop token htoken
    obtain ⟨word, more, hpieces, hword⟩ := hpiece.first_word
    exact ⟨word, more, hpieces, hword.trans hprefix⟩
  · intro earlier token later hsplit
    rw [hsplit] at hlaid
    exact hlaid.drop.1
  · intro token htoken hkind
    obtain ⟨words, hne, hwords, htext⟩ := (hwritten token htoken).words_of_kind hkind
    change token.text.toList = _ at htext
    rw [htext]
    exact isConditionText_joined hne hwords

end Token

/-- The tokens of a source are faithful to it; its normal form has the same tokens but for their
positions, and is read as the same expression or not at all. -/
theorem Expression.tokenize_faithful (source : String) :
    Token.Faithful source.toList (Token.tokenize source.toList) ∧
      Token.lexemes (Token.normalForm source.toList) = Token.lexemes source.toList ∧
      ∀ expression,
        Expression.parse (String.ofList (Token.normalForm source.toList)) = .ok expression ↔
          Expression.parse source = .ok expression := by
  have hlexemes := Token.lexemes_normalForm source.toList
  refine ⟨Token.faithful_tokenize source.toList, hlexemes, fun expression => ?_⟩
  rw [Expression.parse_eq_ok_iff, Expression.parse_eq_ok_iff, String.toList_ofList]
  exact ⟨fun h => h.of_lexemes hlexemes.symm, fun h => h.of_lexemes hlexemes⟩

example : Token.normalForm "(a&&&b\t c)".toList = "( a && &b c )".toList := by decide

end WorkWatch
