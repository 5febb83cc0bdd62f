import WorkWatch.Proofs.Expression.Token

/-! How deep the parentheses of a text are nested. The depth up to which the grammar derives an
expression is that of its parentheses alone, and these are the same in a text and in its tokens. -/

namespace WorkWatch

namespace Nesting

/-- An opening parenthesis is `true`, a closing one `false`. -/
def ofChar (c : Char) : Option Bool :=
  if c = '(' then some true else if c = ')' then some false else none

def ofKind : TokenKind → Option Bool
  | .leftParen => some true
  | .rightParen => some false
  | _ => none

/-- The parentheses of a text. -/
def ofText (text : List Char) : List Bool := text.filterMap ofChar

def ofTokens (tokens : List Token) : List Bool := tokens.filterMap fun token => ofKind token.kind

/-- At no place more than `depth` parentheses are open. -/
def Within (depth : Nat) (parens : List Bool) : Prop :=
  ∀ before ∈ parens.inits, before.count true ≤ before.count false + depth

def IsBalanced (parens : List Bool) : Prop := parens.count true = parens.count false

instance (depth : Nat) (parens : List Bool) : Decidable (Within depth parens) :=
  List.decidableBAll _ parens.inits

theorem Within.left {depth : Nat} {parens rest : List Bool} (h : Within depth (parens ++ rest)) :
    Within depth parens := by
  intro before hbefore
  apply h before
  rw [List.mem_inits] at hbefore ⊢
  exact hbefore.trans (List.prefix_append parens rest)

theorem Within.right {depth : Nat} {parens rest : List Bool} (h : Within depth (parens ++ rest))
    (hbalanced : IsBalanced parens) : Within depth rest := by
  intro before hbefore
  rw [List.mem_inits, ← List.prefix_append_right_inj parens] at hbefore
  have hwhole := h (parens ++ before) ((List.mem_inits _ _).mpr hbefore)
  rw [List.count_append, List.count_append, hbalanced] at hwhole
  omega

theorem Within.inside {depth : Nat} {parens : List Bool} (h : Within depth (true :: parens)) :
    ∃ inner, depth = inner + 1 ∧ Within inner parens := by
  have hopen := h [true] ((List.mem_inits _ _).mpr (List.prefix_append [true] parens))
  have hpos : 1 ≤ depth := by simpa using hopen
  refine ⟨depth - 1, by omega, ?_⟩
  intro before hbefore
  rw [List.mem_inits] at hbefore
  have hopened : true :: before <+: true :: parens := List.cons_prefix_cons.mpr ⟨rfl, hbefore⟩
  have hwhole := h (true :: before) ((List.mem_inits _ _).mpr hopened)
  rw [List.count_cons_self, List.count_cons_of_ne (by decide)] at hwhole
  omega

theorem ofTokens_append (before after : List Token) :
    ofTokens (before ++ after) = ofTokens before ++ ofTokens after := List.filterMap_append

theorem ofTokens_cons_none {token : Token} (h : ofKind token.kind = none) (tokens : List Token) :
    ofTokens (token :: tokens) = ofTokens tokens := List.filterMap_cons_none h

theorem ofTokens_group {opening closing : Token} (hopening : opening.kind = .leftParen)
    (hclosing : closing.kind = .rightParen) (tokens : List Token) :
    ofTokens (opening :: tokens ++ [closing]) = true :: (ofTokens tokens ++ [false]) := by
  have hfirst : ofKind opening.kind = some true := by rw [hopening, ofKind]
  have hlast : ofKind closing.kind = some false := by rw [hclosing, ofKind]
  simp [ofTokens, hfirst, hlast]

/-! The parentheses of an expression. -/

section Chains

variable {α : Type} {sign : TokenKind} {link : α → α → α} {part : List Token → α → Prop}
  {tokens : List Token} {value : α}

theorem ofTokens_link (hnone : ofKind sign = none) {token : Token} (hsign : token.kind = sign)
    (before after : List Token) :
    ofTokens (before ++ token :: after) = ofTokens before ++ ofTokens after := by
  rw [ofTokens_append, ofTokens_cons_none (hsign ▸ hnone)]

theorem balanced_of_chain (hnone : ofKind sign = none)
    (hpart : ∀ tokens value, part tokens value → IsBalanced (ofTokens tokens))
    (h : Chain sign link part tokens value) : IsBalanced (ofTokens tokens) := by
  induction h with
  | one h => exact hpart _ _ h
  | more _ hsign hright ih =>
    have hafter := hpart _ _ hright
    unfold IsBalanced at ih hafter ⊢
    rw [ofTokens_link hnone hsign, List.count_append, List.count_append, ih, hafter]

theorem chain_within {part' : List Token → α → Prop} {depth : Nat} (hnone : ofKind sign = none)
    (hbalanced : ∀ tokens value, part tokens value → IsBalanced (ofTokens tokens))
    (hpart : ∀ tokens value, part tokens value → Within depth (ofTokens tokens) →
      part' tokens value)
    (h : Chain sign link part tokens value) (hwithin : Within depth (ofTokens tokens)) :
    Chain sign link part' tokens value := by
  induction h with
  | one h => exact .one (hpart _ _ h hwithin)
  | more hleft hsign hright ih =>
    rw [ofTokens_link hnone hsign] at hwithin
    have hbefore := balanced_of_chain hnone hbalanced hleft
    exact .more (ih hwithin.left) hsign (hpart _ _ hright (hwithin.right hbefore))

end Chains

theorem ofKind_and : ofKind .and = none := rfl

theorem ofKind_or : ofKind .or = none := rfl

end Nesting

namespace Reading

open Nesting

variable {α : Type} {reading : Reading α}

theorem IsFactors.balanced_of {depth : Nat}
    (hterm : ∀ tokens value, reading.IsTerm depth tokens value → IsBalanced (ofTokens tokens))
    (tokens : List Token) (value : α) (h : reading.IsFactors depth tokens value) :
    IsBalanced (ofTokens tokens) :=
  balanced_of_chain ofKind_and hterm h

theorem IsTerm.balanced {depth : Nat} :
    ∀ tokens value, reading.IsTerm depth tokens value → IsBalanced (ofTokens tokens) := by
  have hcondition {token : Token} (hkind : token.kind = .condition) :
      IsBalanced (ofTokens [token]) := by
    rw [ofTokens_cons_none (by rw [hkind]; rfl)]
    rfl
  induction depth with
  | zero =>
    intro tokens value h
    cases h with
    | condition hkind h => exact hcondition hkind
    | group _ h => exact h.elim
  | succ depth ih =>
    intro tokens value h
    cases h with
    | condition hkind h => exact hcondition hkind
    | group hopening h hclosing =>
      have hinner := balanced_of_chain ofKind_or (IsFactors.balanced_of ih) h
      unfold IsBalanced at hinner ⊢
      rw [ofTokens_group hopening hclosing]
      simp [hinner]

theorem IsExpression.within_of {deep depth : Nat}
    (hterm : ∀ tokens value, reading.IsTerm deep tokens value → Within depth (ofTokens tokens) →
      reading.IsTerm depth tokens value) {tokens : List Token} {value : α}
    (h : reading.IsExpression deep tokens value) (hwithin : Within depth (ofTokens tokens)) :
    reading.IsExpression depth tokens value :=
  chain_within ofKind_or (IsFactors.balanced_of IsTerm.balanced)
    (fun _ _ => chain_within ofKind_and IsTerm.balanced hterm) h hwithin

theorem IsTerm.within {deep : Nat} : ∀ {depth : Nat} (tokens : List Token) (value : α),
    reading.IsTerm deep tokens value → Within depth (ofTokens tokens) →
      reading.IsTerm depth tokens value := by
  induction deep with
  | zero =>
    intro depth tokens value h _
    cases h with
    | condition hkind h => exact isTerm_condition hkind h depth
    | group _ h => exact h.elim
  | succ deep ih =>
    intro depth tokens value h hwithin
    cases h with
    | condition hkind h => exact isTerm_condition hkind h depth
    | group hopening h hclosing =>
      rw [ofTokens_group hopening hclosing] at hwithin
      obtain ⟨inner, rfl, hinner⟩ := hwithin.inside
      exact isTerm_group hopening (IsExpression.within_of ih h hinner.left) hclosing

theorem IsExpression.within {deep depth : Nat} {tokens : List Token} {value : α}
    (h : reading.IsExpression deep tokens value) (hwithin : Within depth (ofTokens tokens)) :
    reading.IsExpression depth tokens value :=
  within_of IsTerm.within h hwithin

end Reading

namespace Nesting

open Token

/-! The parentheses of a text are those of its tokens. -/

theorem ofTokens_ofWord (word : List Char) (position : Nat) :
    ofTokens (ofWord word position) = [] := by
  unfold ofWord wordKind
  split
  · rfl
  · split
    · rfl
    · split <;> rfl

theorem ofTokens_scan (text : List Char) : ∀ (word : List Char) (position : Nat),
    ofTokens (scan word position text) = ofText text := by
  induction text using scan_induction with
  | atEnd =>
    intro word position
    rw [scan_nil, ofTokens_ofWord]
    rfl
  | atBreak hbreak ih =>
    intro word position
    rw [scan_break hbreak, ofTokens_append, ofTokens_append, ofTokens_ofWord, ih]
    cases hbreak with
    | and => rfl
    | or => rfl
    | opening => rfl
    | closing => rfl
    | blank h =>
      obtain ⟨-, -, hopening, hclosing⟩ := ne_sign_of_isBlank h
      simp [ofText, ofChar, hopening, hclosing, ofTokens]
  | atLetter hletter ih =>
    intro word position
    obtain ⟨hopening, hclosing, -⟩ := hletter.single
    rw [scan_letter hletter, ih]
    simp [ofText, ofChar, hopening, hclosing]

theorem ofTokens_foldr_join (tokens : List Token) :
    ofTokens (tokens.foldr join []) = ofTokens tokens := by
  induction tokens with
  | nil => rfl
  | cons token tokens ih =>
    have hcons (tokens : List Token) :
        ofTokens (token :: tokens) = ofTokens [token] ++ ofTokens tokens :=
      ofTokens_append [token] tokens
    rw [List.foldr_cons, hcons, ← ih]
    cases tokens.foldr join [] with
    | nil => exact (List.append_nil _).symm
    | cons next rest =>
      rw [← hcons]
      unfold join
      dsimp only
      split
      · rename_i h
        rw [ofTokens_cons_none rfl, ofTokens_cons_none (by rw [h.1]; rfl),
          ofTokens_cons_none (by rw [h.2]; rfl)]
      · rfl

theorem ofTokens_tokenize (text : List Char) : ofTokens (tokenize text) = ofText text := by
  unfold tokenize
  rw [ofTokens_foldr_join, ofTokens_scan]

end Nesting

end WorkWatch
