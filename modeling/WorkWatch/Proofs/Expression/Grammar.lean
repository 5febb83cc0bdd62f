import Mathlib.Data.List.Forall2
import Mathlib.Data.List.Infix
import WorkWatch.Expression.Parser

/-! The grammar of expressions, apart from any way to parse them:

    expression := factors (OR factors)*
    factors    := term (AND term)*
    term       := '(' expression ')' | condition

Parentheses are nested up to a given depth. A reading says what is made of a condition and of the
two signs: the trees, or nothing at all, so that only the shape of the tokens is left. -/

namespace WorkWatch

/-- One part, or several with a sign between each two; they are linked from the left. -/
inductive Chain {α : Type} (sign : TokenKind) (link : α → α → α)
    (part : List Token → α → Prop) : List Token → α → Prop
  | one {tokens : List Token} {value : α} (h : part tokens value) :
      Chain sign link part tokens value
  | more {before after : List Token} {token : Token} {left right : α}
      (hleft : Chain sign link part before left) (hsign : token.kind = sign)
      (hright : part after right) :
      Chain sign link part (before ++ token :: after) (link left right)

/-- What is made of a condition and of what stands on both sides of a sign. -/
structure Reading (α : Type) where
  condition : Token → α → Prop
  and : α → α → α
  or : α → α → α

/-- A condition, or something in parentheses, which leave no mark on what it is read as. -/
inductive Operand {α : Type} (reading : Reading α) (inner : List Token → α → Prop) :
    List Token → α → Prop
  | condition {token : Token} {value : α} (hkind : token.kind = .condition)
      (h : reading.condition token value) : Operand reading inner [token] value
  | group {opening closing : Token} {tokens : List Token} {value : α}
      (hopening : opening.kind = .leftParen) (h : inner tokens value)
      (hclosing : closing.kind = .rightParen) :
      Operand reading inner (opening :: tokens ++ [closing]) value

namespace Reading

variable {α β : Type}

/-- A term whose parentheses are nested at most `depth` deep. -/
def IsTerm (reading : Reading α) : Nat → List Token → α → Prop
  | 0 => Operand reading fun _ _ => False
  | depth + 1 =>
    Operand reading (Chain .or reading.or (Chain .and reading.and (reading.IsTerm depth)))

def IsFactors (reading : Reading α) (depth : Nat) : List Token → α → Prop :=
  Chain .and reading.and (reading.IsTerm depth)

/-- An expression whose parentheses are nested at most `depth` deep. -/
def IsExpression (reading : Reading α) (depth : Nat) : List Token → α → Prop :=
  Chain .or reading.or (reading.IsFactors depth)

/-- Conditions are read as their terms, and signs as the nodes of a tree. -/
def tree : Reading Expression where
  condition token value := ∃ term, Term.parse token.text = .ok term ∧ value = .term term
  and := .and
  or := .or

theorem tree_condition {token : Token} {term : Term} (h : Term.parse token.text = .ok term) :
    tree.condition token (.term term) :=
  ⟨term, h, rfl⟩

/-- Every token of the kind is a condition, and nothing is made of it. -/
def shape : Reading Unit where
  condition _ _ := True
  and _ _ := ()
  or _ _ := ()

variable {reading : Reading α} {other : Reading β}

theorem isTerm_condition {token : Token} {value : α} (hkind : token.kind = .condition)
    (h : reading.condition token value) (depth : Nat) : reading.IsTerm depth [token] value := by
  cases depth with
  | zero => exact .condition hkind h
  | succ depth => exact .condition hkind h

theorem isTerm_group {depth : Nat} {opening closing : Token} {tokens : List Token} {value : α}
    (hopening : opening.kind = .leftParen) (h : reading.IsExpression depth tokens value)
    (hclosing : closing.kind = .rightParen) :
    reading.IsTerm (depth + 1) (opening :: tokens ++ [closing]) value :=
  .group hopening h hclosing

theorem IsTerm.isExpression {depth : Nat} {tokens : List Token} {value : α}
    (h : reading.IsTerm depth tokens value) : reading.IsExpression depth tokens value :=
  .one (.one h)

end Reading

theorem Chain.imp {α : Type} {sign : TokenKind} {link : α → α → α}
    {part part' : List Token → α → Prop}
    (himp : ∀ tokens value, part tokens value → part' tokens value) {tokens : List Token}
    {value : α} (h : Chain sign link part tokens value) : Chain sign link part' tokens value := by
  induction h with
  | one h => exact .one (himp _ _ h)
  | more _ hsign hright ih => exact .more ih hsign (himp _ _ hright)

namespace Reading

variable {α β : Type} {reading : Reading α} {other : Reading β}

theorem IsTerm.succ {depth : Nat} : ∀ {tokens : List Token} {value : α},
    reading.IsTerm depth tokens value → reading.IsTerm (depth + 1) tokens value := by
  induction depth with
  | zero =>
    intro tokens value h
    cases h with
    | condition hkind h => exact .condition hkind h
    | group _ h => exact h.elim
  | succ depth ih =>
    intro tokens value h
    cases h with
    | condition hkind h => exact .condition hkind h
    | group hopening h hclosing =>
      have hdeeper : reading.IsExpression (depth + 1) _ _ :=
        h.imp fun _ _ => Chain.imp fun _ _ => ih
      exact isTerm_group hopening hdeeper hclosing

theorem IsTerm.mono {depth deeper : Nat} (hle : depth ≤ deeper) {tokens : List Token} {value : α}
    (h : reading.IsTerm depth tokens value) : reading.IsTerm deeper tokens value := by
  induction hle with
  | refl => exact h
  | step _ ih => exact ih.succ

/-! Two readings that agree on conditions agree on expressions, also on tokens that only correspond
to each other. -/

/-- Tokens correspond to each other and so do what two readings make of them. -/
structure Agrees (reading : Reading α) (other : Reading β) (same : Token → Token → Prop)
    (related : α → β → Prop) : Prop where
  kind : ∀ {token token'}, same token' token → token'.kind = token.kind
  condition : ∀ {token token' value}, same token' token → token.kind = .condition →
    reading.condition token value → ∃ value', other.condition token' value' ∧ related value value'
  and : ∀ {left left' right right'}, related left left' → related right right' →
    related (reading.and left right) (other.and left' right')
  or : ∀ {left left' right right'}, related left left' → related right right' →
    related (reading.or left right) (other.or left' right')

end Reading

theorem Chain.agrees {α β : Type} {sign : TokenKind} {link : α → α → α} {link' : β → β → β}
    {part : List Token → α → Prop} {part' : List Token → β → Prop} {same : Token → Token → Prop}
    {related : α → β → Prop} (hkind : ∀ {token token'}, same token' token →
      token'.kind = token.kind)
    (hlink : ∀ {left left' right right'}, related left left' → related right right' →
      related (link left right) (link' left' right'))
    (hpart : ∀ tokens tokens' value, part tokens value → List.Forall₂ same tokens' tokens →
      ∃ value', part' tokens' value' ∧ related value value') :
    ∀ tokens tokens' value, Chain sign link part tokens value →
      List.Forall₂ same tokens' tokens →
      ∃ value', Chain sign link' part' tokens' value' ∧ related value value' := by
  intro tokens tokens' value h
  induction h generalizing tokens' with
  | one h =>
    intro hsame
    obtain ⟨value', h', hrelated⟩ := hpart _ _ _ h hsame
    exact ⟨value', .one h', hrelated⟩
  | @more before after token left right _ hsign hright ih =>
    intro hsame
    have hbefore := List.forall₂_take_append tokens' before (token :: after) hsame
    have hrest := List.forall₂_drop_append tokens' before (token :: after) hsame
    obtain ⟨token', after', htoken, hafter, hdrop⟩ := List.forall₂_cons_right_iff.mp hrest
    obtain ⟨left', hleft', hrelated⟩ := ih _ hbefore
    obtain ⟨right', hright', hrelated'⟩ := hpart _ _ _ hright hafter
    refine ⟨link' left' right', ?_, hlink hrelated hrelated'⟩
    rw [← List.take_append_drop before.length tokens', hdrop]
    exact .more hleft' ((hkind htoken).trans hsign) hright'

namespace Reading

variable {α β : Type} {reading : Reading α} {other : Reading β} {same : Token → Token → Prop}
  {related : α → β → Prop}

theorem Agrees.expression (hagrees : reading.Agrees other same related) {depth : Nat}
    (hterm : ∀ tokens tokens' value, reading.IsTerm depth tokens value →
      List.Forall₂ same tokens' tokens →
      ∃ value', other.IsTerm depth tokens' value' ∧ related value value') :
    ∀ tokens tokens' value, reading.IsExpression depth tokens value →
      List.Forall₂ same tokens' tokens →
      ∃ value', other.IsExpression depth tokens' value' ∧ related value value' :=
  Chain.agrees hagrees.kind hagrees.or (Chain.agrees hagrees.kind hagrees.and hterm)

theorem Agrees.isTerm (hagrees : reading.Agrees other same related) {depth : Nat} :
    ∀ tokens tokens' value, reading.IsTerm depth tokens value →
      List.Forall₂ same tokens' tokens →
      ∃ value', other.IsTerm depth tokens' value' ∧ related value value' := by
  have hcondition {depth token tokens' value} (hkind : token.kind = .condition)
      (h : reading.condition token value) (hsame : List.Forall₂ same tokens' [token]) :
      ∃ value', other.IsTerm depth tokens' value' ∧ related value value' := by
    obtain ⟨token', rest, htoken, hrest, rfl⟩ := List.forall₂_cons_right_iff.mp hsame
    cases hrest
    obtain ⟨value', h', hrelated⟩ := hagrees.condition htoken hkind h
    exact ⟨value', isTerm_condition ((hagrees.kind htoken).trans hkind) h' depth, hrelated⟩
  -- On the depth; what stands in parentheses is an expression, one level further in.
  induction depth with
  | zero =>
    intro tokens tokens' value h hsame
    cases h with
    | condition hkind h => exact hcondition hkind h hsame
    | group _ h => exact h.elim
  | succ depth ih =>
    intro tokens tokens' value h hsame
    cases h with
    | condition hkind h => exact hcondition hkind h hsame
    | @group opening closing inner _ hopening h hclosing =>
      obtain ⟨opening', rest, hopen, hrest, rfl⟩ := List.forall₂_cons_right_iff.mp hsame
      have hinner := List.forall₂_take_append rest inner [closing] hrest
      have hlast := List.forall₂_drop_append rest inner [closing] hrest
      obtain ⟨closing', none, hclose, hnone, hdrop⟩ := List.forall₂_cons_right_iff.mp hlast
      cases hnone
      obtain ⟨value', h', hrelated⟩ := hagrees.expression ih _ _ _ h hinner
      refine ⟨value', ?_, hrelated⟩
      rw [← List.take_append_drop inner.length rest, hdrop]
      exact isTerm_group ((hagrees.kind hopen).trans hopening) h'
        ((hagrees.kind hclose).trans hclosing)

theorem Agrees.isExpression (hagrees : reading.Agrees other same related) {depth : Nat}
    {tokens tokens' : List Token} {value : α} (h : reading.IsExpression depth tokens value)
    (hsame : List.Forall₂ same tokens' tokens) :
    ∃ value', other.IsExpression depth tokens' value' ∧ related value value' :=
  hagrees.expression hagrees.isTerm _ _ _ h hsame

end Reading

end WorkWatch
