import WorkWatch.Proofs.Evaluation.Value
import WorkWatch.Proofs.Expression.Written

/-! The value of a text that is joined from two others. Its tree is not that of the two trees, since
a chain of ORs is linked from the left all through; but the values of its conditions are linked by
an operation that is associative, so the value is that of the two values. -/

namespace WorkWatch

/-- Chains are joined by a sign where it does not matter from which side they are linked. -/
theorem Chain.append {α : Type} {sign : TokenKind} {link : α → α → α}
    {part : List Token → α → Prop} (hassoc : ∀ a b c, link (link a b) c = link a (link b c))
    {before after : List Token} {token : Token} {left right : α}
    (hleft : Chain sign link part before left) (hsign : token.kind = sign)
    (hright : Chain sign link part after right) :
    Chain sign link part (before ++ token :: after) (link left right) := by
  induction hright with
  | one h => exact .more hleft hsign h
  | more _ hsign' hlast ih =>
    rw [← hassoc, ← List.cons_append, ← List.append_assoc]
    exact .more ih hsign' hlast

namespace Reading

variable {ε : Type} {term : Term → Except ε Bool}

/-- Conditions are read as the values of their terms. -/
def values (term : Term → Except ε Bool) : Reading (Except ε Bool) where
  condition token value := ∃ t, Term.parse token.text = .ok t ∧ value = term t
  and left right := do if ← left then right else return false
  or left right := do if ← left then return true else right

theorem values_or_assoc (a b c : Except ε Bool) :
    (values term).or ((values term).or a b) c = (values term).or a ((values term).or b c) := by
  rcases a with error | _ | _
  · rfl
  · rfl
  · rfl

theorem tree_agrees_values :
    tree.Agrees (values term) Eq fun expression value => expression.value term = value := by
  refine ⟨?_, ?_, ?_, ?_⟩
  · rintro token _ rfl
    rfl
  · rintro token _ expression rfl _ ⟨t, hparse, rfl⟩
    exact ⟨term t, ⟨t, hparse, rfl⟩, rfl⟩
  · rintro left _ right _ rfl rfl
    rfl
  · rintro left _ right _ rfl rfl
    rfl

theorem values_agrees_tree :
    (values term).Agrees tree Eq fun value expression => expression.value term = value := by
  refine ⟨?_, ?_, ?_, ?_⟩
  · rintro token _ rfl
    rfl
  · rintro token _ value rfl _ ⟨t, hparse, rfl⟩
    exact ⟨.term t, tree_condition hparse, rfl⟩
  · rintro _ left _ right rfl rfl
    rfl
  · rintro _ left _ right rfl rfl
    rfl

/-- The grammar derives the value of a tree together with the tree. -/
theorem isExpression_values_iff {depth : Nat} {tokens : List Token} {value : Except ε Bool} :
    (values term).IsExpression depth tokens value ↔
      ∃ expression, tree.IsExpression depth tokens expression ∧
        expression.value term = value := by
  have hsame : List.Forall₂ Eq tokens tokens := List.forall₂_same.mpr fun _ _ => rfl
  constructor
  · intro h
    exact values_agrees_tree.isExpression h hsame
  · rintro ⟨expression, h, rfl⟩
    obtain ⟨_, h', rfl⟩ := tree_agrees_values.isExpression h hsame
    exact h'

end Reading

namespace Snapshot

open Reading Token

theorem evaluate_or (snapshot : Snapshot) {first second : String} {left right : Expression}
    (hfirst : Expression.parse first = .ok left) (hsecond : Expression.parse second = .ok right) :
    snapshot.evaluate (first ++ " OR " ++ second) =
      (do if ← snapshot.evaluate first then return true else snapshot.evaluate second) := by
  have hleft : (values snapshot.satisfies).IsExpression maxNesting (tokenize first.toList) _ :=
    isExpression_values_iff.mpr ⟨left, Expression.parse_eq_ok_iff.mp hfirst, rfl⟩
  have hright : (values snapshot.satisfies).IsExpression maxNesting (tokenize second.toList) _ :=
    isExpression_values_iff.mpr ⟨right, Expression.parse_eq_ok_iff.mp hsecond, rfl⟩
  have hsign : (⟨.or, "OR", 0⟩ : Token).kind = .or := rfl
  have hvalues := Chain.append values_or_assoc hleft hsign hright
  obtain ⟨expression, htree, hvalue⟩ := isExpression_values_iff.mp hvalues
  have hparse := Expression.parse_eq_ok_iff.mpr htree.of_or
  rw [evaluate_eq_value snapshot hparse, evaluate_eq_value snapshot hfirst,
    evaluate_eq_value snapshot hsecond, hvalue]
  rfl

theorem evaluate_and (snapshot : Snapshot) {first second : String} {left right : Expression}
    (hfirst : Expression.parse first = .ok left) (hsecond : Expression.parse second = .ok right)
    (hnesting : Nesting.Within (maxNesting - 1) (Nesting.ofText first.toList))
    (hnesting' : Nesting.Within (maxNesting - 1) (Nesting.ofText second.toList)) :
    snapshot.evaluate ("(" ++ first ++ ") AND (" ++ second ++ ")") =
      (do if ← snapshot.evaluate first then snapshot.evaluate second else return false) := by
  have hleft := Expression.parse_eq_ok_iff.mp hfirst
  have hright := Expression.parse_eq_ok_iff.mp hsecond
  rw [← Nesting.ofTokens_tokenize] at hnesting hnesting'
  have hand := Expression.isExpression_and
    (Expression.isTerm_parenthesized (hleft.within hnesting))
    (Expression.isTerm_parenthesized (hright.within hnesting'))
  have htext : "(" ++ first ++ ")" ++ " AND " ++ ("(" ++ second ++ ")") =
      "(" ++ first ++ ") AND (" ++ second ++ ")" := by
    apply String.toList_inj.mp
    simp
  rw [htext] at hand
  have hparse := Expression.parse_eq_ok_iff.mpr hand
  rw [evaluate_eq_value snapshot hparse, evaluate_eq_value snapshot hfirst,
    evaluate_eq_value snapshot hsecond]
  rfl

/-- Texts joined by OR, or in parentheses by AND, have the value of both: the second is asked only
where the first does not decide, and the first failure is the one that escapes. -/
theorem evaluate_joined (snapshot : Snapshot) {first second : String} {left right : Expression}
    (hfirst : Expression.parse first = .ok left) (hsecond : Expression.parse second = .ok right) :
    snapshot.evaluate (first ++ " OR " ++ second) =
      (do if ← snapshot.evaluate first then return true else snapshot.evaluate second) ∧
    (Nesting.Within (maxNesting - 1) (Nesting.ofText first.toList) →
      Nesting.Within (maxNesting - 1) (Nesting.ofText second.toList) →
      snapshot.evaluate ("(" ++ first ++ ") AND (" ++ second ++ ")") =
        (do if ← snapshot.evaluate first then snapshot.evaluate second else return false)) :=
  ⟨evaluate_or snapshot hfirst hsecond, evaluate_and snapshot hfirst hsecond⟩

/-- A work of which nothing is known but that it is available. -/
def available : Snapshot where
  id := "w"
  name := "w"
  consumer := "c"
  version := 1
  created := ""
  updated := ""
  manifests := []
  conditions := [⟨"Available", .yes, "", "", ""⟩]
  resources := []
  deleteOption := ""

theorem evaluate_joined_available :
    ∃ left right, Expression.parse "Degraded OR (Ready)" = .ok left ∧
      Expression.parse "Available&&Available" = .ok right ∧
      Nesting.Within (maxNesting - 1) (Nesting.ofText "Degraded OR (Ready)".toList) ∧
      Nesting.Within (maxNesting - 1) (Nesting.ofText "Available&&Available".toList) ∧
      available.evaluate "Degraded OR (Ready) OR Available&&Available" = .ok true ∧
      available.evaluate "(Degraded OR (Ready)) AND (Available&&Available)" = .ok false := by
  have hfirst : Expression.parse "Degraded OR (Ready)" =
      .ok (.or (.term (.work "Degraded")) (.term (.work "Ready"))) := by decide
  have hsecond : Expression.parse "Available&&Available" =
      .ok (.and (.term (.work "Available")) (.term (.work "Available"))) := by decide
  have hvalue : available.evaluate "Degraded OR (Ready)" = .ok false := by
    rw [evaluate_eq_value available hfirst]
    decide
  have hvalue' : available.evaluate "Available&&Available" = .ok true := by
    rw [evaluate_eq_value available hsecond]
    decide
  have hnesting : Nesting.Within (maxNesting - 1)
      (Nesting.ofText "Degraded OR (Ready)".toList) := by decide
  have hnesting' : Nesting.Within (maxNesting - 1)
      (Nesting.ofText "Available&&Available".toList) := by decide
  obtain ⟨hor, hand⟩ := evaluate_joined available hfirst hsecond
  refine ⟨_, _, hfirst, hsecond, hnesting, hnesting', hor.trans ?_,
    (hand hnesting hnesting').trans ?_⟩
  · rw [hvalue, hvalue']
    rfl
  · rw [hvalue]
    rfl

end Snapshot

end WorkWatch
