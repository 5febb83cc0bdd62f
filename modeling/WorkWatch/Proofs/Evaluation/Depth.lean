import Mathlib.Data.List.MinMax
import Mathlib.Order.Nat
import WorkWatch.Proofs.Evaluation.Value
import WorkWatch.Proofs.Expression.Written

/-! How deep the evaluation of an expression is nested. A chain of one connective is evaluated as a
whole, so only a change of the connective leads deeper, and within each pair of parentheses it
changes at most twice. As the parser limits how deep parentheses are nested, it limits how deep
evaluations are, however long the text is. -/

namespace WorkWatch

section Tests

variable {α ε ε' : Type}

theorem allHold_mapError (test : α → Except ε Bool) (f : ε → ε') (xs : List α) :
    allHold (fun x => (test x).mapError f) xs = (allHold test xs).mapError f := by
  induction xs with
  | nil => rfl
  | cons x xs ih =>
    rw [allHold, allHold, ih]
    rcases test x with error | _ | _
    · rfl
    · rfl
    · rfl

theorem anyHolds_mapError (test : α → Except ε Bool) (f : ε → ε') (xs : List α) :
    anyHolds (fun x => (test x).mapError f) xs = (anyHolds test xs).mapError f := by
  induction xs with
  | nil => rfl
  | cons x xs ih =>
    rw [anyHolds, anyHolds, ih]
    rcases test x with error | _ | _
    · rfl
    · rfl
    · rfl

end Tests

namespace Expression

variable {connective : Connective}

/-! The operands of chains. -/

theorem operands_append (before after : List Expression) :
    operands connective (before ++ after) =
      operands connective before ++ operands connective after := by
  fun_induction operands connective before with
  | case1 => rfl
  | case2 e stack left right hsides _ ih =>
    rw [List.cons_append, operands_node hsides]
    exact ih
  | case3 e stack hsides ih => rw [List.cons_append, operands_leaf hsides, ih, List.cons_append]

theorem operands_singleton {e : Expression} (h : e.sides? connective = none) :
    operands connective [e] = [e] := by
  rw [operands_leaf h, operands]

theorem operands_join (left right : Expression) :
    operands connective [connective.join left right] =
      operands connective [left] ++ operands connective [right] := by
  rw [operands_node (sides?_eq_some_iff.mpr rfl)]
  exact operands_append [left] [right]

/-! The depth of an evaluation. -/

/-- How deep evaluations are nested: those of the operands stand within that of their chain. -/
def evaluationDepth : Expression → Nat
  | .term _ => 1
  | .and left right =>
    1 + ((operands .and [.and left right]).attach.map fun ⟨operand, _⟩ =>
      operand.evaluationDepth).foldr max 0
  | .or left right =>
    1 + ((operands .or [.or left right]).attach.map fun ⟨operand, _⟩ =>
      operand.evaluationDepth).foldr max 0
termination_by e => sizeOf e
decreasing_by
  · rename_i h
    exact sizeOf_lt_of_mem_operands rfl h
  · rename_i h
    exact sizeOf_lt_of_mem_operands rfl h

theorem evaluationDepth_term (t : Term) : (Expression.term t).evaluationDepth = 1 := by
  rw [evaluationDepth]

theorem evaluationDepth_join (left right : Expression) :
    (connective.join left right).evaluationDepth =
      1 + ((operands connective [connective.join left right]).map evaluationDepth).foldr max 0 := by
  cases connective with
  | and =>
    change (Expression.and left right).evaluationDepth = _
    rw [evaluationDepth, List.attach_map_val]
    rfl
  | or =>
    change (Expression.or left right).evaluationDepth = _
    rw [evaluationDepth, List.attach_map_val]
    rfl

theorem cases_join {motive : Expression → Prop} (term : ∀ t, motive (.term t))
    (join : ∀ (connective : Connective) left right, motive (connective.join left right))
    (e : Expression) : motive e := by
  cases e with
  | term t => exact term t
  | and left right => exact join .and left right
  | or left right => exact join .or left right

theorem evaluationDepth_pos (e : Expression) : 0 < e.evaluationDepth := by
  cases e using cases_join with
  | term t => rw [evaluationDepth_term]; exact Nat.one_pos
  | join connective left right => rw [evaluationDepth_join]; omega

theorem evaluationDepth_join_le_iff (connective : Connective) {left right : Expression}
    {depth : Nat} :
    (connective.join left right).evaluationDepth ≤ depth + 1 ↔
      ∀ operand ∈ operands connective [connective.join left right],
        operand.evaluationDepth ≤ depth := by
  rw [evaluationDepth_join, Nat.add_comm, Nat.add_le_add_iff_right]
  constructor
  · intro h operand hmem
    exact (List.le_max_of_le (List.mem_map_of_mem hmem) (Nat.le_refl _)).trans h
  · intro h
    apply List.max_le_of_forall_le
    intro n hn
    obtain ⟨operand, hmem, rfl⟩ := List.mem_map.mp hn
    exact h operand hmem

/-- The operands of an expression lie no deeper than the expression itself. -/
theorem evaluationDepth_operands {e : Expression} {depth : Nat} (h : e.evaluationDepth ≤ depth) :
    ∀ operand ∈ operands connective [e], operand.evaluationDepth ≤ depth := by
  intro operand hmem
  cases hsides : e.sides? connective with
  | none =>
    rw [operands_singleton hsides] at hmem
    obtain rfl := List.mem_singleton.mp hmem
    exact h
  | some sides =>
    obtain rfl := sides?_eq_some_iff.mp hsides
    have hpos := evaluationDepth_pos (connective.join sides.1 sides.2)
    obtain ⟨depth, rfl⟩ : ∃ inner, depth = inner + 1 := ⟨depth - 1, by omega⟩
    exact ((evaluationDepth_join_le_iff connective).mp h operand hmem).trans (Nat.le_succ depth)

/-- A chain is nested one level deeper than its operands. -/
theorem evaluationDepth_le_of_operands {e : Expression} {depth : Nat}
    (h : ∀ operand ∈ operands connective [e], operand.evaluationDepth ≤ depth) :
    e.evaluationDepth ≤ depth + 1 := by
  cases hsides : e.sides? connective with
  | none =>
    have hmem : e ∈ operands connective [e] := by
      rw [operands_singleton hsides]
      exact List.mem_cons_self
    exact (h e hmem).trans (Nat.le_succ depth)
  | some sides =>
    obtain rfl := sides?_eq_some_iff.mp hsides
    exact (evaluationDepth_join_le_iff connective).mpr h

/-! A limit on the depth. -/

section Limit

variable {ε : Type} (term : Term → Except ε Bool)

/-- The value when evaluations can be nested only so deep. The failure `none` tells that they would
have to be nested deeper. -/
def valueWithin : Nat → Expression → Except (Option ε) Bool
  | 0, _ => .error none
  | _ + 1, .term t => (term t).mapError some
  | depth + 1, .and left right =>
    allHold (valueWithin depth) (operands .and [.and left right])
  | depth + 1, .or left right =>
    anyHolds (valueWithin depth) (operands .or [.or left right])

/-- A limit that is not below the depth of an expression makes no difference to its value. -/
theorem valueWithin_eq {depth : Nat} :
    ∀ {e : Expression}, e.evaluationDepth ≤ depth →
      valueWithin term depth e = (e.chainValue term).mapError some := by
  -- On the limit: a chain takes one level, and its operands have what is left.
  induction depth with
  | zero =>
    intro e h
    have hpos := evaluationDepth_pos e
    omega
  | succ depth ih =>
    intro e h
    cases e with
    | term t => rw [valueWithin, chainValue]
    | and left right =>
      have hinner := (evaluationDepth_join_le_iff .and).mp h
      rw [valueWithin, chainValue_and, ← allHold_mapError]
      exact allHold_congr fun operand hmem => ih (hinner operand hmem)
    | or left right =>
      have hinner := (evaluationDepth_join_le_iff .or).mp h
      rw [valueWithin, chainValue_or, ← anyHolds_mapError]
      exact anyHolds_congr fun operand hmem => ih (hinner operand hmem)

end Limit

end Expression

/-! The depth of what is parsed. -/

open Expression in
theorem Chain.evaluationDepth_le (connective : Connective) {sign : TokenKind}
    {part : List Token → Expression → Prop} {depth : Nat}
    (hpart : ∀ tokens e, part tokens e → e.evaluationDepth ≤ depth) {tokens : List Token}
    {e : Expression} (h : Chain sign connective.join part tokens e) :
    e.evaluationDepth ≤ depth + 1 := by
  apply evaluationDepth_le_of_operands
  show ∀ operand ∈ operands connective [e], operand.evaluationDepth ≤ depth
  induction h with
  | one h => exact evaluationDepth_operands (hpart _ _ h)
  | more _ _ hright ih =>
    intro operand hmem
    rw [operands_join] at hmem
    rcases List.mem_append.mp hmem with hmem | hmem
    · exact ih operand hmem
    · exact evaluationDepth_operands (hpart _ _ hright) operand hmem

namespace Reading

theorem evaluationDepth_expression {depth bound : Nat}
    (hterm : ∀ tokens e, tree.IsTerm depth tokens e → e.evaluationDepth ≤ bound)
    {tokens : List Token} {e : Expression} (h : tree.IsExpression depth tokens e) :
    e.evaluationDepth ≤ bound + 2 :=
  Chain.evaluationDepth_le .or (fun _ _ hfactors => Chain.evaluationDepth_le .and hterm hfactors) h

/-- Each pair of parentheses leads at most two levels deeper: to the OR in it and to its ANDs. -/
theorem evaluationDepth_of_isTerm {depth : Nat} :
    ∀ tokens e, tree.IsTerm depth tokens e → e.evaluationDepth ≤ 2 * depth + 1 := by
  have hcondition {token : Token} {e : Expression} (h : tree.condition token e) :
      e.evaluationDepth = 1 := by
    obtain ⟨term, -, rfl⟩ := h
    exact Expression.evaluationDepth_term term
  induction depth with
  | zero =>
    intro tokens e h
    cases h with
    | condition _ h => exact Nat.le_of_eq (hcondition h)
    | group _ h => exact h.elim
  | succ depth ih =>
    intro tokens e h
    cases h with
    | condition _ h =>
      rw [hcondition h]
      omega
    | group _ h =>
      have hinner := evaluationDepth_expression ih h
      omega

end Reading

namespace Expression

open Reading Token

/-- However long a text is, the evaluation of its expression is nested at most 131 levels deep: two
for each pair of parentheses, two for the chains around them and one for the term. -/
theorem evaluationDepth_of_parse {source : String} {e : Expression} (h : parse source = .ok e) :
    e.evaluationDepth ≤ 2 * (maxNesting + 1) + 1 ∧
      ∀ {ε : Type} (term : Term → Except ε Bool),
        e.valueWithin term (2 * (maxNesting + 1) + 1) = (e.chainValue term).mapError some := by
  have hdepth := evaluationDepth_expression evaluationDepth_of_isTerm (parse_eq_ok_iff.mp h)
  have hbound : e.evaluationDepth ≤ 2 * (maxNesting + 1) + 1 := by omega
  exact ⟨hbound, fun term => valueWithin_eq term hbound⟩

/-! The bound is attained. -/

def conditionA : Expression := .term (.work "A")

/-- An operand with an AND and an OR after it. -/
def deeper (text : String) : String := text ++ " AND " ++ "A" ++ " OR " ++ "A"

/-- A text with parentheses nested `n` deep and both connectives at each level. -/
def deepText : Nat → String
  | 0 => deeper "A"
  | n + 1 => deeper ("(" ++ deepText n ++ ")")

def deepTree : Nat → Expression
  | 0 => .or (.and conditionA conditionA) conditionA
  | n + 1 => .or (.and (deepTree n) conditionA) conditionA

theorem isTerm_conditionA (depth : Nat) :
    tree.IsTerm depth (tokenize "A".toList) conditionA := by
  have hwell : (Term.work "A").WellFormed := by decide
  exact (isTerm_text hwell).mono (Nat.zero_le depth)

theorem isExpression_deeper {depth : Nat} {text : String} {e : Expression}
    (h : tree.IsTerm depth (tokenize text.toList) e) :
    tree.IsExpression depth (tokenize (deeper text).toList)
      (.or (.and e conditionA) conditionA) := by
  have hleft := isExpression_and h (isTerm_conditionA depth)
  have hright : tree.IsFactors depth (tokenize "A".toList) conditionA :=
    .one (isTerm_conditionA depth)
  exact IsExpression.of_or (.more hleft rfl hright)

theorem isExpression_deepText (n : Nat) :
    tree.IsExpression n (tokenize (deepText n).toList) (deepTree n) := by
  induction n with
  | zero => exact isExpression_deeper (isTerm_conditionA 0)
  | succ n ih => exact isExpression_deeper (isTerm_parenthesized ih)

/-- An operand that is no AND itself lies two levels below the OR. -/
theorem evaluationDepth_deeper {e : Expression} (h : e.sides? .and = none) :
    (Expression.or (.and e conditionA) conditionA).evaluationDepth = e.evaluationDepth + 2 := by
  have hpos := evaluationDepth_pos e
  have hone : conditionA.evaluationDepth = 1 := evaluationDepth_term _
  have hand : (Connective.and.join e conditionA).evaluationDepth = e.evaluationDepth + 1 := by
    rw [evaluationDepth_join, operands_join, operands_singleton h, operands_singleton rfl]
    change 1 + max e.evaluationDepth (max conditionA.evaluationDepth 0) = _
    omega
  change (Connective.or.join (Connective.and.join e conditionA) conditionA).evaluationDepth = _
  rw [evaluationDepth_join, operands_join, operands_singleton rfl, operands_singleton rfl]
  change 1 + max (Connective.and.join e conditionA).evaluationDepth
    (max conditionA.evaluationDepth 0) = _
  omega

theorem evaluationDepth_deepTree (n : Nat) : (deepTree n).evaluationDepth = 2 * n + 3 := by
  induction n with
  | zero => rw [deepTree, evaluationDepth_deeper rfl, conditionA, evaluationDepth_term]
  | succ n ih =>
    have hsides : (deepTree n).sides? .and = none := by
      cases n <;> rfl
    rw [deepTree, evaluationDepth_deeper hsides, ih]
    omega

/-- With parentheses as deep as the parser allows, no level is spare. -/
theorem evaluationDepth_of_parse_deepText :
    parse (deepText maxNesting) = .ok (deepTree maxNesting) ∧
      (deepTree maxNesting).evaluationDepth = 131 ∧
      ∀ {ε : Type} (term : Term → Except ε Bool),
        (deepTree maxNesting).valueWithin term 131 =
          ((deepTree maxNesting).chainValue term).mapError some := by
  have hparse := parse_eq_ok_iff.mpr (isExpression_deepText maxNesting)
  exact ⟨hparse, evaluationDepth_deepTree maxNesting, (evaluationDepth_of_parse hparse).2⟩

end Expression

end WorkWatch
