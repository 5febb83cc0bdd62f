import WorkWatch.Evaluation.Basic

/-! The value of an expression. Taking the chain of one operator as a whole gives the same value as
going down the tree, operand by operand from left to right: taking a node on the stack apart changes
neither the value of the stack nor which term is the first to fail. -/

namespace WorkWatch

section Tests

variable {α β ε : Type} {test : α → Except ε Bool}

theorem allHold_congr {other : α → Except ε Bool} {xs : List α}
    (h : ∀ x ∈ xs, test x = other x) : allHold test xs = allHold other xs := by
  induction xs with
  | nil => rfl
  | cons x xs ih =>
    rw [allHold, allHold, h x List.mem_cons_self, ih fun y hy => h y (List.mem_cons_of_mem x hy)]

theorem anyHolds_congr {other : α → Except ε Bool} {xs : List α}
    (h : ∀ x ∈ xs, test x = other x) : anyHolds test xs = anyHolds other xs := by
  induction xs with
  | nil => rfl
  | cons x xs ih =>
    rw [anyHolds, anyHolds, h x List.mem_cons_self, ih fun y hy => h y (List.mem_cons_of_mem x hy)]

theorem allHold_map (test : α → Except ε Bool) (f : β → α) (xs : List β) :
    allHold (fun x => test (f x)) xs = allHold test (xs.map f) := by
  induction xs with
  | nil => rfl
  | cons x xs ih => rw [List.map_cons, allHold, allHold, ih]

theorem anyHolds_map (test : α → Except ε Bool) (f : β → α) (xs : List β) :
    anyHolds (fun x => test (f x)) xs = anyHolds test (xs.map f) := by
  induction xs with
  | nil => rfl
  | cons x xs ih => rw [List.map_cons, anyHolds, anyHolds, ih]

theorem allHold_singleton (x : α) : allHold test [x] = test x := by
  rw [allHold]
  rcases test x with error | _ | _ <;> rfl

theorem anyHolds_singleton (x : α) : anyHolds test [x] = test x := by
  rw [anyHolds]
  rcases test x with error | _ | _ <;> rfl

theorem anyHolds_eq_false_iff {xs : List α} :
    anyHolds test xs = .ok false ↔ ∀ x ∈ xs, test x = .ok false := by
  induction xs with
  | nil => simp [anyHolds]
  | cons x xs ih =>
    rw [anyHolds, List.forall_mem_cons, ← ih]
    rcases test x with error | _ | _
    · simp
    · simp
    · simp

theorem exists_of_anyHolds {xs : List α} (h : anyHolds test xs = .ok true) :
    ∃ x ∈ xs, test x = .ok true := by
  induction xs with
  | nil => cases h
  | cons x xs ih =>
    rw [anyHolds] at h
    rcases hx : test x with error | _ | _
    · rw [hx] at h
      cases h
    · rw [hx] at h
      obtain ⟨y, hy, hholds⟩ := ih h
      exact ⟨y, List.mem_cons_of_mem x hy, hholds⟩
    · exact ⟨x, List.mem_cons_self, hx⟩

/-- A test fails where it fails on one element and holds on none of those before. -/
theorem anyHolds_eq_error_iff {error : ε} {xs : List α} :
    anyHolds test xs = .error error ↔
      ∃ before x after, xs = before ++ x :: after ∧ (∀ y ∈ before, test y = .ok false) ∧
        test x = .error error := by
  induction xs with
  | nil =>
    constructor
    · exact fun h => by cases h
    · rintro ⟨before, x, after, hsplit, -⟩
      exact absurd hsplit.symm (List.append_ne_nil_of_right_ne_nil before nofun)
  | cons first rest ih =>
    rw [anyHolds]
    constructor
    · intro h
      rcases hfirst : test first with error' | _ | _
      · rw [hfirst] at h
        cases h
        exact ⟨[], first, rest, rfl, fun _ hmem => absurd hmem List.not_mem_nil, hfirst⟩
      · rw [hfirst] at h
        obtain ⟨before, x, after, rfl, hbefore, hx⟩ := ih.mp h
        refine ⟨first :: before, x, after, rfl, ?_, hx⟩
        intro y hmem
        rcases List.mem_cons.mp hmem with rfl | hmem
        · exact hfirst
        · exact hbefore y hmem
      · rw [hfirst] at h
        cases h
    · rintro ⟨before, x, after, hsplit, hbefore, hx⟩
      cases before with
      | nil =>
        cases hsplit
        rw [hx]
      | cons head before =>
        cases hsplit
        rw [hbefore first List.mem_cons_self]
        exact ih.mpr
          ⟨before, x, after, rfl, fun y hmem => hbefore y (List.mem_cons_of_mem _ hmem), hx⟩

end Tests

def Connective.join : Connective → Expression → Expression → Expression
  | .and => .and
  | .or => .or

namespace Expression

theorem sides?_eq_some_iff {connective : Connective} {e left right : Expression} :
    e.sides? connective = some (left, right) ↔ e = connective.join left right := by
  constructor
  · intro h
    cases connective <;> cases e <;> cases h <;> rfl
  · rintro rfl
    cases connective <;> rfl

variable {ε : Type} (term : Term → Except ε Bool)

theorem chainValue_and (left right : Expression) :
    (Expression.and left right).chainValue term =
      allHold (·.chainValue term) (operands .and [.and left right]) := by
  rw [chainValue]
  refine (allHold_map (chainValue term) Subtype.val _).trans ?_
  rw [List.attach_map_subtype_val]

theorem chainValue_or (left right : Expression) :
    (Expression.or left right).chainValue term =
      anyHolds (·.chainValue term) (operands .or [.or left right]) := by
  rw [chainValue]
  refine (anyHolds_map (chainValue term) Subtype.val _).trans ?_
  rw [List.attach_map_subtype_val]

/-- The operands of the ANDs on a stack hold as the stack does. -/
theorem allHold_operands (stack : List Expression) :
    allHold (·.value term) (operands .and stack) = allHold (·.value term) stack := by
  fun_induction operands Connective.and stack with
  | case1 => rfl
  | case2 e stack left right hsides _ ih =>
    obtain rfl : e = .and left right := sides?_eq_some_iff.mp hsides
    rw [ih, allHold, allHold, allHold, value]
    rcases left.value term with error | _ | _
    · rfl
    · rfl
    · rfl
  | case3 e stack _ ih => rw [allHold, allHold, ih]

/-- One of the operands of the ORs on a stack holds as one of the stack does. -/
theorem anyHolds_operands (stack : List Expression) :
    anyHolds (·.value term) (operands .or stack) = anyHolds (·.value term) stack := by
  fun_induction operands Connective.or stack with
  | case1 => rfl
  | case2 e stack left right hsides _ ih =>
    obtain rfl : e = .or left right := sides?_eq_some_iff.mp hsides
    rw [ih, anyHolds, anyHolds, anyHolds, value]
    rcases left.value term with error | _ | _
    · rfl
    · rfl
    · rfl
  | case3 e stack _ ih => rw [anyHolds, anyHolds, ih]

/-- A chain has the value of its expression, if that is so of its operands. -/
theorem chainValue_eq_value (e : Expression) : e.chainValue term = e.value term := by
  induction e using chainValue.induct with
  | case1 t => rw [chainValue, value]
  | case2 left right ih =>
    rw [chainValue_and, allHold_congr ih, allHold_operands, allHold_singleton]
  | case3 left right ih =>
    rw [chainValue_or, anyHolds_congr ih, anyHolds_operands, anyHolds_singleton]

/-- Evaluation from left to right comes to a term of some kind. -/
inductive ComesTo (kind : Term → Prop) : Expression → Prop
  | term {t : Term} (h : kind t) : ComesTo kind (.term t)
  | andLeft {left : Expression} (right : Expression) (h : ComesTo kind left) :
      ComesTo kind (.and left right)
  | andRight {left right : Expression} (hleft : left.value term = .ok true)
      (h : ComesTo kind right) : ComesTo kind (.and left right)
  | orLeft {left : Expression} (right : Expression) (h : ComesTo kind left) :
      ComesTo kind (.or left right)
  | orRight {left right : Expression} (hleft : left.value term = .ok false)
      (h : ComesTo kind right) : ComesTo kind (.or left right)

/-- An expression has no value if its evaluation comes to a term that has none. -/
theorem value_eq_error_iff {kind : Term → Prop} {error : ε}
    (hterm : ∀ t, term t = .error error ↔ kind t) (e : Expression) :
    e.value term = .error error ↔ e.ComesTo term kind := by
  -- Along the tree: a failure of the left side is that of the whole, and the right side is only
  -- reached where the left one does not decide.
  induction e with
  | term t =>
    refine (hterm t).trans ⟨fun h => .term h, fun h => ?_⟩
    cases h with
    | term h => exact h
  | and left right ihl ihr =>
    rw [value]
    rcases hleft : left.value term with error' | _ | _
    · change (Except.error error' : Except ε Bool) = .error error ↔ _
      rw [← hleft, ihl]
      refine ⟨fun h => .andLeft right h, fun h => ?_⟩
      cases h with
      | andLeft _ h => exact h
      | andRight htrue => rw [hleft] at htrue; cases htrue
    · refine ⟨nofun, fun h => ?_⟩
      cases h with
      | andLeft _ h => rw [ihl.mpr h] at hleft; cases hleft
      | andRight htrue => rw [hleft] at htrue; cases htrue
    · refine ihr.trans ⟨fun h => .andRight hleft h, fun h => ?_⟩
      cases h with
      | andLeft _ h => rw [ihl.mpr h] at hleft; cases hleft
      | andRight _ h => exact h
  | or left right ihl ihr =>
    rw [value]
    rcases hleft : left.value term with error' | _ | _
    · change (Except.error error' : Except ε Bool) = .error error ↔ _
      rw [← hleft, ihl]
      refine ⟨fun h => .orLeft right h, fun h => ?_⟩
      cases h with
      | orLeft _ h => exact h
      | orRight hfalse => rw [hleft] at hfalse; cases hfalse
    · refine ihr.trans ⟨fun h => .orRight hleft h, fun h => ?_⟩
      cases h with
      | orLeft _ h => rw [ihl.mpr h] at hleft; cases hleft
      | orRight _ h => exact h
    · refine ⟨nofun, fun h => ?_⟩
      cases h with
      | orLeft _ h => rw [ihl.mpr h] at hleft; cases hleft
      | orRight hfalse => rw [hleft] at hfalse; cases hfalse

end Expression

/-- A snapshot satisfies a tree as its terms tell, asked from left to right and no further than
needed: an AND holds if both sides do and an OR if one does, the second side is asked only where the
first does not decide, and a failure is that of the first term that fails. -/
theorem Snapshot.satisfiesTree_eq_value (snapshot : Snapshot) (tree : Expression) :
    snapshot.satisfiesTree tree = tree.value snapshot.satisfies :=
  Expression.chainValue_eq_value snapshot.satisfies tree

theorem Snapshot.evaluate_eq_value (snapshot : Snapshot) {text : String} {expression : Expression}
    (h : Expression.parse text = .ok expression) :
    snapshot.evaluate text = expression.value snapshot.satisfies := by
  unfold evaluate
  rw [h]
  exact Expression.chainValue_eq_value snapshot.satisfies expression

end WorkWatch
