import WorkWatch.Evaluation.Comparison
import WorkWatch.Expression.Parser
import WorkWatch.Work.Snapshot

/-!
Evaluating expressions on snapshots. What is unknown is false. A condition that changed before the
work was last applied belongs to an earlier round and does not count; without comparable times it
counts as fresh.
-/

namespace WorkWatch

namespace Snapshot

/-- The work has a fresh condition of this type that is true. -/
def meets (snapshot : Snapshot) (type : String) : Bool :=
  match snapshot.find? type with
  | none => false
  | some condition =>
    if Text.sameFolded type appliedType then true
    else
      match snapshot.find? appliedType with
      | none => true
      | some applied =>
        match condition.transition?, applied.transition? with
        | some changed, some since => !changed.before since
        | _, _ => true

/-- When the work was applied: the time of its first true condition of that type that has one. -/
def appliedTime? (snapshot : Snapshot) : Option Time.Timestamp := do
  let applied ← snapshot.conditions.find? fun condition =>
    condition.asserts appliedType && !condition.lastTransition.isEmpty
  applied.transition?

end Snapshot

namespace ResourceStatus

/-- The resource was applied no earlier than the work, as far as its times tell. -/
def isFresh (since : Option Time.Timestamp) (resource : ResourceStatus) : Bool :=
  match since with
  | none => true
  | some since =>
    match resource.conditions.find? (·.asserts appliedType) with
    | none => true
    | some applied =>
      match applied.transition? with
      | none => true
      | some changed => !changed.before since

def isSelected (kind : String) (space name : Option String) (resource : ResourceStatus) : Bool :=
  Text.sameFolded resource.kind kind &&
    (match name with
      | none => true
      | some name => Text.sameFolded resource.name name) &&
    (match space with
      | none => true
      | some space => Text.sameFolded resource.space space)

/-- An item of a reported list of conditions has this type and is true. -/
def reports (type : String) (item : Json) : Bool :=
  match item.get "type", item.get "status" with
  | .str itemType, .str status => Text.sameFolded itemType type && status == "True"
  | _, _ => false

/-- The resource has a true condition of this type, of its own or in its feedback. -/
def hasTrue (resource : ResourceStatus) (type : String) : Bool :=
  resource.conditions.any (·.asserts type) ||
    ["conditions", "status.conditions"].any fun path =>
      (resource.resolve path).itemsOrNone.any (reports type)

/-- The resource passes a check; a missing feedback value passes none. -/
def passes (resource : ResourceStatus) : Check → Except ComparisonError Bool
  | .condition type => .ok (resource.hasTrue type)
  | .comparison path comparator literal =>
    match resource.resolve path with
    | .null => .ok false
    | actual => comparator.accepts actual literal

end ResourceStatus

/-- The first of the elements on which a test holds or fails decides; later ones are not tested. -/
def anyHolds {α ε : Type} (test : α → Except ε Bool) : List α → Except ε Bool
  | [] => .ok false
  | first :: rest =>
    match test first with
    | .ok true => .ok true
    | .ok false => anyHolds test rest
    | .error error => .error error

/-- The first of the elements on which a test does not hold decides; later ones are not tested. -/
def allHold {α ε : Type} (test : α → Except ε Bool) : List α → Except ε Bool
  | [] => .ok true
  | first :: rest =>
    match test first with
    | .ok true => allHold test rest
    | .ok false => .ok false
    | .error error => .error error

namespace Snapshot

/-- The snapshot satisfies one condition. -/
def satisfies (snapshot : Snapshot) : Term → Except ComparisonError Bool
  | .work type => .ok (snapshot.meets type)
  | .resource kind space name check =>
    anyHolds (·.passes check) <| snapshot.resources.filter fun resource =>
      resource.isSelected kind space name && resource.isFresh snapshot.appliedTime?

end Snapshot

inductive Connective where
  | and
  | or
  deriving DecidableEq, Repr

namespace Expression

/-- The value of an expression by the values of its terms, from left to right and no further than
needed. -/
def value {ε : Type} (term : Term → Except ε Bool) : Expression → Except ε Bool
  | .term t => term t
  | .and left right => do if ← left.value term then right.value term else return false
  | .or left right => do if ← left.value term then return true else right.value term

/-- The two sides of an expression that are joined by this connective. -/
def sides? : Connective → Expression → Option (Expression × Expression)
  | .and, .and left right => some (left, right)
  | .or, .or left right => some (left, right)
  | _, _ => none

theorem sizeOf_sides {connective : Connective} {e left right : Expression}
    (h : e.sides? connective = some (left, right)) : sizeOf left + sizeOf right < sizeOf e := by
  cases connective <;> cases e <;> cases h <;> simp +arith

/-- The operands of the chains of one connective, from left to right. The stack holds what is still
to be taken apart. -/
def operands (connective : Connective) : List Expression → List Expression
  | [] => []
  | e :: stack =>
    match h : e.sides? connective with
    | some (left, right) =>
      have := sizeOf_sides h
      -- The left side is on top, so operands come in the order of the text.
      operands connective (left :: right :: stack)
    | none => e :: operands connective stack
termination_by stack => stack.foldr (fun e size => sizeOf e + size) 0
decreasing_by
  · simp only [List.foldr_cons]
    omega
  · cases e <;> simp +arith

theorem operands_node {connective : Connective} {e left right : Expression}
    (h : e.sides? connective = some (left, right)) (stack : List Expression) :
    operands connective (e :: stack) = operands connective (left :: right :: stack) := by
  rw [operands]
  split
  · rename_i hsides
    rw [h] at hsides
    cases hsides
    rfl
  · rename_i hsides
    rw [h] at hsides
    cases hsides

theorem operands_leaf {connective : Connective} {e : Expression}
    (h : e.sides? connective = none) (stack : List Expression) :
    operands connective (e :: stack) = e :: operands connective stack := by
  rw [operands]
  split
  · rename_i hsides
    rw [h] at hsides
    cases hsides
  · rfl

/-- An operand is part of what was on the stack. -/
theorem exists_mem_of_mem_operands {connective : Connective} {stack : List Expression}
    {x : Expression} (h : x ∈ operands connective stack) : ∃ e ∈ stack, sizeOf x ≤ sizeOf e := by
  fun_induction operands connective stack with
  | case1 => cases h
  | case2 e stack left right hsides hsize ih =>
    obtain ⟨y, hmem, hle⟩ := ih h
    rcases List.mem_cons.mp hmem with rfl | hmem
    · exact ⟨e, List.mem_cons_self, by omega⟩
    · rcases List.mem_cons.mp hmem with rfl | hmem
      · exact ⟨e, List.mem_cons_self, by omega⟩
      · exact ⟨y, List.mem_cons_of_mem e hmem, hle⟩
  | case3 e stack hsides ih =>
    rcases List.mem_cons.mp h with rfl | hmem
    · exact ⟨x, List.mem_cons_self, Nat.le_refl _⟩
    · obtain ⟨y, hmem, hle⟩ := ih hmem
      exact ⟨y, List.mem_cons_of_mem e hmem, hle⟩

theorem sizeOf_lt_of_mem_operands {connective : Connective} {e left right x : Expression}
    (h : e.sides? connective = some (left, right)) (hx : x ∈ operands connective [e]) :
    sizeOf x < sizeOf e := by
  have hsize := sizeOf_sides h
  rw [operands_node h] at hx
  obtain ⟨y, hmem, hle⟩ := exists_mem_of_mem_operands hx
  rcases List.mem_cons.mp hmem with rfl | hmem
  · omega
  · cases List.mem_singleton.mp hmem
    omega

/-- The same value with a chain of one operator taken as a whole, so that a long chain is no deeper
than a short one. -/
def chainValue {ε : Type} (term : Term → Except ε Bool) : Expression → Except ε Bool
  | .term t => term t
  | .and left right =>
    allHold (fun ⟨operand, _⟩ => operand.chainValue term) (operands .and [.and left right]).attach
  | .or left right =>
    anyHolds (fun ⟨operand, _⟩ => operand.chainValue term) (operands .or [.or left right]).attach
termination_by e => sizeOf e
decreasing_by
  · rename_i h
    exact sizeOf_lt_of_mem_operands rfl h
  · rename_i h
    exact sizeOf_lt_of_mem_operands rfl h

end Expression

namespace Snapshot

def satisfiesTree (snapshot : Snapshot) (tree : Expression) : Except ComparisonError Bool :=
  tree.chainValue snapshot.satisfies

/-- The snapshot satisfies the expression that a text denotes; a text that denotes none is not
satisfied. -/
def evaluate (snapshot : Snapshot) (expression : String) : Except ComparisonError Bool :=
  match Expression.parse expression with
  | .ok tree => snapshot.satisfiesTree tree
  | .error _ => .ok false

end Snapshot

end WorkWatch
