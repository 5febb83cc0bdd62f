import WorkWatch.Text.Quoted

/-!
Condition expressions. A term asks for a condition of the work itself or for a check on its
resources; terms are joined by AND and OR.
-/

namespace WorkWatch

inductive Order where
  | atLeast
  | atMost
  | above
  | below
  deriving DecidableEq, Repr

inductive Comparator where
  | ordered (order : Order)
  | equal
  deriving DecidableEq, Repr

/-- What is asked of a resource. -/
inductive Check where
  /-- A condition of this type is true. -/
  | condition (name : String)
  /-- The feedback value at the path compares so with the literal. -/
  | comparison (path : String) (comparator : Comparator) (literal : String)
  deriving DecidableEq, Repr

/-- One condition of an expression. -/
inductive Term where
  /-- A condition of the work. -/
  | work (type : String)
  /-- A check on some resource of the kind, of a namespace and a name when these are given. -/
  | resource (kind : String) (space name : Option String) (check : Check)
  deriving DecidableEq, Repr

inductive Expression where
  | term (term : Term)
  | and (left right : Expression)
  | or (left right : Expression)
  deriving DecidableEq, Repr

def Comparator.sign : Comparator → String
  | .ordered .atLeast => ">="
  | .ordered .atMost => "<="
  | .ordered .above => ">"
  | .ordered .below => "<"
  | .equal => "="

/-- The comparators in the order in which their signs are looked for: a longer sign comes before
those it contains. -/
def Comparator.all : List Comparator :=
  [.ordered .atLeast, .ordered .atMost, .ordered .above, .ordered .below, .equal]

/-- How deep parentheses may be nested. -/
def maxNesting : Nat := 64

inductive ExpressionError where
  | emptyExpression
  | endsEarly
  | unexpected (text : String) (position : Nat)
  | tooDeep (position : Nat)
  | unbalanced (position : Nat)
  | emptyCondition
  | missingKind (text : String)
  | emptyCheck
  | missingPath (text : String)
  deriving DecidableEq, Repr

open Text in
def ExpressionError.message : ExpressionError → String
  | .emptyExpression => "empty expression"
  | .endsEarly => "expression ends where a condition is expected"
  | .unexpected text position => "unexpected " ++ quoted text ++ " at position " ++ natText position
  | .tooDeep position => "parentheses nested deeper than " ++ natText maxNesting ++
      " levels at position " ++ natText position
  | .unbalanced position => "unbalanced '(' at position " ++ natText position
  | .emptyCondition => "empty condition"
  | .missingKind text => "missing resource kind in " ++ quoted text
  | .emptyCheck => "empty resource check"
  | .missingPath text => "missing field path in " ++ quoted text

end WorkWatch
