import WorkWatch.Expression.Term
import WorkWatch.Expression.Token

/-!
The parser of condition expressions. It reads token after token; its state holds the groups that
are open and the operands read so far, so that AND binds tighter than OR, both to the left.
-/

namespace WorkWatch

namespace Parser

/-- What stands before an operand: the alternatives before the last OR, and the factors before the
last AND. -/
structure Before where
  alternatives : Option Expression
  factors : Option Expression
  deriving DecidableEq, Repr

def Before.nothing : Before := ⟨none, none⟩

def Before.conjoin (before : Before) (operand : Expression) : Expression :=
  match before.factors with
  | none => operand
  | some factors => .and factors operand

def disjoin (alternatives : Option Expression) (factors : Expression) : Expression :=
  match alternatives with
  | none => factors
  | some alternatives => .or alternatives factors

/-- An open parenthesis: its position, and what stands before it. -/
structure Group where
  position : Nat
  before : Before
  deriving DecidableEq, Repr

/-- Between two tokens either an operand or an operator comes next. Groups are listed from the
innermost. -/
inductive State where
  | operand (groups : List Group) (before : Before)
  | operator (groups : List Group) (alternatives : Option Expression) (factors : Expression)
  deriving DecidableEq, Repr

def start : State := .operand [] .nothing

def step : State → Token → Except ExpressionError State
  | .operand groups before, token =>
    match token.kind with
    | .leftParen =>
      if maxNesting ≤ groups.length then .error (.tooDeep token.position)
      else .ok (.operand (⟨token.position, before⟩ :: groups) .nothing)
    | .condition =>
      (Term.parse token.text).map fun term =>
        .operator groups before.alternatives (before.conjoin (.term term))
    | _ => .error (.unexpected token.text token.position)
  | .operator groups alternatives factors, token =>
    match token.kind, groups with
    | .and, _ => .ok (.operand groups ⟨alternatives, some factors⟩)
    | .or, _ => .ok (.operand groups ⟨some (disjoin alternatives factors), none⟩)
    | .rightParen, group :: outer =>
      .ok (.operator outer group.before.alternatives
        (group.before.conjoin (disjoin alternatives factors)))
    | _, [] => .error (.unexpected token.text token.position)
    | _, group :: _ => .error (.unbalanced group.position)

/-- The expression at the end of the tokens. -/
def finish : State → Except ExpressionError Expression
  | .operand .. => .error .endsEarly
  | .operator [] alternatives factors => .ok (disjoin alternatives factors)
  | .operator (group :: _) .. => .error (.unbalanced group.position)

def run (state : State) : List Token → Except ExpressionError State
  | [] => .ok state
  | token :: rest =>
    match step state token with
    | .ok next => run next rest
    | .error error => .error error

end Parser

def Expression.ofTokens (tokens : List Token) : Except ExpressionError Expression :=
  if tokens.isEmpty then .error .emptyExpression
  else
    match Parser.run Parser.start tokens with
    | .ok state => Parser.finish state
    | .error error => .error error

/-- Reads an expression; positions in errors count from the first character that is not blank. -/
def Expression.parse (source : String) : Except ExpressionError Expression :=
  Expression.ofTokens (Token.tokenize (Text.strip source.toList))

end WorkWatch
