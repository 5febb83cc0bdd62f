import WorkWatch.Decimal.Layout
import WorkWatch.Decimal.Read
import WorkWatch.Expression.Basic
import WorkWatch.Json.Writer
import WorkWatch.Text.Case

/-!
Comparing a feedback value with the literal of an expression: as numbers, or for equality as text.
-/

namespace WorkWatch

/-- Why a comparison has no answer: an integer too large for a double. -/
inductive ComparisonError where
  | integerTooLarge
  deriving DecidableEq, Repr

def Order.compare : Order → Float → Float → Bool
  | .atLeast, a, b => b ≤ a
  | .atMost, a, b => a ≤ b
  | .above, a, b => b < a
  | .below, a, b => a < b

/-- The text of a value for equality: JSON documents without blanks and with members in the order
of their names, and whole doubles without a point. -/
def comparedText : Json → String
  | .null => "None"
  | .bool value => if value then "True" else "False"
  | .int value => Text.intText value
  | .float value =>
    if Decimal.isWhole value then
      match Decimal.truncated value with
      | .ok whole => Text.intText whole
      | .error _ => Decimal.fullText value
    else Decimal.fullText value
  | .str value => value
  | .arr items => (Json.arr items).sorted.compact
  | .obj members => (Json.obj members).sorted.compact

/-- A value equals a literal: texts up to case, booleans as the words `true` and `false`, doubles
as numbers where the literal is one, and everything else by its text. -/
def equalsLiteral (actual : Json) (literal : String) : Bool :=
  match actual with
  | .str value => Text.sameFolded value literal
  | .bool value => (if value then "true" else "false") == literal
  | .float value =>
    -- A literal that is no number can still be the text of the value.
    match Decimal.readFloat? literal with
    | some number => value == number
    | none => comparedText actual == literal
  | _ => comparedText actual == literal

/-- The number of a value: that of a number itself or of a text which denotes one. -/
def numberOf : Json → Except ComparisonError (Option Float)
  | .int value =>
    match Decimal.ofInt? value with
    | some number => .ok (some number)
    | none => .error .integerTooLarge
  | .float value => .ok (some value)
  | .str value => .ok (Decimal.readFloat? value)
  | _ => .ok none

/-- A value relates to a literal as numbers do; nothing relates to what is no number. -/
def comparesNumber (relation : Float → Float → Bool) (actual : Json) (literal : String) :
    Except ComparisonError Bool := do
  match ← numberOf actual with
  | none => return false
  | some number =>
    match Decimal.readFloat? literal with
    | none => return false
    | some bound => return relation number bound

def Comparator.accepts (comparator : Comparator) (actual : Json) (literal : String) :
    Except ComparisonError Bool :=
  match comparator with
  | .equal => .ok (equalsLiteral actual literal)
  | .ordered order => comparesNumber order.compare actual literal

end WorkWatch
