import WorkWatch.Expression.Basic
import WorkWatch.Text.Blank
import WorkWatch.Text.Split

/-!
Reading one condition: `Type`, or `Kind`, `Kind/name` or `Kind/namespace/name` with a check after
a colon. A check is the type of a condition, or a path, a comparison sign and a literal.
-/

namespace WorkWatch

open Text

def trimmed (s : List Char) : String := String.ofList (strip s)

/-- A segment of a selector; an empty one leaves the choice open. -/
def segment (s : List Char) : Option String :=
  let text := strip s
  if text.isEmpty then none else some (String.ofList text)

/-- The first comparator, in the order of `Comparator.all`, whose sign stands in a text, with the
text before and after the sign. -/
def Comparator.find? (text : List Char) : Option (Comparator × List Char × List Char) :=
  Comparator.all.findSome? fun comparator =>
    (cut? comparator.sign.toList text).map fun (before, after) => (comparator, before, after)

def Check.parse (text : String) : Except ExpressionError Check :=
  if text.isEmpty then .error .emptyCheck
  else
    match Comparator.find? text.toList with
    | none => .ok (.condition text)
    | some (comparator, before, after) =>
      let path := trimmed before
      if path.isEmpty then .error (.missingPath text)
      else .ok (.comparison path comparator (trimmed after))

def Term.parse (text : String) : Except ExpressionError Term :=
  let text := strip text.toList
  if text.isEmpty then .error .emptyCondition
  else
    match cut? [':'] text with
    | none => .ok (.work (String.ofList text))
    | some (selector, check) =>
      let segments := pieces '/' (strip selector)
      let kind := trimmed (segments.headD [])
      if kind.isEmpty then .error (.missingKind (String.ofList text))
      else
        let (space, name) :=
          match segments.drop 1 with
          | [] => (none, none)
          | [name] => (none, segment name)
          | space :: name :: _ => (segment space, segment name)
        (Check.parse (trimmed check)).map (.resource kind space name)

end WorkWatch
