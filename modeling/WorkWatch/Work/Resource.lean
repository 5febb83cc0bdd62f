import WorkWatch.Work.Condition
import WorkWatch.Work.Feedback
import WorkWatch.Text.Split

/-!
The status of one resource of a work: what it is, its conditions and its feedback values.
-/

namespace WorkWatch

structure ResourceStatus where
  kind : String
  name : String
  space : String
  group : String
  version : String
  resource : String
  conditions : List Condition
  feedback : Fields FeedbackValue

namespace ResourceStatus

def ofJson (document : Json) : Except BundleProblem ResourceStatus := do
  let identity := document.get "resourceMeta"
  let feedback ← FeedbackValue.ofStatus (document.get "statusFeedback")
  return {
    kind := identity.textOf "kind"
    name := identity.textOf "name"
    space := identity.textOf "namespace"
    group := identity.textOf "group"
    version := identity.textOf "version"
    resource := identity.textOf "resource"
    conditions := Condition.listOf (document.get "conditions")
    feedback }

def displayName (resource : ResourceStatus) : String := resource.kind ++ "/" ++ resource.name

/-- Follows member names into a document; null where a step is not possible. -/
def descend (document : Json) (path : List String) : Json :=
  path.foldl (fun value name => value.get name) document

def segments (path : String) : List String :=
  (Text.pieces '.' path.toList).map String.ofList

/-- The value that a path leads to: its first segment names a feedback value and the others are
member names. Null when the path leads nowhere. -/
def resolve (resource : ResourceStatus) (path : String) : Json :=
  match segments path with
  | [] => .null
  | first :: rest =>
    match resource.feedback.get? first with
    | none => .null
    | some value => descend value.toJson rest

end ResourceStatus

end WorkWatch
