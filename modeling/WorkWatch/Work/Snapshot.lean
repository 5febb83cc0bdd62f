import WorkWatch.Work.Resource

/-!
What a resource bundle tells about a work: a snapshot of its status with that of every resource,
and a summary for lists.
-/

namespace WorkWatch

structure Manifest where
  kind : String
  space : String
  name : String
  deriving DecidableEq, Repr

namespace Manifest

def ofJson (document : Json) : Manifest where
  kind := document.textOf "kind"
  space := (document.get "metadata").textOf "namespace"
  name := (document.get "metadata").textOf "name"

/-- The manifests of a list; what is not an object is skipped. -/
def listOf (list : Json) : List Manifest := (list.itemsOrNone.filter Json.isObject).map ofJson

/-- Kind, namespace if there is one, and name. -/
def key (manifest : Manifest) : String :=
  if manifest.space.isEmpty then manifest.kind ++ "/" ++ manifest.name
  else manifest.kind ++ "/" ++ manifest.space ++ "/" ++ manifest.name

end Manifest

/-- A work as it is listed. -/
structure Summary where
  id : String
  name : String
  consumer : String
  version : Int
  created : String
  updated : String
  manifests : List Manifest
  conditions : List Condition
  deriving DecidableEq, Repr

/-- A work with the status of its resources at one time. -/
structure Snapshot where
  id : String
  name : String
  consumer : String
  version : Int
  created : String
  updated : String
  manifests : List Manifest
  conditions : List Condition
  resources : List ResourceStatus
  deleteOption : String

/-- The name of the work that a bundle holds. -/
def bundleName (bundle : Json) : String := (bundle.get "metadata").textOf "name"

/-- The version of a bundle: a number without its fraction, zero when it is no number. -/
def versionOf : Json → Except BundleProblem Int
  | .int value => .ok value
  | .float value => FeedbackValue.whole value
  | _ => .ok 0

def Summary.ofBundle (consumer : String) (bundle : Json) : Except BundleProblem Summary := do
  let id := bundle.textOf "id"
  let name := bundleName bundle
  return {
    id
    -- A list shows the identifier of a work without a name; a snapshot leaves the name empty.
    name := if name.isEmpty then id else name
    consumer
    version := ← versionOf (bundle.get "version")
    created := bundle.textOf "created_at"
    updated := bundle.textOf "updated_at"
    manifests := Manifest.listOf (bundle.get "manifests")
    conditions := Condition.listOf ((bundle.get "status").get "conditions") }

namespace Snapshot

def ofBundle (consumer : String) (bundle : Json) : Except BundleProblem Snapshot := do
  let status := bundle.get "status"
  let version ← versionOf (bundle.get "version")
  let resources ←
    ((status.get "resourceStatus").itemsOrNone.filter Json.isObject).mapM ResourceStatus.ofJson
  return {
    id := bundle.textOf "id"
    name := bundleName bundle
    consumer
    version
    created := bundle.textOf "created_at"
    updated := bundle.textOf "updated_at"
    manifests := Manifest.listOf (bundle.get "manifests")
    conditions := Condition.listOf (status.get "conditions")
    resources
    deleteOption := (bundle.get "delete_option").textOf "propagationPolicy" }

/-- The last condition of a type, up to case, that is true. -/
def find? (type : String) (snapshot : Snapshot) : Option Condition :=
  snapshot.conditions.reverse.find? (·.asserts type)

end Snapshot

end WorkWatch
