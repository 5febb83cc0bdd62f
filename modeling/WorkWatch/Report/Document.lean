import WorkWatch.Json.Writer
import WorkWatch.Work.Snapshot
import WorkWatch.Yaml.Block

/-!
Works as structured documents, and documents as JSON or YAML text. Members that would be empty are
left out where their absence says the same.
-/

namespace WorkWatch

/-- A member that is left out when its text is empty. -/
def Json.textMember (name text : String) : List (String × Json) :=
  if text.isEmpty then [] else [(name, .str text)]

/-- A condition, with the time of its last transition if asked for. -/
def Condition.toJson (withTime : Bool) (condition : Condition) : Json :=
  .obj ([("type", .str condition.type), ("status", .str condition.status.text)] ++
    Json.textMember "reason" condition.reason ++ Json.textMember "message" condition.message ++
    if withTime then Json.textMember "lastTransitionTime" condition.lastTransition else [])

def Manifest.toJson (manifest : Manifest) : Json :=
  .obj ([("kind", .str manifest.kind), ("name", .str manifest.name)] ++
    Json.textMember "namespace" manifest.space)

namespace ResourceStatus

def feedbackJson (resource : ResourceStatus) : Json :=
  .obj (resource.feedback.map fun (name, value) => (name, value.toJson))

/-- The member that holds the feedback, left out when there is none. -/
def feedbackMember (resource : ResourceStatus) : List (String × Json) :=
  if resource.feedback.isEmpty then [] else [("statusFeedback", resource.feedbackJson)]

def toJson (resource : ResourceStatus) : Json :=
  .obj ([("kind", .str resource.kind), ("name", .str resource.name)] ++
    Json.textMember "namespace" resource.space ++ Json.textMember "group" resource.group ++
    Json.textMember "version" resource.version ++ Json.textMember "resource" resource.resource ++
    [("conditions", .arr (resource.conditions.map (·.toJson true)))] ++ resource.feedbackMember)

end ResourceStatus

def Snapshot.toJson (snapshot : Snapshot) : Json :=
  .obj ([("id", .str snapshot.id), ("name", .str snapshot.name),
      ("consumerName", .str snapshot.consumer), ("version", .int snapshot.version),
      ("createdAt", .str snapshot.created), ("updatedAt", .str snapshot.updated),
      ("manifests", .arr (snapshot.manifests.map Manifest.toJson)),
      ("conditions", .arr (snapshot.conditions.map (·.toJson true)))] ++
    (if snapshot.resources.isEmpty then []
      else [("resourceStatus", .arr (snapshot.resources.map ResourceStatus.toJson))]) ++
    Json.textMember "deleteOption" snapshot.deleteOption)

def Summary.toJson (work : Summary) : Json :=
  .obj [("id", .str work.id), ("name", .str work.name), ("consumerName", .str work.consumer),
    ("version", .int work.version), ("createdAt", .str work.created),
    ("updatedAt", .str work.updated), ("manifestCount", .int work.manifests.length),
    ("manifests", .arr (work.manifests.map Manifest.toJson)),
    ("conditions", .arr (work.conditions.map (·.toJson true)))]

namespace Report

/-- The text of a document, indented JSON if asked for and YAML otherwise. -/
def dump (asJson : Bool) (document : Json) : String :=
  if asJson then document.indented else Yaml.document document

end Report

end WorkWatch
