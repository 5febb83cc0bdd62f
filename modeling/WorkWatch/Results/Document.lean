import WorkWatch.Report.Document
import WorkWatch.Time.Clock

/-!
The results document that tells other programs how an operation on a work stands.
-/

namespace WorkWatch

/-- The first of the types Available and Applied that a true condition has, else `Unknown`. -/
def resourceState (conditions : List Condition) : String :=
  match conditions.find? fun c => c.isTrue && (c.type = availableType || c.type = appliedType) with
  | some condition => condition.type
  | none => "Unknown"

/-- An operation on a work with its state, a message, and the snapshot it rests on. -/
structure Outcome where
  name : String
  consumer : String
  status : String
  message : String
  time : Time.Timestamp
  snapshot : Option Snapshot

namespace Outcome

def resourceJson (resource : ResourceStatus) : Json :=
  .obj ([("name", .str resource.name), ("kind", .str resource.kind),
      ("status", .str (resourceState resource.conditions))] ++
    Json.textMember "namespace" resource.space ++ Json.textMember "group" resource.group ++
    Json.textMember "version" resource.version ++
    (if resource.conditions.isEmpty then []
      else [("conditions", .arr (resource.conditions.map (·.toJson false)))]) ++
    resource.feedbackMember)

/-- The members that come before the state: those of the snapshot surround name and consumer. -/
def identityMembers (outcome : Outcome) : List (String × Json) :=
  let named := [("name", .str outcome.name), ("consumer", .str outcome.consumer)]
  match outcome.snapshot with
  | none => named
  | some snapshot =>
    Json.textMember "id" snapshot.id ++ named ++
      (if snapshot.version = 0 then [] else [("version", .int snapshot.version)]) ++
      Json.textMember "createdAt" snapshot.created ++ Json.textMember "updatedAt" snapshot.updated

/-- The members about conditions and resources, left out when there are none. -/
def detailMembers (snapshot : Snapshot) : List (String × Json) :=
  (if snapshot.conditions.isEmpty then []
    else [("conditions", .arr (snapshot.conditions.map (·.toJson true)))]) ++
  if snapshot.resources.isEmpty then []
    else [("resources", .arr (snapshot.resources.map resourceJson))]

def toJson (outcome : Outcome) : Json :=
  .obj (outcome.identityMembers ++
    [("status", .str outcome.status), ("message", .str outcome.message),
      ("timestamp", .str outcome.time.text)] ++
    (outcome.snapshot.map detailMembers).getD [])

def text (outcome : Outcome) : String := outcome.toJson.spaced

end Outcome

end WorkWatch
