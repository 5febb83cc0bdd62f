import WorkWatch.Json.Writer
import WorkWatch.Work.Snapshot

/-!
The description of a work for readers.
-/

namespace WorkWatch.Report

open WorkWatch.Text (intText natText)

def feedbackText : Json → String
  | .null => "None"
  | .bool value => if value then "true" else "false"
  | .int value => intText value
  | .float value => Decimal.fullText value
  | .str value => value
  | .arr items => (Json.arr items).compact
  | .obj members => (Json.obj members).compact

/-- A line that is left out when its text is empty. -/
def optionalLine (label text : String) : List String :=
  if text.isEmpty then [] else [label ++ text]

def conditionLines (condition : Condition) : List String :=
  ["  " ++ condition.type ++ ":", "    Status:  " ++ condition.status.text] ++
    optionalLine "    Reason:  " condition.reason ++
    optionalLine "    Message: " condition.message ++
    optionalLine "    LastTransitionTime: " condition.lastTransition

/-- One line per manifest, numbered from `index`. -/
def manifestLines (index : Nat) : List Manifest → List String
  | [] => []
  | manifest :: rest =>
    ("  [" ++ natText index ++ "] " ++ manifest.key) :: manifestLines (index + 1) rest

def resourceLines (resource : ResourceStatus) : List String :=
  ["  " ++ resource.displayName ++ ":"] ++ optionalLine "    Namespace: " resource.space ++
    resource.conditions.map (fun c => "    " ++ c.type ++ ": " ++ c.status.text) ++
    if resource.feedback.isEmpty then []
    else "    Feedback:" :: resource.feedback.map fun (name, value) =>
      "      " ++ name ++ ": " ++ feedbackText value.toJson

def describe (snapshot : Snapshot) : List String :=
  ["Name:         " ++ snapshot.name,
    "ID:           " ++ snapshot.id,
    "Consumer:     " ++ snapshot.consumer,
    "Version:      " ++ intText snapshot.version,
    "Created:      " ++ snapshot.created,
    "Updated:      " ++ snapshot.updated,
    "",
    "Conditions:"] ++
  (if snapshot.conditions.isEmpty then ["  (none)"] else []) ++
  snapshot.conditions.flatMap conditionLines ++
  ["", "Manifests (" ++ natText snapshot.manifests.length ++ "):"] ++
  manifestLines 0 snapshot.manifests ++
  (if snapshot.resources.isEmpty then []
    else ["", "Resource Status:"] ++ snapshot.resources.flatMap resourceLines) ++
  if snapshot.deleteOption.isEmpty then [] else ["", "Delete Option: " ++ snapshot.deleteOption]

end WorkWatch.Report
