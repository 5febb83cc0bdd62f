import WorkWatch.Report.Document

/-! The structured description of a work can be read back. A member is left out of it where its text or
its list is empty, and this is also what is read where a member is missing; so nothing about the
snapshot is lost but the kinds of its feedback values, which are described by the values alone. -/

namespace WorkWatch

namespace Json

/-! Look-ups among members of which some may be left out. -/

section Members

variable {key name : String} {rest : List (String × Json)}

@[simp] theorem get_nil (name : String) : get name (.obj []) = .null := rfl

@[simp] theorem get_cons_self (name : String) (value : Json) (rest : List (String × Json)) :
    get name (.obj ((name, value) :: rest)) = value := by
  simp [get, get?, Fields.get?]

@[simp] theorem get_cons_of_ne (h : key ≠ name) (value : Json) :
    get name (.obj ((key, value) :: rest)) = get name (.obj rest) := by
  simp [get, get?, Fields.get?, h]

@[simp] theorem get_textMember_of_ne (h : key ≠ name) (text : String) :
    get name (.obj (textMember key text ++ rest)) = get name (.obj rest) := by
  unfold textMember
  split
  · rfl
  · exact get_cons_of_ne h _

@[simp] theorem textOf_nil (name : String) : textOf name (.obj []) = "" := by
  simp [textOf, str?]

@[simp] theorem textOf_cons_self (name text : String) (rest : List (String × Json)) :
    textOf name (.obj ((name, .str text) :: rest)) = text := by
  simp [textOf, str?]

@[simp] theorem textOf_cons_of_ne (h : key ≠ name) (value : Json) :
    textOf name (.obj ((key, value) :: rest)) = textOf name (.obj rest) := by
  simp [textOf, h]

@[simp] theorem textOf_textMember_of_ne (h : key ≠ name) (text : String) :
    textOf name (.obj (textMember key text ++ rest)) = textOf name (.obj rest) := by
  simp [textOf, h]

@[simp] theorem textOf_textMember (text : String) (h : textOf key (.obj rest) = "") :
    textOf key (.obj (textMember key text ++ rest)) = text := by
  unfold textMember
  split
  · rename_i hempty
    exact h.trans (String.isEmpty_iff.mp hempty).symm
  · exact textOf_cons_self key text rest

end Members

end Json

open Json (textMember)

theorem ConditionStatus.ofJson_text (status : ConditionStatus) :
    ofJson (.str status.text) = status := by
  cases status <;> rfl

theorem Condition.toJson_eq (condition : Condition) : condition.toJson true =
    .obj (("type", .str condition.type) :: ("status", .str condition.status.text) ::
      (textMember "reason" condition.reason ++ (textMember "message" condition.message ++
        (textMember "lastTransitionTime" condition.lastTransition ++ [])))) := by
  simp [toJson]

theorem Condition.ofJson_toJson (condition : Condition) :
    ofJson (condition.toJson true) = condition := by
  rw [toJson_eq]
  simp [ofJson, ConditionStatus.ofJson_text, -List.append_nil]

namespace Manifest

def ofDescription (document : Json) : Manifest where
  kind := document.textOf "kind"
  space := document.textOf "namespace"
  name := document.textOf "name"

theorem ofDescription_toJson (manifest : Manifest) : ofDescription manifest.toJson = manifest := by
  have hjson : manifest.toJson = .obj (("kind", .str manifest.kind) ::
      ("name", .str manifest.name) :: (textMember "namespace" manifest.space ++ [])) := by
    simp [toJson]
  rw [hjson]
  simp [ofDescription, -List.append_nil]

end Manifest

/-- The value alone, whatever its kind. -/
def FeedbackValue.untagged (value : FeedbackValue) : FeedbackValue := .document value.toJson

namespace ResourceStatus

/-- The status with the kinds of the feedback values forgotten. -/
def untagged (resource : ResourceStatus) : ResourceStatus :=
  { resource with feedback := resource.feedback.map fun (name, value) => (name, value.untagged) }

def ofDescription (document : Json) : ResourceStatus where
  kind := document.textOf "kind"
  name := document.textOf "name"
  space := document.textOf "namespace"
  group := document.textOf "group"
  version := document.textOf "version"
  resource := document.textOf "resource"
  conditions := (document.get "conditions").itemsOrNone.map Condition.ofJson
  feedback := (document.get "statusFeedback").membersOrNone.map fun (name, value) =>
    (name, .document value)

theorem get_feedbackMember (resource : ResourceStatus) :
    (Json.get "statusFeedback" (.obj resource.feedbackMember)).membersOrNone =
      resource.feedback.map fun (name, value) => (name, value.toJson) := by
  unfold feedbackMember
  split
  · rename_i hempty
    rw [List.isEmpty_iff.mp hempty]
    rfl
  · rw [Json.get_cons_self]
    rfl

theorem textOf_feedbackMember {name : String} (h : "statusFeedback" ≠ name)
    (resource : ResourceStatus) : Json.textOf name (.obj resource.feedbackMember) = "" := by
  unfold feedbackMember
  split
  · rfl
  · simp [h]

theorem ofDescription_toJson (resource : ResourceStatus) :
    ofDescription resource.toJson = resource.untagged := by
  have hjson : resource.toJson = .obj (("kind", .str resource.kind) ::
      ("name", .str resource.name) :: (textMember "namespace" resource.space ++
        (textMember "group" resource.group ++ (textMember "version" resource.version ++
          (textMember "resource" resource.resource ++
            ("conditions", .arr (resource.conditions.map (·.toJson true))) ::
              resource.feedbackMember))))) := by
    simp [toJson]
  rw [hjson]
  simp [ofDescription, untagged, textOf_feedbackMember, get_feedbackMember, Json.itemsOrNone,
    Json.items?, Function.comp_def, Condition.ofJson_toJson, FeedbackValue.untagged]

theorem toJson_untagged (resource : ResourceStatus) :
    resource.untagged.toJson = resource.toJson := by
  simp [toJson, untagged, feedbackMember, feedbackJson, Function.comp_def, FeedbackValue.untagged,
    FeedbackValue.toJson]

end ResourceStatus

namespace Snapshot

/-- The snapshot with the kinds of the feedback values forgotten. -/
def untagged (snapshot : Snapshot) : Snapshot :=
  { snapshot with resources := snapshot.resources.map ResourceStatus.untagged }

/-- The snapshot that a description tells of. -/
def ofDescription (document : Json) : Snapshot where
  id := document.textOf "id"
  name := document.textOf "name"
  consumer := document.textOf "consumerName"
  version := match document.get "version" with
    | .int version => version
    | _ => 0
  created := document.textOf "createdAt"
  updated := document.textOf "updatedAt"
  manifests := (document.get "manifests").itemsOrNone.map Manifest.ofDescription
  conditions := (document.get "conditions").itemsOrNone.map Condition.ofJson
  resources := (document.get "resourceStatus").itemsOrNone.map ResourceStatus.ofDescription
  deleteOption := document.textOf "deleteOption"

/-- The member that holds the resources, left out when there are none. -/
def resourceMember (snapshot : Snapshot) : List (String × Json) :=
  if snapshot.resources.isEmpty then []
  else [("resourceStatus", .arr (snapshot.resources.map ResourceStatus.toJson))]

theorem toJson_eq (snapshot : Snapshot) : snapshot.toJson =
    .obj (("id", .str snapshot.id) :: ("name", .str snapshot.name) ::
      ("consumerName", .str snapshot.consumer) :: ("version", .int snapshot.version) ::
      ("createdAt", .str snapshot.created) :: ("updatedAt", .str snapshot.updated) ::
      ("manifests", .arr (snapshot.manifests.map Manifest.toJson)) ::
      ("conditions", .arr (snapshot.conditions.map (·.toJson true))) ::
      (snapshot.resourceMember ++ (textMember "deleteOption" snapshot.deleteOption ++ []))) := by
  simp [toJson, resourceMember]

theorem get_resourceStatus (snapshot : Snapshot) :
    (snapshot.toJson.get "resourceStatus").itemsOrNone =
      snapshot.resources.map ResourceStatus.toJson := by
  rw [toJson_eq]
  unfold resourceMember
  split
  · rename_i hempty
    rw [List.isEmpty_iff.mp hempty]
    simp [Json.itemsOrNone, Json.items?, -List.append_nil]
  · simp [Json.itemsOrNone, Json.items?]

theorem textOf_deleteOption (snapshot : Snapshot) :
    snapshot.toJson.textOf "deleteOption" = snapshot.deleteOption := by
  rw [toJson_eq]
  unfold resourceMember
  split <;> simp [-List.append_nil]

/-- A description tells of its snapshot, up to the kinds of the feedback values. -/
theorem ofDescription_toJson (snapshot : Snapshot) :
    ofDescription snapshot.toJson = snapshot.untagged := by
  unfold ofDescription
  rw [get_resourceStatus, textOf_deleteOption, toJson_eq]
  simp [untagged, Json.itemsOrNone, Json.items?, Function.comp_def, Manifest.ofDescription_toJson,
    Condition.ofJson_toJson, ResourceStatus.ofDescription_toJson]

theorem toJson_untagged (snapshot : Snapshot) : snapshot.untagged.toJson = snapshot.toJson := by
  simp [toJson, untagged, Function.comp_def, ResourceStatus.toJson_untagged]

/-- Two snapshots have the same description exactly if they agree in everything but the kinds of their
feedback values. -/
theorem toJson_eq_iff {a b : Snapshot} : a.toJson = b.toJson ↔ a.untagged = b.untagged := by
  constructor
  · intro h
    rw [← ofDescription_toJson a, h, ofDescription_toJson b]
  · intro h
    rw [← toJson_untagged a, h, toJson_untagged b]

end Snapshot

end WorkWatch
