import WorkWatch.Proofs.Json.Finite
import WorkWatch.Proofs.Results.Calls

/-! Whether other programs can read the results. All of the results document is made of texts, lists and
integers but the feedback values, which are written as they were reported; and an agent may report
infinite numbers and NaN, for which the standard has no words. -/

namespace WorkWatch

namespace Json

@[simp] theorem finiteMembers_append (front back : List (String × Json)) :
    finiteMembers (front ++ back) = (finiteMembers front && finiteMembers back) := by
  induction front with
  | nil => rfl
  | cons first rest ih => rw [List.cons_append, finiteMembers, ih, finiteMembers, Bool.and_assoc]

@[simp] theorem finiteMembers_textMember (name text : String) :
    finiteMembers (textMember name text) = true := by
  unfold textMember
  split <;> rfl

@[simp] theorem finiteMembers_ite (p : Prop) [Decidable p] (members : List (String × Json)) :
    finiteMembers (if p then [] else members) = (decide p || finiteMembers members) := by
  by_cases hp : p <;> simp [hp, finiteMembers]

end Json

open Json (finiteItems finiteItems_iff finiteMembers finiteMembers_iff)

theorem Condition.isFinite_toJson (withTime : Bool) (condition : Condition) :
    (condition.toJson withTime).isFinite = true := by
  cases withTime <;> simp [toJson, Json.isFinite, finiteMembers]

theorem finiteItems_conditions (withTime : Bool) (conditions : List Condition) :
    finiteItems (conditions.map (·.toJson withTime)) = true := by
  rw [finiteItems_iff]
  intro item hitem
  obtain ⟨condition, -, rfl⟩ := List.mem_map.mp hitem
  exact condition.isFinite_toJson withTime

/-- All numbers in the feedback are finite. -/
def ResourceStatus.FiniteFeedback (resource : ResourceStatus) : Prop :=
  ∀ entry ∈ resource.feedback, entry.2.toJson.isFinite = true

theorem ResourceStatus.finiteMembers_feedbackMember {resource : ResourceStatus} :
    finiteMembers resource.feedbackMember = true ↔ resource.FiniteFeedback := by
  have hjson : resource.feedbackJson.isFinite = true ↔ resource.FiniteFeedback := by
    unfold feedbackJson
    rw [Json.isFinite, finiteMembers_iff]
    exact List.forall_mem_map
  unfold feedbackMember
  cases hfeedback : resource.feedback with
  | nil =>
    refine iff_of_true rfl ?_
    unfold FiniteFeedback
    rw [hfeedback]
    nofun
  | cons first rest =>
    rw [← hjson]
    simp [finiteMembers]

namespace Outcome

theorem isFinite_resourceJson_iff {resource : ResourceStatus} :
    (resourceJson resource).isFinite = true ↔ resource.FiniteFeedback := by
  rw [← resource.finiteMembers_feedbackMember]
  simp [resourceJson, Json.isFinite, finiteMembers, finiteItems_conditions]

theorem finiteMembers_identityMembers (outcome : Outcome) :
    finiteMembers outcome.identityMembers = true := by
  unfold identityMembers
  cases outcome.snapshot with
  | none => rfl
  | some snapshot => simp [finiteMembers, Json.isFinite]

theorem finiteMembers_detailMembers_iff {snapshot : Snapshot} :
    finiteMembers (detailMembers snapshot) = true ↔
      ∀ resource ∈ snapshot.resources, resource.FiniteFeedback := by
  have hitems : finiteItems (snapshot.resources.map resourceJson) = true ↔
      ∀ resource ∈ snapshot.resources, resource.FiniteFeedback := by
    rw [finiteItems_iff, List.forall_mem_map]
    exact forall₂_congr fun _ _ => isFinite_resourceJson_iff
  unfold detailMembers
  cases hresources : snapshot.resources with
  | nil => simp [finiteMembers, Json.isFinite, finiteItems_conditions]
  | cons first rest =>
    rw [← hresources, ← hitems]
    simp [finiteMembers, Json.isFinite, finiteItems_conditions, hresources]

/-- The results document has the numbers of the feedback and otherwise only integers. -/
theorem isFinite_toJson_iff {outcome : Outcome} :
    outcome.toJson.isFinite = true ↔
      ∀ snapshot ∈ outcome.snapshot, ∀ resource ∈ snapshot.resources, resource.FiniteFeedback := by
  unfold toJson
  rw [Json.isFinite]
  cases hsnapshot : outcome.snapshot with
  | none => simp [finiteMembers, Json.isFinite, finiteMembers_identityMembers]
  | some snapshot =>
    simp [finiteMembers, Json.isFinite, finiteMembers_identityMembers,
      finiteMembers_detailMembers_iff]

theorem write_eq_ok {outcome : Outcome} {given : Option Path} {setting : Option String}
    {folder after : Folder} {path : Path}
    (h : outcome.write given setting folder = .ok (some path, after)) :
    ∃ file, after.file? path = some file ∧ file.text = outcome.text := by
  unfold write at h
  cases hpath : resultsPath given setting with
  | none =>
    rw [hpath] at h
    cases h
  | some chosen =>
    rw [hpath] at h
    dsimp only at h
    unfold Folder.write at h
    cases hlocate : folder.locate chosen with
    | error problem =>
      rw [hlocate] at h
      cases h
    | ok name =>
      rw [hlocate] at h
      cases h
      refine ⟨⟨folder.modeOf name, outcome.text⟩, ?_, rfl⟩
      rw [Folder.file?_of_locate (Folder.locate_eq_ok hlocate), Fields.get?_put_self]
      rfl

/-- The text that is left at the path is one of the JSON standard exactly if no feedback value holds
an infinite number or NaN. -/
theorem write_standard_iff {outcome : Outcome} {given : Option Path} {setting : Option String}
    {folder after : Folder} {path : Path}
    (h : outcome.write given setting folder = .ok (some path, after)) :
    ∃ file, after.file? path = some file ∧
      (Json.Standard.Document file.text.toList ↔
        ∀ snapshot ∈ outcome.snapshot, ∀ resource ∈ snapshot.resources,
          ∀ entry ∈ resource.feedback, entry.2.toJson.isFinite = true) := by
  obtain ⟨file, hfile, htext⟩ := write_eq_ok h
  refine ⟨file, hfile, ?_⟩
  rw [htext]
  exact Json.document_spaced_iff.trans isFinite_toJson_iff

/-- A job that reports a fraction, and a document that holds the word for NaN in a string. -/
theorem write_standard_iff_job :
    let job : ResourceStatus := ⟨"Job", "pi", "ops", "batch", "v1", "jobs", [],
      [("load", .document (.float 0.5)), ("note", .document (.arr [.str "NaN", .int (-3)]))]⟩
    let snapshot : Snapshot := ⟨"b-1", "web", "cluster1", 3, "", "", [], [], [job], ""⟩
    let outcome : Outcome := .ofPoll "web" "cluster1" "Available" (.ofSeconds 60) snapshot true
    let after : Folder := [("r.json", ⟨0o644, outcome.text⟩)]
    outcome.write (some (Path.parse "r.json")) none [("r.json", ⟨0o644, "old"⟩)] =
        .ok (some (Path.parse "r.json"), after) ∧
      ∃ file, after.file? (Path.parse "r.json") = some file ∧
        Json.Standard.Document file.text.toList := by
  intro job snapshot outcome after
  have hwrite : outcome.write (some (Path.parse "r.json")) none [("r.json", ⟨0o644, "old"⟩)] =
      .ok (some (Path.parse "r.json"), after) := rfl
  obtain ⟨file, hfile, hstandard⟩ := write_standard_iff hwrite
  refine ⟨hwrite, file, hfile, hstandard.mpr ?_⟩
  have hfeedback : ∀ entry ∈ job.feedback, entry.2.toJson.isFinite = true := by decide +kernel
  rintro _ ⟨⟩ resource hresource
  rw [List.mem_singleton.mp hresource]
  exact hfeedback

/-- The text that is left for a work whose bundle is given as text. -/
def textFor (bundle : String) : Option String := do
  let document ← (Json.parse bundle).toOption
  let snapshot ← (Snapshot.ofBundle "c" document).toOption
  let outcome : Outcome := ⟨"web", "c", "Applied", "", .ofSeconds 60, some snapshot⟩
  let (_, folder) ← (outcome.write (some (Path.parse "r.json")) none []).toOption
  let file ← folder.file? (Path.parse "r.json")
  return file.text

/-- A document with NaN in it is written with a word that the standard does not have. -/
theorem write_not_standard :
    ∃ text, textFor ("\x7b\"status\":\x7b\"resourceStatus\":[\x7b\"statusFeedback\":\x7b\"values\":" ++
        "[\x7b\"name\":\"doc\",\"fieldValue\":\x7b\"jsonRaw\":\"[1, NaN]\"\x7d\x7d]\x7d\x7d]\x7d\x7d") =
        some text ∧
      ¬ Json.Standard.Document text.toList := by
  refine ⟨"\x7b\"name\": \"web\", \"consumer\": \"c\", \"status\": \"Applied\", " ++
    "\"message\": \"\", \"timestamp\": \"1970-01-01T00:01:00+00:00\", " ++
    "\"resources\": [\x7b\"name\": \"\", \"kind\": \"\", \"status\": \"Unknown\", " ++
    "\"statusFeedback\": \x7b\"doc\": [1, NaN]\x7d\x7d]\x7d", by decide +kernel, fun h => ?_⟩
  exact absurd h.bare_not_foreign (by decide +kernel)

end Outcome

end WorkWatch
