import Mathlib.Logic.Relation
import WorkWatch.Proofs.Work.Bundle

/-! Malformed fragments of bundles. What is put into a list of a bundle and cannot be read there is
passed over: the bundle is read as without it, to the same snapshot and the same summary, or with
the same problem. One fragment is followed through the levels of the bundle; any number of them is
a chain of single ones. -/

namespace WorkWatch

theorem Fields.get?_append {α : Type} (name : String) (fields more : Fields α) :
    Fields.get? name (fields ++ more) = (Fields.get? name fields).or (Fields.get? name more) := by
  induction fields with
  | nil => rfl
  | cons entry fields ih =>
    obtain ⟨key, value⟩ := entry
    rw [List.cons_append, get?, get?]
    split
    · rfl
    · exact ih

namespace Json

/-- One item that is junk is put into an array. -/
inductive Inserts (junk : Json → Prop) : Json → Json → Prop
  | intro (before after : List Json) {item : Json} (h : junk item) :
      Inserts junk (.arr (before ++ after)) (.arr (before ++ item :: after))

/-- One item of an array changes. -/
inductive ChangesItem (change : Json → Json → Prop) : Json → Json → Prop
  | intro (before after : List Json) {old new : Json} (h : change old new) :
      ChangesItem change (.arr (before ++ old :: after)) (.arr (before ++ new :: after))

/-- One member of an object changes. -/
inductive ChangesMember (name : String) (change : Json → Json → Prop) : Json → Json → Prop
  | intro (before after : List (String × Json)) {old new : Json} (h : change old new) :
      ChangesMember name change (.obj (before ++ (name, old) :: after))
        (.obj (before ++ (name, new) :: after))

section Changes

variable {change : Json → Json → Prop} {name : String} {old new : Json}

theorem ChangesMember.get_of_ne (h : ChangesMember name change old new) (other : String)
    (hne : name ≠ other) : new.get other = old.get other := by
  cases h with
  | intro before after h =>
    unfold get get?
    simp only
    rw [Fields.get?_append, Fields.get?_append, Fields.get?, Fields.get?, if_neg hne, if_neg hne]

/-- What reads the member alone, and does not see the change, reads the same from the object. -/
theorem ChangesMember.keeps {α : Type} (h : ChangesMember name change old new) (read : Json → α)
    (hread : ∀ old new, change old new → read new = read old) :
    read (new.get name) = read (old.get name) := by
  cases h with
  | intro before after h =>
    unfold get get?
    simp only
    rw [Fields.get?_append, Fields.get?_append, Fields.get?, Fields.get?, if_pos rfl, if_pos rfl]
    -- An earlier member of this name is the one that is read.
    cases Fields.get? name before with
    | none => exact hread _ _ h
    | some value => rfl

theorem ChangesMember.isObject (h : ChangesMember name change old new) :
    new.isObject = old.isObject := by
  cases h with
  | intro before after h => rfl

end Changes

def objects (list : Json) : List Json := list.itemsOrNone.filter isObject

def IsStray (item : Json) : Prop := item.isObject = false

theorem Inserts.objects_eq {old new : Json} (h : Inserts IsStray old new) :
    new.objects = old.objects := by
  cases h with
  | intro before after h =>
    change (before ++ _ :: after).filter isObject = (before ++ after).filter isObject
    rw [List.filter_append, List.filter_cons, h, List.filter_append]
    rfl

/-- A traversal of the objects of an array does not see a change of one item that its reader does
not see. -/
theorem ChangesItem.mapM_objects {α ε : Type} {read : Json → Except ε α}
    {change : Json → Json → Prop} {old new : Json} (h : ChangesItem change old new)
    (hobject : ∀ old new, change old new → new.isObject = old.isObject)
    (hread : ∀ old new, change old new → read new = read old) :
    new.objects.mapM read = old.objects.mapM read := by
  cases h with
  | intro before after h =>
    change ((before ++ _ :: after).filter isObject).mapM read =
      ((before ++ _ :: after).filter isObject).mapM read
    rw [List.filter_append, List.filter_append, List.filter_cons, List.filter_cons,
      hobject _ _ h]
    split
    · rw [List.mapM_append, List.mapM_append, List.mapM_cons, List.mapM_cons, hread _ _ h]
    · rfl

end Json

open Json

namespace FeedbackValue

/-- A field value has none of its variants with the right type. -/
structure HasNoVariant (field : Json) : Prop where
  text : ∀ value, field.get "string" ≠ .str value
  integer : ∀ value, field.get "integer" ≠ .int value
  float : ∀ value, field.get "integer" ≠ .float value
  boolean : ∀ value, field.get "boolean" ≠ .bool value
  document : ∀ value, field.get "jsonRaw" ≠ .str value

/-- What a list of feedback cannot use: no object, or an object without a text as its name, without
an object as its field value, or with a field value that has no variant. -/
inductive IsBlank (entry : Json) : Prop
  | stray (h : IsStray entry)
  | nameless (h : ∀ name, entry.get "name" ≠ .str name)
  | valueless (h : IsStray (entry.get "fieldValue"))
  | undecodable (h : HasNoVariant (entry.get "fieldValue"))

theorem ofField_of_hasNoVariant {field : Json} (h : HasNoVariant field) :
    ofField field = .ok none := by
  unfold ofField
  split
  · exact absurd ‹_› (h.text _)
  · split
    · exact absurd ‹_› (h.integer _)
    · exact absurd ‹_› (h.float _)
    · split
      · exact absurd ‹_› (h.boolean _)
      · split
        · exact absurd ‹_› (h.document _)
        · rfl

theorem store_of_isBlank (feedback : Fields FeedbackValue) {entry : Json} (h : IsBlank entry) :
    store feedback entry = .ok feedback := by
  unfold store
  split
  · rename_i name members hname hmembers
    cases h with
    | stray h =>
      rw [get_of_not_isObject h] at hname
      cases hname
    | nameless h => exact absurd hname (h name)
    | valueless h =>
      rw [hmembers] at h
      cases h
    | undecodable h =>
      rw [hmembers] at h
      rw [ofField_of_hasNoVariant h]
      rfl
  · rfl

theorem foldlM_store_of_inserts {old new : Json} (h : Inserts IsBlank old new) :
    new.itemsOrNone.foldlM store [] = old.itemsOrNone.foldlM store [] := by
  cases h with
  | intro before after h =>
    change (before ++ _ :: after).foldlM store [] = (before ++ after).foldlM store []
    rw [List.foldlM_append, List.foldlM_append]
    -- Whatever was stored before the blank entry, it stores nothing.
    refine bind_congr fun feedback => ?_
    rw [List.foldlM_cons, store_of_isBlank feedback h]
    rfl

theorem ofStatus_of_changesMember {old new : Json}
    (h : ChangesMember "values" (Inserts IsBlank) old new) : ofStatus new = ofStatus old :=
  h.keeps (fun values => values.itemsOrNone.foldlM store []) fun _ _ => foldlM_store_of_inserts

end FeedbackValue

/-- One malformed fragment is put into the report about a resource. -/
inductive ClutterReport (report cluttered : Json) : Prop
  | condition (h : ChangesMember "conditions" (Inserts IsStray) report cluttered)
  | feedback (h : ChangesMember "statusFeedback"
      (ChangesMember "values" (Inserts FeedbackValue.IsBlank)) report cluttered)

/-- One malformed fragment is put into the status of a work. -/
inductive ClutterStatus (status cluttered : Json) : Prop
  | condition (h : ChangesMember "conditions" (Inserts IsStray) status cluttered)
  | resource (h : ChangesMember "resourceStatus" (Inserts IsStray) status cluttered)
  | report (h : ChangesMember "resourceStatus" (ChangesItem ClutterReport) status cluttered)

/-- One malformed fragment is put into a bundle. -/
inductive Clutter (bundle cluttered : Json) : Prop
  | manifest (h : ChangesMember "manifests" (Inserts IsStray) bundle cluttered)
  | status (h : ChangesMember "status" ClutterStatus bundle cluttered)

section Readers

variable {old new : Json}

theorem Condition.listOf_of_inserts (h : Inserts IsStray old new) :
    Condition.listOf new = Condition.listOf old :=
  congrArg (List.map Condition.ofJson) h.objects_eq

theorem Manifest.listOf_of_inserts (h : Inserts IsStray old new) :
    Manifest.listOf new = Manifest.listOf old :=
  congrArg (List.map Manifest.ofJson) h.objects_eq

theorem ClutterReport.isObject (h : ClutterReport old new) : new.isObject = old.isObject := by
  cases h with
  | condition h => exact h.isObject
  | feedback h => exact h.isObject

theorem ClutterReport.ofJson_eq (h : ClutterReport old new) :
    ResourceStatus.ofJson new = ResourceStatus.ofJson old := by
  unfold ResourceStatus.ofJson
  cases h with
  | condition h =>
    rw [h.get_of_ne "resourceMeta" (by decide), h.get_of_ne "statusFeedback" (by decide),
      h.keeps Condition.listOf fun _ _ => Condition.listOf_of_inserts]
  | feedback h =>
    rw [h.get_of_ne "resourceMeta" (by decide), h.get_of_ne "conditions" (by decide),
      h.keeps FeedbackValue.ofStatus fun _ _ => FeedbackValue.ofStatus_of_changesMember]

theorem ClutterStatus.reads_eq (h : ClutterStatus old new) :
    Condition.listOf (new.get "conditions") = Condition.listOf (old.get "conditions") ∧
      (new.get "resourceStatus").objects.mapM ResourceStatus.ofJson =
        (old.get "resourceStatus").objects.mapM ResourceStatus.ofJson := by
  cases h with
  | condition h =>
    exact ⟨h.keeps Condition.listOf fun _ _ => Condition.listOf_of_inserts,
      by rw [h.get_of_ne "resourceStatus" (by decide)]⟩
  | resource h =>
    exact ⟨by rw [h.get_of_ne "conditions" (by decide)],
      congrArg (List.mapM ResourceStatus.ofJson) (h.keeps Json.objects fun _ _ => Inserts.objects_eq)⟩
  | report h =>
    exact ⟨by rw [h.get_of_ne "conditions" (by decide)],
      h.keeps (fun list => list.objects.mapM ResourceStatus.ofJson) fun _ _ hitem =>
        hitem.mapM_objects (fun _ _ => ClutterReport.isObject) fun _ _ => ClutterReport.ofJson_eq⟩

/-- A bundle is read through its manifests, its status and the other members. -/
theorem ofBundle_congr (consumer : String)
    (hothers : ∀ name, "manifests" ≠ name → "status" ≠ name → new.get name = old.get name)
    (hmanifests : Manifest.listOf (new.get "manifests") = Manifest.listOf (old.get "manifests"))
    (hconditions : Condition.listOf ((new.get "status").get "conditions") =
      Condition.listOf ((old.get "status").get "conditions"))
    (hreports : ((new.get "status").get "resourceStatus").objects.mapM ResourceStatus.ofJson =
      ((old.get "status").get "resourceStatus").objects.mapM ResourceStatus.ofJson) :
    Snapshot.ofBundle consumer new = Snapshot.ofBundle consumer old ∧
      Summary.ofBundle consumer new = Summary.ofBundle consumer old := by
  have hread (name : String) (hname : "manifests" ≠ name ∧ "status" ≠ name) :
      new.get name = old.get name := hothers name hname.1 hname.2
  unfold objects at hreports
  unfold Snapshot.ofBundle Summary.ofBundle bundleName textOf
  dsimp only
  rw [hmanifests, hconditions, hreports, hread "id" (by decide), hread "metadata" (by decide),
    hread "version" (by decide), hread "created_at" (by decide), hread "updated_at" (by decide),
    hread "delete_option" (by decide)]
  exact ⟨rfl, rfl⟩

theorem Clutter.ofBundle_eq (h : Clutter old new) (consumer : String) :
    Snapshot.ofBundle consumer new = Snapshot.ofBundle consumer old ∧
      Summary.ofBundle consumer new = Summary.ofBundle consumer old := by
  cases h with
  | manifest h =>
    have hstatus : new.get "status" = old.get "status" := h.get_of_ne _ (by decide)
    refine ofBundle_congr consumer (fun name hmanifests _ => h.get_of_ne name hmanifests)
      (h.keeps Manifest.listOf fun _ _ => Manifest.listOf_of_inserts) ?_ ?_
    · rw [hstatus]
    · rw [hstatus]
  | status h =>
    have hmanifests : new.get "manifests" = old.get "manifests" := h.get_of_ne _ (by decide)
    refine ofBundle_congr consumer (fun name _ hstatus => h.get_of_ne name hstatus) ?_ ?_ ?_
    · rw [hmanifests]
    · exact h.keeps (fun status => Condition.listOf (status.get "conditions"))
        fun _ _ hstatus => hstatus.reads_eq.1
    · exact h.keeps (fun status =>
          (status.get "resourceStatus").objects.mapM ResourceStatus.ofJson)
        fun _ _ hstatus => hstatus.reads_eq.2

end Readers

/-- Any number of malformed fragments, put into a bundle one after the other at any places, change
neither what is read from it nor why it cannot be read. -/
theorem ofBundle_of_clutter (consumer : String) {bundle cluttered : Json}
    (h : Relation.ReflTransGen Clutter bundle cluttered) :
    Snapshot.ofBundle consumer cluttered = Snapshot.ofBundle consumer bundle ∧
      Summary.ofBundle consumer cluttered = Summary.ofBundle consumer bundle := by
  induction h with
  | refl => exact ⟨rfl, rfl⟩
  | tail _ hlast ih =>
    obtain ⟨hsnapshot, hsummary⟩ := hlast.ofBundle_eq consumer
    exact ⟨hsnapshot.trans ih.1, hsummary.trans ih.2⟩

/-- Five fragments, one in each kind of list, before, between and behind what is read. -/
theorem ofBundle_of_clutter_everywhere :
    let condition (type : String) : Json := .obj [("type", .str type), ("status", .str "True")]
    let value (members : List (String × Json)) : Json :=
      .obj [("name", .str "ready"), ("fieldValue", .obj members)]
    let report (conditions values : List Json) : Json := .obj [
      ("resourceMeta", .obj [("kind", .str "Job"), ("name", .str "pi")]),
      ("conditions", .arr conditions), ("statusFeedback", .obj [("values", .arr values)])]
    let bundle (manifests conditions reports : List Json) : Json := .obj [("id", .str "b-1"),
      ("manifests", .arr manifests),
      ("status", .obj [("conditions", .arr conditions), ("resourceStatus", .arr reports)])]
    let manifest : Json := .obj [("kind", .str "Job")]
    let entries := [value [("integer", .int 1)], value [("integer", .int 2)]]
    let clean := bundle [manifest] [condition "Applied"] [report [condition "Complete"] entries]
    let cluttered := bundle [.null, manifest] [condition "Applied", .str "Available"]
      [.arr [], report [condition "Complete", .int 7]
        [value [("integer", .int 1)], value [("integer", .bool true)], value [("integer", .int 2)]]]
    Relation.ReflTransGen Clutter clean cluttered ∧
      Snapshot.ofBundle "cluster1" cluttered = Snapshot.ofBundle "cluster1" clean ∧
      Summary.ofBundle "cluster1" cluttered = Summary.ofBundle "cluster1" clean ∧
      ∃ snapshot, Snapshot.ofBundle "cluster1" cluttered = .ok snapshot ∧
        snapshot.resources.map (·.feedback) = [[("ready", .integer 2)]] := by
  intro condition value report bundle manifest entries clean cluttered
  have hchain : Relation.ReflTransGen Clutter clean cluttered := by
    have hmanifest : Clutter clean (bundle [.null, manifest] [condition "Applied"]
        [report [condition "Complete"] entries]) :=
      .manifest (.intro [_] [_] (.intro [] [manifest] rfl))
    have hcondition : Clutter _ (bundle [.null, manifest] [condition "Applied", .str "Available"]
        [report [condition "Complete"] entries]) :=
      .status (.intro [_, _] [] (.condition (.intro [] [_] (.intro [condition "Applied"] [] rfl))))
    have hreport : Clutter _ (bundle [.null, manifest] [condition "Applied", .str "Available"]
        [.arr [], report [condition "Complete"] entries]) :=
      .status (.intro [_, _] [] (.resource (.intro [_] [] (.intro [] [_] rfl))))
    have hwithin : Clutter _ (bundle [.null, manifest] [condition "Applied", .str "Available"]
        [.arr [], report [condition "Complete", .int 7] entries]) :=
      .status (.intro [_, _] [] (.report (.intro [_] [] (.intro [_] []
        (.condition (.intro [_] [_] (.intro [condition "Complete"] [] rfl)))))))
    have hfeedback : Clutter _ cluttered :=
      .status (.intro [_, _] [] (.report (.intro [_] [] (.intro [_] []
        (.feedback (.intro [_, _] [] (.intro [] [] (.intro [value [("integer", .int 1)]]
          [value [("integer", .int 2)]] (.undecodable ⟨nofun, nofun, nofun, nofun, nofun⟩)))))))))
    exact .tail (.tail (.tail (.tail (.single hmanifest) hcondition) hreport) hwithin) hfeedback
  have hread := ofBundle_of_clutter "cluster1" hchain
  exact ⟨hchain, hread.1, hread.2, _, rfl, rfl⟩

end WorkWatch
