import Mathlib.Data.List.Infix
import WorkWatch.Report.Selection
import WorkWatch.Proofs.Text.Split

/-! Which works the patterns `Kind/name` and `Kind/namespace/name` select. A work of which one manifest
fits the pattern is selected; so is one whose own name fits the last part, whatever its manifests. -/

namespace WorkWatch

namespace Text

theorem mapCase_ne_nil {runs : List CaseTable.Run} {expansions : List (Nat × List Nat)}
    (h : ∀ expansion ∈ expansions, expansion.2 ≠ []) (c : Char) :
    mapCase runs expansions c ≠ [] := by
  unfold mapCase
  cases hexpansion : expansions.lookup c.toNat with
  | some several =>
    obtain ⟨before, after, rfl, -⟩ := List.lookup_eq_some_iff.mp hexpansion
    exact fun hnil => h (c.toNat, several) (List.mem_append_right _ List.mem_cons_self)
      (List.map_eq_nil_iff.mp hnil)
  | none =>
    cases runs.find? (·.contains c.toNat) with
    | none => exact List.cons_ne_nil _ _
    | some run => exact List.cons_ne_nil _ _

theorem lowerChar_ne_nil (c : Char) : lowerChar c ≠ [] := by
  unfold lowerChar
  split
  · exact List.cons_ne_nil _ _
  · exact mapCase_ne_nil (by decide) c

/-- Nothing but the empty text has an empty lower case. -/
theorem lower_eq_empty_iff (s : String) : lower s = "" ↔ s = "" := by
  constructor
  · intro h
    rw [← String.toList_eq_nil_iff] at h ⊢
    unfold lower at h
    rw [String.toList_ofList] at h
    cases hs : s.toList with
    | nil => rfl
    | cons c rest =>
      rw [hs, lowerAfter] at h
      obtain ⟨hhere, -⟩ := List.append_eq_nil_iff.mp h
      split at hhere
      · cases hhere
      · exact absurd hhere (lowerChar_ne_nil c)
  · rintro rfl
    rfl

end Text

open Text

/-- A manifest has a kind, up to case, and in lower case its namespace and its name hold the other two
texts; an empty text stands in every text. -/
structure Manifest.Fits (kind space name : String) (manifest : Manifest) : Prop where
  kind : foldCase manifest.kind = foldCase kind
  space : (lower space).toList <:+: (lower manifest.space).toList
  name : (lower name).toList <:+: (lower manifest.name).toList

instance (kind space name : String) (manifest : Manifest) :
    Decidable (manifest.Fits kind space name) :=
  decidable_of_iff (foldCase manifest.kind = foldCase kind ∧
      (lower space).toList <:+: (lower manifest.space).toList ∧
      (lower name).toList <:+: (lower manifest.name).toList)
    ⟨fun ⟨hkind, hspace, hname⟩ => ⟨hkind, hspace, hname⟩, fun ⟨hkind, hspace, hname⟩ =>
      ⟨hkind, hspace, hname⟩⟩

namespace Summary

def Contains (kind space name : String) (work : Summary) : Prop :=
  ∃ manifest ∈ work.manifests, manifest.Fits kind space name

instance (kind space name : String) (work : Summary) : Decidable (work.Contains kind space name) :=
  inferInstanceAs (Decidable (∃ manifest ∈ work.manifests, manifest.Fits kind space name))

/-- The name of the work itself holds a text that is not empty, in lower case. -/
def IsCalled (name : String) (work : Summary) : Prop :=
  name ≠ "" ∧ (lower name).toList <:+: (lower work.name).toList

instance (name : String) (work : Summary) : Decidable (work.IsCalled name) :=
  inferInstanceAs (Decidable (name ≠ "" ∧ (lower name).toList <:+: (lower work.name).toList))

end Summary

namespace Report

/-- The patterns `Kind/name` and `Kind/namespace/name`. Slashes after the second belong to the name. -/
inductive IsPattern (kind : String) : (space name pattern : String) → Prop
  | short {name : String} (hkind : '/' ∉ kind.toList) (hname : '/' ∉ name.toList) :
    IsPattern kind "" name (kind ++ "/" ++ name)
  | long {space name : String} (hkind : '/' ∉ kind.toList) (hspace : '/' ∉ space.toList) :
    IsPattern kind space name (kind ++ "/" ++ space ++ "/" ++ name)

namespace Selection

theorem ofPattern_of_isPattern {kind space name pattern : String}
    (h : IsPattern kind space name pattern) :
    ofPattern pattern = ⟨kind, lower space, lower name⟩ := by
  cases h with
  | short hkind hname =>
    have htext : (kind ++ "/" ++ name).toList = kind.toList ++ '/' :: name.toList := by
      simp [String.toList_append]
    unfold ofPattern
    rw [htext, pieces_append hkind, pieces_of_not_mem hname]
    simp only [lowered, String.ofList_toList]
    rfl
  | long hkind hspace =>
    -- The pieces of the name are joined again, however many they are.
    have htext : (kind ++ "/" ++ space ++ "/" ++ name).toList =
        kind.toList ++ '/' :: (space.toList ++ '/' :: name.toList) := by
      simp [String.toList_append]
    unfold ofPattern
    rw [htext, pieces_append hkind, pieces_append hspace]
    cases hpieces : pieces '/' name.toList with
    | nil => exact absurd hpieces (pieces_ne_nil '/' name.toList)
    | cons first more =>
      dsimp only [lowered]
      rw [← hpieces, joined_pieces, String.ofList_toList, String.ofList_toList,
        String.ofList_toList]

theorem within_iff (part text : String) :
    within part text = true ↔ part.toList <:+: (lower text).toList := holds_iff _ _

variable {kind : String}

theorem admitsManifest_iff (hkind : kind ≠ "") (space name : String) (manifest : Manifest) :
    (Selection.mk kind (lower space) (lower name)).admitsManifest manifest = true ↔
      manifest.Fits kind space name := by
  -- The empty text is part of every text, so it needs no case of its own.
  have hpart (part text : String) :
      (part.isEmpty || within part text) = true ↔ part.toList <:+: (lower text).toList := by
    rw [Bool.or_eq_true, within_iff, String.isEmpty_iff]
    refine or_iff_right_of_imp ?_
    rintro rfl
    exact List.nil_infix
  have hnonempty : kind.isEmpty = false := Bool.eq_false_iff.mpr (mt String.isEmpty_iff.mp hkind)
  have hor (a b : Bool) : (if a then !false else b) = (a || b) := by cases a <;> rfl
  unfold admitsManifest
  dsimp only
  rw [hnonempty, hor, Bool.false_or, Bool.and_eq_true, Bool.and_eq_true, hpart, hpart, sameFolded,
    beq_iff_eq]
  constructor
  · rintro ⟨⟨hsame, hspace⟩, hpart⟩
    exact ⟨hsame, hspace, hpart⟩
  · rintro ⟨hsame, hspace, hpart⟩
    exact ⟨⟨hsame, hspace⟩, hpart⟩

theorem admits_iff (hkind : kind ≠ "") (space name : String) (work : Summary) :
    (Selection.mk kind (lower space) (lower name)).admits work = true ↔
      work.Contains kind space name ∨ work.IsCalled name := by
  have hmanifests : work.manifests.any (Selection.mk kind (lower space) (lower name)).admitsManifest =
      true ↔ work.Contains kind space name := by
    rw [List.any_eq_true]
    exact exists_congr fun manifest =>
      and_congr_right fun _ => admitsManifest_iff hkind space name manifest
  have hcalled : (!(lower name).isEmpty && within (lower name) work.name) = true ↔
      work.IsCalled name := by
    unfold Summary.IsCalled
    rw [Bool.and_eq_true, within_iff, Bool.not_eq_true', Bool.eq_false_iff, ne_eq,
      String.isEmpty_iff, lower_eq_empty_iff]
  unfold admits
  rw [Bool.or_eq_true, hmanifests, hcalled, or_comm]

end Selection

theorem select_of_isPattern {kind space name pattern : String} (hkind : kind ≠ "")
    (h : IsPattern kind space name pattern) (works : List Summary) :
    select pattern works =
      works.filter fun work => work.Contains kind space name ∨ work.IsCalled name := by
  have hpattern : pattern.isEmpty = false := by
    rw [Bool.eq_false_iff, ne_eq, String.isEmpty_iff, ← String.toList_eq_nil_iff]
    cases h with
    | short | long => simp [String.toList_append]
  unfold select
  rw [hpattern, if_neg Bool.false_ne_true, Selection.ofPattern_of_isPattern h]
  refine List.filter_congr fun work _ => ?_
  rw [Bool.eq_iff_iff, Selection.admits_iff hkind, decide_eq_true_iff]

/-- A pattern with a kind selects, in their order, the works of which one manifest fits it, and those
whose own name fits. So it selects by manifests exactly if no work has a fitting name but no fitting
manifest. -/
theorem select_kind {kind space name pattern : String} (hkind : kind ≠ "")
    (h : IsPattern kind space name pattern) (works : List Summary) :
    select pattern works =
        works.filter (fun work => work.Contains kind space name ∨ work.IsCalled name) ∧
      (select pattern works = works.filter (fun work => work.Contains kind space name) ↔
        ∀ work ∈ works, work.IsCalled name → work.Contains kind space name) := by
  have hselect := select_of_isPattern hkind h works
  refine ⟨hselect, ?_⟩
  rw [hselect]
  constructor
  · intro heq work hwork hcalled
    have hselected : work ∈ works.filter fun work =>
        work.Contains kind space name ∨ work.IsCalled name :=
      List.mem_filter.mpr ⟨hwork, decide_eq_true (Or.inr hcalled)⟩
    rw [heq] at hselected
    exact of_decide_eq_true (List.mem_filter.mp hselected).2
  · intro hcontains
    refine List.filter_congr fun work hwork => ?_
    exact decide_eq_decide.mpr (or_iff_left_of_imp (hcontains work hwork))

/-- Kind and name have to be those of one manifest, in any case of letters. -/
theorem select_kind_job :
    let work (name : String) (manifests : List Manifest) : Summary :=
      { id := "b-1", name, consumer := "cluster1", version := 1, created := "", updated := "",
        manifests, conditions := [] }
    let web := work "web" [⟨"Deployment", "default", "frontend"⟩]
    let jobs := work "jobs" [⟨"Job", "batch", "pi"⟩, ⟨"Job", "ops", "backup"⟩]
    IsPattern "job" "OPS" "back" "job/OPS/back" ∧ select "job/OPS/back" [web, jobs] = [jobs] ∧
      IsPattern "Deployment" "" "pi" "Deployment/pi" ∧ select "Deployment/pi" [web, jobs] = [] := by
  intro work web jobs
  have hjob : IsPattern "job" "OPS" "back" "job/OPS/back" := .long (by decide) (by decide)
  have hdeployment : IsPattern "Deployment" "" "pi" "Deployment/pi" :=
    .short (by decide) (by decide)
  have hback := (select_kind (by decide) hjob [web, jobs]).1
  have hpi := (select_kind (by decide) hdeployment [web, jobs]).1
  exact ⟨hjob, hback.trans (by decide), hdeployment, hpi.trans (by decide)⟩

/-- A work is selected by its own name although its only manifest is of another kind. -/
theorem select_kind_called :
    let web : Summary :=
      { id := "b-1", name := "web", consumer := "cluster1", version := 1, created := "",
        updated := "", manifests := [⟨"Job", "", "pi"⟩], conditions := [] }
    select "Deployment/web" [web] = [web] ∧
      [web].filter (fun work => work.Contains "Deployment" "" "web") = [] := by
  intro web
  have hpattern : IsPattern "Deployment" "" "web" "Deployment/web" :=
    .short (by decide) (by decide)
  have hselect := select_of_isPattern (by decide) hpattern [web]
  exact ⟨hselect.trans (by decide), by decide⟩

end Report

end WorkWatch
