import Mathlib.Data.List.Basic
import WorkWatch.Proofs.Evaluation.Value

/-! What an evaluation sees of the resources of a work. Neither their order nor how often they are
listed matters, and with more of them no less is true. Those that were applied before their work are
not seen at all. -/

namespace WorkWatch

theorem anyHolds_ne_false_of_subset {α ε : Type} {test : α → Except ε Bool} {xs ys : List α}
    (hsub : xs ⊆ ys) (h : anyHolds test xs = .ok true) : anyHolds test ys ≠ .ok false := by
  intro hfalse
  obtain ⟨x, hx, hholds⟩ := exists_of_anyHolds h
  rw [anyHolds_eq_false_iff.mp hfalse x (hsub hx)] at hholds
  cases hholds

/-- What is true by terms that are true stays so, unless an evaluation fails. The second side of an
OR may fail where the first one was false before. -/
theorem Expression.value_ne_false {ε : Type} {before after : Term → Except ε Bool}
    (hterm : ∀ t, before t = .ok true → after t ≠ .ok false) (e : Expression)
    (h : e.value before = .ok true) : e.value after ≠ .ok false := by
  -- The second side of an OR is looked at in both evaluations or only in the one before.
  induction e with
  | term t => exact hterm t h
  | and left right ihl ihr =>
    rw [value] at h ⊢
    rcases hleft : left.value before with error | _ | _
    · rw [hleft] at h
      cases h
    · rw [hleft] at h
      cases h
    · rw [hleft] at h
      have hsome := ihl hleft
      rcases hafter : left.value after with error | _ | _
      · intro hfalse
        cases hfalse
      · exact absurd hafter hsome
      · exact ihr h
  | or left right ihl ihr =>
    rw [value] at h ⊢
    rcases hafter : left.value after with error | _ | _
    · intro hfalse
      cases hfalse
    · rcases hleft : left.value before with error | _ | _
      · rw [hleft] at h
        cases h
      · rw [hleft] at h
        exact ihr h
      · exact absurd hafter (ihl hleft)
    · intro hfalse
      cases hfalse

namespace Snapshot

variable {first second snapshot : Snapshot} {resource : ResourceStatus}

/-- The same work with other resources. -/
def withResources (snapshot : Snapshot) (resources : List ResourceStatus) : Snapshot :=
  { snapshot with resources }

/-- Two snapshots are equal but for their resources. -/
def SameWork (first second : Snapshot) : Prop := first.withResources [] = second.withResources []

theorem SameWork.eq_withResources (h : SameWork first second) :
    second = first.withResources second.resources :=
  congrArg (·.withResources second.resources) h.symm

theorem satisfies_withResources (snapshot : Snapshot) (resources : List ResourceStatus)
    (kind : String) (space name : Option String) (check : Check) :
    (snapshot.withResources resources).satisfies (.resource kind space name check) =
      anyHolds (·.passes check) (resources.filter fun resource =>
        resource.isSelected kind space name && resource.isFresh snapshot.appliedTime?) := rfl

theorem satisfies_ne_false (hwork : SameWork first second)
    (hsub : first.resources ⊆ second.resources) (t : Term) (h : first.satisfies t = .ok true) :
    second.satisfies t ≠ .ok false := by
  rw [hwork.eq_withResources]
  cases t with
  | work type =>
    intro hfalse
    cases h.symm.trans hfalse
  | resource kind space name check =>
    rw [satisfies_withResources]
    exact anyHolds_ne_false_of_subset (List.filter_subset _ hsub) h

theorem evaluate_ne_false (hwork : SameWork first second)
    (hsub : first.resources ⊆ second.resources) {expression : String}
    (h : first.evaluate expression = .ok true) : second.evaluate expression ≠ .ok false := by
  cases hparse : Expression.parse expression with
  | error problem =>
    unfold evaluate at h
    rw [hparse] at h
    cases h
  | ok tree =>
    rw [evaluate_eq_value _ hparse] at h ⊢
    exact tree.value_ne_false (satisfies_ne_false hwork hsub) h

theorem evaluate_true_of_subset (hwork : SameWork first second)
    (hsub : first.resources ⊆ second.resources) {expression : String}
    (hends : ∀ error, second.evaluate expression ≠ .error error)
    (h : first.evaluate expression = .ok true) : second.evaluate expression = .ok true := by
  have hsome := evaluate_ne_false hwork hsub h
  rcases hvalue : second.evaluate expression with error | _ | _
  · exact absurd hvalue (hends error)
  · exact absurd hvalue hsome
  · rfl

/-- An expression that is satisfied stays so with more resources, wherever they stand, as long as its
evaluation does not fail; so its value depends on the set of the resources only. -/
theorem evaluate_of_subset (hwork : SameWork first second)
    (hsub : first.resources ⊆ second.resources) {expression : String}
    (hends : ∀ error, second.evaluate expression ≠ .error error) :
    (first.evaluate expression = .ok true → second.evaluate expression = .ok true) ∧
    (second.resources ⊆ first.resources → (∀ error, first.evaluate expression ≠ .error error) →
      first.evaluate expression = second.evaluate expression) := by
  constructor
  · exact evaluate_true_of_subset hwork hsub hends
  · intro hsub' hends'
    rcases hfirst : first.evaluate expression with error | _ | _
    · exact absurd hfirst (hends' error)
    · rcases hsecond : second.evaluate expression with error | _ | _
      · exact absurd hsecond (hends error)
      · rfl
      · rw [evaluate_true_of_subset hwork.symm hsub' hends' hsecond] at hfirst
        cases hfirst
    · exact (evaluate_true_of_subset hwork hsub hends hfirst).symm

/-- A work whose jobs are as complete as told. -/
def ofJobs (jobs : List (String × ConditionStatus)) : Snapshot where
  id := "b-1"
  name := "web"
  consumer := "cluster1"
  version := 1
  created := ""
  updated := ""
  manifests := []
  conditions := [⟨"Applied", .yes, "", "", ""⟩]
  resources := jobs.map fun (name, complete) => {
    kind := "Job", name, space := "", group := "batch", version := "v1", resource := "jobs"
    conditions := [⟨"Complete", complete, "", "", ""⟩], feedback := [] }
  deleteOption := ""

/-- The complete job is listed again, after one that is not complete. -/
theorem evaluate_of_subset_jobs :
    let fewer := ofJobs [("pi", .yes)]
    let more := ofJobs [("e", .no), ("pi", .yes), ("e", .no), ("pi", .yes)]
    SameWork fewer more ∧ fewer.resources ⊆ more.resources ∧
    (∀ error, more.evaluate "Applied AND Job:Complete" ≠ .error error) ∧
    fewer.evaluate "Applied AND Job:Complete" = .ok true ∧
    more.evaluate "Applied AND Job:Complete" = .ok true := by
  intro fewer more
  have hparse : Expression.parse "Applied AND Job:Complete" =
      .ok (.and (.term (.work "Applied"))
        (.term (.resource "Job" none none (.condition "Complete")))) := by decide
  have hsub : fewer.resources ⊆ more.resources := by simp [fewer, more, ofJobs]
  have hmet : fewer.evaluate "Applied AND Job:Complete" = .ok true := by
    rw [evaluate_eq_value _ hparse]
    decide
  have hends : ∀ error, more.evaluate "Applied AND Job:Complete" ≠ .error error := by
    have hvalue : more.evaluate "Applied AND Job:Complete" = .ok true := by
      rw [evaluate_eq_value _ hparse]
      decide
    rw [hvalue]
    nofun
  have hwork : SameWork fewer more := rfl
  exact ⟨hwork, hsub, hends, hmet, (evaluate_of_subset hwork hsub hends).1 hmet⟩

/-! Resources that were applied before their work. -/

/-- The first true condition that tells that the work was applied, and when, has a later time than the
first one that tells so of the resource. -/
inductive Outdates (snapshot : Snapshot) (resource : ResourceStatus) : Prop
  | intro {work own : Condition} {since changed : Time.Timestamp}
      (applied : (snapshot.conditions.find? fun condition =>
        condition.asserts appliedType && !condition.lastTransition.isEmpty) = some work)
      (time : work.transition? = some since)
      (appliedOwn : resource.conditions.find? (·.asserts appliedType) = some own)
      (timeOwn : own.transition? = some changed)
      (earlier : changed.instant < since.instant)

theorem isFresh_eq_false_iff :
    resource.isFresh snapshot.appliedTime? = false ↔ snapshot.Outdates resource := by
  unfold ResourceStatus.isFresh
  constructor
  · intro h
    split at h
    · cases h
    · rename_i since hsince
      obtain ⟨work, happlied, htime⟩ := Option.bind_eq_some_iff.mp hsince
      split at h
      · cases h
      · rename_i own hown
        split at h
        · cases h
        · rename_i changed hchanged
          refine .intro happlied htime hown hchanged ?_
          simpa [Time.Timestamp.before] using h
  · rintro ⟨happlied, htime, hown, hchanged, hearlier⟩
    have hsince : snapshot.appliedTime? = some _ :=
      Option.bind_eq_some_iff.mpr ⟨_, happlied, htime⟩
    rw [hsince]
    dsimp only
    rw [hown]
    dsimp only
    rw [hchanged]
    simpa [Time.Timestamp.before] using hearlier

instance (snapshot : Snapshot) (resource : ResourceStatus) :
    Decidable (snapshot.Outdates resource) := decidable_of_iff _ isFresh_eq_false_iff

/-- The same work without the resources that were applied before it. -/
def withoutOutdated (snapshot : Snapshot) : Snapshot :=
  snapshot.withResources (snapshot.resources.filter fun resource => ¬ snapshot.Outdates resource)

theorem satisfies_withoutOutdated (snapshot : Snapshot) (t : Term) :
    snapshot.withoutOutdated.satisfies t = snapshot.satisfies t := by
  cases t with
  | work type => rfl
  | resource kind space name check =>
    unfold withoutOutdated
    rw [satisfies_withResources, List.filter_filter]
    change _ = anyHolds _ (snapshot.resources.filter fun resource =>
      resource.isSelected kind space name && resource.isFresh snapshot.appliedTime?)
    congr 1
    apply List.filter_congr
    intro resource _
    by_cases hfresh : resource.isFresh snapshot.appliedTime? = false
    · simp [hfresh]
    · simp [hfresh, ← isFresh_eq_false_iff]

/-- An evaluation does not see the resources that were applied before their work: it has the same
value without them, and fails in the same way. -/
theorem evaluate_withoutOutdated (snapshot : Snapshot) (expression : String) :
    snapshot.withoutOutdated.evaluate expression = snapshot.evaluate expression := by
  have hterms : snapshot.withoutOutdated.satisfies = snapshot.satisfies :=
    funext snapshot.satisfies_withoutOutdated
  unfold evaluate satisfiesTree
  rw [hterms]

example :
    let applied (time : String) : List Condition := [⟨"Applied", .yes, "", "", time⟩]
    let job (name time : String) : ResourceStatus := {
      kind := "Job", name, space := "", group := "batch", version := "v1", resource := "jobs"
      conditions := applied time, feedback := [] }
    let work : Snapshot := {
      id := "b-1", name := "web", consumer := "cluster1", version := 1, created := "", updated := ""
      manifests := [], conditions := applied "2024-05-01T10:00:01Z"
      resources := [job "pi" "2024-05-01T10:00:00Z", job "e" "2024-05-01T12:00:01+02:00"]
      deleteOption := "" }
    work.withoutOutdated.resources.map (·.name) = ["e"] := by decide

end Snapshot

end WorkWatch
