import WorkWatch.Proofs.Evaluation.Value
import WorkWatch.Proofs.Except

/-! Snapshots that assert nothing: no condition is true, and no resource reports a value. No term
holds on such a snapshot, and an expression whose terms are all false is false, however they are
joined; so no text is satisfied. -/

namespace WorkWatch

theorem Expression.value_eq_false {ε : Type} {term : Term → Except ε Bool}
    (h : ∀ t, term t = .ok false) (e : Expression) : e.value term = .ok false := by
  induction e with
  | term t => exact h t
  | and left right ihl _ =>
    rw [value, ihl]
    rfl
  | or left right ihl ihr =>
    rw [value, ihl]
    exact ihr

theorem Condition.asserts_eq_false {condition : Condition} (h : condition.isTrue = false)
    (type : String) : condition.asserts type = false := by
  simp [asserts, h]

namespace ResourceStatus

variable {resource : ResourceStatus}

structure IsSilent (resource : ResourceStatus) : Prop where
  conditions : ∀ condition ∈ resource.conditions, condition.isTrue = false
  feedback : resource.feedback = []

theorem IsSilent.resolve (h : resource.IsSilent) (path : String) : resource.resolve path = .null := by
  unfold ResourceStatus.resolve
  rw [h.feedback]
  split <;> rfl

theorem IsSilent.hasTrue (h : resource.IsSilent) (type : String) : resource.hasTrue type = false := by
  have hconditions : resource.conditions.any (·.asserts type) = false := by
    rw [List.any_eq_false]
    intro condition hmem
    simp [Condition.asserts_eq_false (h.conditions condition hmem)]
  have hfeedback (path : String) : (resource.resolve path).itemsOrNone = [] := by
    rw [h.resolve]
    rfl
  simp [ResourceStatus.hasTrue, hconditions, hfeedback]

theorem IsSilent.passes (h : resource.IsSilent) (check : Check) :
    resource.passes check = .ok false := by
  cases check with
  | condition type => rw [ResourceStatus.passes, h.hasTrue]
  | comparison path comparator literal => rw [ResourceStatus.passes, h.resolve]

end ResourceStatus

namespace Snapshot

variable {snapshot : Snapshot}

structure IsSilent (snapshot : Snapshot) : Prop where
  conditions : ∀ condition ∈ snapshot.conditions, condition.isTrue = false
  resources : ∀ resource ∈ snapshot.resources, resource.IsSilent

theorem IsSilent.find? (h : snapshot.IsSilent) (type : String) : snapshot.find? type = none := by
  unfold Snapshot.find?
  rw [List.find?_eq_none]
  intro condition hmem
  simp [Condition.asserts_eq_false (h.conditions condition (List.mem_reverse.mp hmem))]

theorem IsSilent.satisfies (h : snapshot.IsSilent) (term : Term) :
    snapshot.satisfies term = .ok false := by
  cases term with
  | work type => rw [Snapshot.satisfies, meets, h.find?]
  | resource kind space name check =>
    apply anyHolds_eq_false_iff.mpr
    intro resource hmem
    exact (h.resources resource (List.mem_filter.mp hmem).1).passes check

/-- A bundle whose status lists no conditions and no resources asserts nothing. -/
theorem isSilent_of_unreported {consumer : String} {bundle : Json}
    (hconditions : ((bundle.get "status").get "conditions").itemsOrNone = [])
    (hresources : ((bundle.get "status").get "resourceStatus").itemsOrNone = [])
    (h : Snapshot.ofBundle consumer bundle = .ok snapshot) : snapshot.IsSilent := by
  obtain ⟨version, -, h⟩ := bind_eq_ok_iff.mp h
  obtain ⟨resources, hmade, h⟩ := bind_eq_ok_iff.mp h
  rw [hresources] at hmade
  cases hmade
  cases h
  refine ⟨?_, fun _ hmem => absurd hmem List.not_mem_nil⟩
  intro condition hmem
  unfold Condition.listOf at hmem
  rw [hconditions] at hmem
  exact absurd hmem List.not_mem_nil

/-- What asserts nothing satisfies no expression, and evaluating one does not fail either. -/
theorem evaluate_of_isSilent (h : snapshot.IsSilent) (expression : String) :
    snapshot.evaluate expression = .ok false := by
  unfold evaluate
  cases Expression.parse expression with
  | error problem => rfl
  | ok tree =>
    change tree.chainValue snapshot.satisfies = .ok false
    rw [Expression.chainValue_eq_value]
    exact tree.value_eq_false h.satisfies

/-- A work that is still pending, with a job that has not completed, and a work without a status. -/
theorem evaluate_of_isSilent_pending :
    let job : ResourceStatus := {
      kind := "Job", name := "pi", space := "", group := "batch", version := "v1",
      resource := "jobs", conditions := [⟨"Complete", .no, "", "", ""⟩], feedback := [] }
    let pending : Snapshot := {
      id := "b-1", name := "web", consumer := "cluster1", version := 1, created := "",
      updated := "", manifests := [], conditions := [⟨"Available", .unknown, "", "", ""⟩],
      resources := [job], deleteOption := "" }
    (pending.IsSilent ∧
      pending.evaluate "Available OR Job:Complete AND Job:status.succeeded>=1" = .ok false) ∧
    ∃ blank, ofBundle "cluster1" (.obj [("id", .str "b-1")]) = .ok blank ∧
      blank.IsSilent ∧ blank.evaluate "Available" = .ok false := by
  intro job pending
  have hpending : pending.IsSilent := by
    refine ⟨by simp [pending, Condition.isTrue], ?_⟩
    intro resource hmem
    obtain rfl := List.mem_singleton.mp hmem
    exact ⟨by simp [job, Condition.isTrue], rfl⟩
  obtain ⟨blank, hblank⟩ : ∃ blank, ofBundle "cluster1" (.obj [("id", .str "b-1")]) = .ok blank :=
    ⟨_, rfl⟩
  have hsilent : blank.IsSilent := isSilent_of_unreported rfl rfl hblank
  exact ⟨⟨hpending, evaluate_of_isSilent hpending _⟩, blank, hblank, hsilent,
    evaluate_of_isSilent hsilent _⟩

end Snapshot

end WorkWatch
