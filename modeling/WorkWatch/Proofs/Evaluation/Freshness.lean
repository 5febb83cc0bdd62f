import WorkWatch.Proofs.Evaluation.Resources
import WorkWatch.Proofs.Time.Instant

/-! Which conditions count. The last true condition of a type stands for it, and counts unless the work
was applied after it changed; as far as the times tell, that is so at the exact moments too. -/

namespace WorkWatch

/-- The last element of a list on which a test holds. -/
def IsLast {α : Type} (test : α → Bool) (xs : List α) (x : α) : Prop :=
  test x = true ∧ ∃ before after, xs = before ++ x :: after ∧ ∀ y ∈ after, test y = false

theorem find?_reverse_eq_some_iff {α : Type} {test : α → Bool} {xs : List α} {x : α} :
    xs.reverse.find? test = some x ↔ IsLast test xs x := by
  rw [List.find?_eq_some_iff_append]
  refine and_congr_right fun _ => ?_
  constructor
  · rintro ⟨after, before, hxs, hafter⟩
    refine ⟨before.reverse, after.reverse, ?_, fun y hy => ?_⟩
    · simpa using congrArg List.reverse hxs
    · simpa using hafter y (List.mem_reverse.mp hy)
  · rintro ⟨before, after, rfl, hafter⟩
    refine ⟨after.reverse, before.reverse, by simp, fun y hy => ?_⟩
    simpa using hafter y (List.mem_reverse.mp hy)

theorem find?_reverse_eq_none_iff {α : Type} {test : α → Bool} {xs : List α} :
    xs.reverse.find? test = none ↔ ∀ x ∈ xs, test x = false := by
  simp

namespace Snapshot

variable {snapshot : Snapshot} {type : String} {candidate : Condition}

/-- Why the last true condition of a type counts: the type is that of being applied, or the work is not
applied, or one of the two times cannot be read, or the condition changed no earlier than the work was
applied. -/
inductive Counts (snapshot : Snapshot) (type : String) (candidate : Condition) : Prop
  | applied (htype : Text.sameFolded type appliedType = true)
  | unapplied (hnone : ∀ condition ∈ snapshot.conditions, condition.asserts appliedType = false)
  | timeless {applied : Condition}
      (hlast : IsLast (·.asserts appliedType) snapshot.conditions applied)
      (htime : applied.transition? = none ∨ candidate.transition? = none)
  | later {applied : Condition} {since changed : Time.Timestamp}
      (hlast : IsLast (·.asserts appliedType) snapshot.conditions applied)
      (hsince : applied.transition? = some since) (hchanged : candidate.transition? = some changed)
      (hle : since.instant ≤ changed.instant)

theorem find?_eq_some_iff :
    snapshot.find? type = some candidate ↔ IsLast (·.asserts type) snapshot.conditions candidate :=
  find?_reverse_eq_some_iff

theorem find?_eq_none_iff :
    snapshot.find? type = none ↔ ∀ condition ∈ snapshot.conditions, condition.asserts type = false :=
  find?_reverse_eq_none_iff

/-- With times that can be read, only they decide. -/
theorem counts_iff_le {applied : Condition} {since changed : Time.Timestamp}
    (htype : ¬ Text.sameFolded type appliedType = true)
    (hlast : IsLast (·.asserts appliedType) snapshot.conditions applied)
    (hsince : applied.transition? = some since) (hchanged : candidate.transition? = some changed) :
    snapshot.Counts type candidate ↔ since.instant ≤ changed.instant := by
  have hfind := find?_eq_some_iff.mpr hlast
  constructor
  · rintro (htype' | hnone | ⟨hlast', htime⟩ | ⟨hlast', hsince', hchanged', hle⟩)
    · exact absurd htype' htype
    · rw [find?_eq_none_iff.mpr hnone] at hfind
      cases hfind
    · rw [find?_eq_some_iff.mpr hlast'] at hfind
      cases hfind
      simp [hsince, hchanged] at htime
    · rw [find?_eq_some_iff.mpr hlast'] at hfind
      cases hfind
      cases hsince'.symm.trans hsince
      cases hchanged'.symm.trans hchanged
      exact hle
  · exact .later hlast hsince hchanged

theorem meets_of_find? (hfind : snapshot.find? type = some candidate) :
    snapshot.meets type = true ↔ snapshot.Counts type candidate := by
  unfold meets
  rw [hfind]
  dsimp only
  by_cases htype : Text.sameFolded type appliedType = true
  · rw [if_pos htype]
    exact iff_of_true rfl (.applied htype)
  · rw [if_neg htype]
    cases happlied : snapshot.find? appliedType with
    | none => exact iff_of_true rfl (.unapplied (find?_eq_none_iff.mp happlied))
    | some applied =>
      have hlast := find?_eq_some_iff.mp happlied
      dsimp only
      cases hchanged : candidate.transition? with
      | none => exact iff_of_true rfl (.timeless hlast (.inr hchanged))
      | some changed =>
        cases hsince : applied.transition? with
        | none => exact iff_of_true rfl (.timeless hlast (.inl hsince))
        | some since =>
          rw [counts_iff_le htype hlast hsince hchanged]
          simp [Time.Timestamp.before]

theorem meets_iff :
    snapshot.meets type = true ↔
      ∃ candidate, IsLast (·.asserts type) snapshot.conditions candidate ∧
        snapshot.Counts type candidate := by
  constructor
  · intro h
    cases hfind : snapshot.find? type with
    | none =>
      unfold meets at h
      rw [hfind] at h
      cases h
    | some candidate =>
      exact ⟨candidate, find?_eq_some_iff.mp hfind, (meets_of_find? hfind).mp h⟩
  · rintro ⟨candidate, hlast, hcounts⟩
    exact (meets_of_find? (find?_eq_some_iff.mpr hlast)).mpr hcounts

theorem satisfiesTree_work (snapshot : Snapshot) (type : String) :
    snapshot.satisfiesTree (.term (.work type)) = .ok (snapshot.meets type) := by
  rw [satisfiesTree, Expression.chainValue]
  rfl

/-- A type is satisfied if and only if some true condition has it and the last one counts; asking for
it never fails. -/
theorem satisfiesTree_work_iff (snapshot : Snapshot) (type : String) :
    (snapshot.satisfiesTree (.term (.work type)) = .ok true ↔
      ∃ candidate, IsLast (·.asserts type) snapshot.conditions candidate ∧
        snapshot.Counts type candidate) ∧
    ∀ error, snapshot.satisfiesTree (.term (.work type)) ≠ .error error := by
  rw [satisfiesTree_work, Except.ok.injEq]
  exact ⟨meets_iff, nofun⟩

end Snapshot

/-! What does not count was earlier. -/

namespace Condition

variable {own work : Condition} {since changed : Time.Timestamp}

/-- The exact moment that the time of a condition tells is before that of another. -/
def ChangedBefore (own work : Condition) : Prop :=
  ∃ w w' : Time.Written, w.IsReadIn own.lastTransition ∧ w'.IsReadIn work.lastTransition ∧
    w.moment < w'.moment

theorem changedBefore_of_instant_lt (hchanged : own.transition? = some changed)
    (hsince : work.transition? = some since) (h : changed.instant < since.instant) :
    own.ChangedBefore work := by
  obtain ⟨w, hw, rfl⟩ := Time.parse?_eq_some_iff.mp hchanged
  obtain ⟨w', hw', rfl⟩ := Time.parse?_eq_some_iff.mp hsince
  -- Reading cuts both times in the same way, so it cannot have put them in this order.
  refine ⟨w, w', hw, hw', not_le.mp fun hle => ?_⟩
  exact absurd (Time.Written.instant_le_of_moment_le hw'.2.1 hw.2.1 hle) (not_le.mpr h)

end Condition

namespace Snapshot

variable {snapshot : Snapshot} {type : String} {candidate : Condition} {resource : ResourceStatus}

theorem changedBefore_of_not_meets
    (hlast : IsLast (·.asserts type) snapshot.conditions candidate)
    (hrejected : snapshot.meets type = false) :
    ∃ applied, IsLast (·.asserts appliedType) snapshot.conditions applied ∧
      candidate.ChangedBefore applied := by
  have hcounts : ¬ snapshot.Counts type candidate := by
    rw [← meets_of_find? (find?_eq_some_iff.mpr hlast), hrejected]
    exact Bool.false_ne_true
  have htype : ¬ Text.sameFolded type appliedType = true := fun htype => hcounts (.applied htype)
  cases happlied : snapshot.find? appliedType with
  | none => exact absurd (.unapplied (find?_eq_none_iff.mp happlied)) hcounts
  | some applied =>
    have hlastApplied := find?_eq_some_iff.mp happlied
    refine ⟨applied, hlastApplied, ?_⟩
    cases hsince : applied.transition? with
    | none => exact absurd (.timeless hlastApplied (.inl hsince)) hcounts
    | some since =>
      cases hchanged : candidate.transition? with
      | none => exact absurd (.timeless hlastApplied (.inr hchanged)) hcounts
      | some changed =>
        rw [counts_iff_le htype hlastApplied hsince hchanged, not_le] at hcounts
        exact Condition.changedBefore_of_instant_lt hchanged hsince hcounts

theorem changedBefore_of_not_isFresh (hrejected : resource.isFresh snapshot.appliedTime? = false) :
    ∃ own ∈ resource.conditions, ∃ work ∈ snapshot.conditions,
      own.asserts appliedType = true ∧ work.asserts appliedType = true ∧ own.ChangedBefore work := by
  obtain ⟨happlied, htime, hown, hchanged, hearlier⟩ := isFresh_eq_false_iff.mp hrejected
  have hwork := List.find?_some happlied
  rw [Bool.and_eq_true] at hwork
  exact ⟨_, List.mem_of_find?_eq_some hown, _, List.mem_of_find?_eq_some happlied,
    List.find?_some hown, hwork.1, Condition.changedBefore_of_instant_lt hchanged htime hearlier⟩

/-- Timestamps are in the order in which they are written: with one offset in that of their fields,
with the same fields apart by the difference of their offsets, and never in the reverse order of their
exact moments; so what does not count was earlier at the exact moments as well. -/
theorem instants_ordered :
    (∀ {v v' : String} {t t' : Time.Timestamp},
      Time.Timestamp.parse? v = some t → Time.Timestamp.parse? v' = some t' →
        ∃ w w' : Time.Written, w.IsReadIn v ∧ w'.IsReadIn v' ∧
          (w.zone.minutesEast = w'.zone.minutesEast →
            (t.instant < t'.instant ↔ w.fields < w'.fields)) ∧
          (w' = { w with zone := w'.zone } →
            t.instant - t'.instant =
              (w'.zone.minutesEast - w.zone.minutesEast) * 60 * 1000000) ∧
          (w.moment ≤ w'.moment → t.instant ≤ t'.instant)) ∧
    (∀ {snapshot : Snapshot} {type : String} {candidate : Condition},
      IsLast (·.asserts type) snapshot.conditions candidate → snapshot.meets type = false →
        ∃ applied, IsLast (·.asserts appliedType) snapshot.conditions applied ∧
          candidate.ChangedBefore applied) ∧
    (∀ {snapshot : Snapshot} {resource : ResourceStatus},
      resource.isFresh snapshot.appliedTime? = false →
        ∃ own ∈ resource.conditions, ∃ work ∈ snapshot.conditions,
          own.asserts appliedType = true ∧ work.asserts appliedType = true ∧
            own.ChangedBefore work) := by
  refine ⟨?_, changedBefore_of_not_meets, changedBefore_of_not_isFresh⟩
  intro v v' t t' h h'
  obtain ⟨w, hw, rfl⟩ := Time.parse?_eq_some_iff.mp h
  obtain ⟨w', hw', rfl⟩ := Time.parse?_eq_some_iff.mp h'
  refine ⟨w, w', hw, hw', ?_, ?_, ?_⟩
  · exact Time.Written.instant_lt_iff hw.2.1 hw'.2.1
  · intro hzone
    rw [hzone]
    exact Time.Written.instant_sub_instant w w'.zone
  · exact Time.Written.instant_le_of_moment_le hw.2.1 hw'.2.1

/-- The work is applied as March begins, after the last tenth of a microsecond of a leap day. -/
theorem instants_ordered_leapDay :
    let before := "2024-02-29T23:59:59.9999999Z"
    let applied : Condition := ⟨"Applied", .yes, "", "", "2024-03-01T01:00:00+01:00"⟩
    let available : Condition := ⟨"Available", .yes, "", "", before⟩
    let job : ResourceStatus := {
      kind := "Job", name := "pi", space := "", group := "batch", version := "v1"
      resource := "jobs", conditions := [{ applied with lastTransition := before }], feedback := [] }
    let work : Snapshot := {
      id := "b-1", name := "web", consumer := "cluster1", version := 1, created := "", updated := ""
      manifests := [], conditions := [applied, available], resources := [job], deleteOption := "" }
    let last : Time.Timestamp := ⟨2024, 2, 29, 23, 59, 59, 999999, 0⟩
    let march : Time.Timestamp := ⟨2024, 3, 1, 0, 0, 0, 0, 0⟩
    (Time.Timestamp.parse? before = some last ∧
      Time.Timestamp.parse? "2024-03-01T00:00:00Z" = some march ∧ last.instant < march.instant) ∧
    (IsLast (·.asserts "Available") work.conditions available ∧ work.meets "Available" = false ∧
      ∃ other, IsLast (·.asserts appliedType) work.conditions other ∧ available.ChangedBefore other) ∧
    job.isFresh work.appliedTime? = false ∧
      ∃ own ∈ job.conditions, ∃ other ∈ work.conditions,
        own.asserts appliedType = true ∧ other.asserts appliedType = true ∧
          own.ChangedBefore other := by
  intro before applied available job work last march
  obtain ⟨hstrings, hwork, hresource⟩ := instants_ordered
  have hlast : Time.Timestamp.parse? before = some last := by decide
  have hmarch : Time.Timestamp.parse? "2024-03-01T00:00:00Z" = some march := by decide
  have havailable : IsLast (·.asserts "Available") work.conditions available :=
    ⟨by decide, [applied], [], rfl, nofun⟩
  have hrejected : work.meets "Available" = false := by decide
  have hstale : job.isFresh work.appliedTime? = false := by decide
  refine ⟨⟨hlast, hmarch, ?_⟩, ⟨havailable, hrejected, hwork havailable hrejected⟩, hstale,
    hresource hstale⟩
  obtain ⟨w, w', hw, hw', horder, -⟩ := hstrings hlast hmarch
  have hread : Time.Written.IsReadIn
      ⟨2024, 2, 29, 23, 59, 59, "9999999".toList, .utc⟩ before := by decide
  have hread' : Time.Written.IsReadIn
      ⟨2024, 3, 1, 0, 0, 0, [], .utc⟩ "2024-03-01T00:00:00Z" := by decide
  obtain rfl := hw.unique hread
  obtain rfl := hw'.unique hread'
  exact (horder rfl).mpr (by decide)

end Snapshot

end WorkWatch
