import WorkWatch.Proofs.Except
import WorkWatch.Work.Snapshot

/-! Bundles that cannot be read. What is missing or of another type is passed over; only a number
without an integer part and a document nested too deep stop the reading, and only where a number or
a document is looked for. Of several problems the first one is told. -/

namespace WorkWatch

/-- A number has no integer part, being infinite or NaN. -/
inductive Endless : Json → BundleProblem → Prop
  | infinite {x : Float} {negative : Bool} (h : Decimal.Binary.ofFloat x = .infinite negative) :
      Endless (.float x) (.number .infinite)
  | nan {x : Float} (h : Decimal.Binary.ofFloat x = .nan) : Endless (.float x) (.number .nan)

theorem Endless.exists_float {value : Json} {problem : BundleProblem} (h : Endless value problem) :
    ∃ x, value = .float x := by
  cases h with
  | infinite | nan => exact ⟨_, rfl⟩

theorem whole_eq_error_iff {x : Float} {problem : BundleProblem} :
    FeedbackValue.whole x = .error problem ↔ Endless (.float x) problem := by
  unfold FeedbackValue.whole
  rw [mapError_eq_error_iff]
  constructor
  · rintro ⟨cause, h, rfl⟩
    unfold Decimal.truncated at h
    cases hx : Decimal.Binary.ofFloat x with
    | finite negative mantissa exponent =>
      rw [hx] at h
      cases h
    | infinite negative =>
      rw [hx] at h
      cases h
      exact .infinite hx
    | nan =>
      rw [hx] at h
      cases h
      exact .nan hx
  · intro h
    unfold Decimal.truncated
    cases h with
    | infinite hx => exact ⟨.infinite, hx ▸ rfl, rfl⟩
    | nan hx => exact ⟨.nan, hx ▸ rfl, rfl⟩

theorem versionOf_eq_error_iff {value : Json} {problem : BundleProblem} :
    versionOf value = .error problem ↔ Endless value problem := by
  cases value with
  | float x => exact whole_eq_error_iff
  | _ => exact ⟨nofun, nofun⟩

namespace FeedbackValue

/-- A field value has no text, and its number is endless; or it has neither a text, a number nor a
boolean, and its document is nested too deep. -/
inductive Undecodable (field : Json) : BundleProblem → Prop
  | number {problem : BundleProblem} (noText : (field.get "string").str? = none)
      (endless : Endless (field.get "integer") problem) : Undecodable field problem
  | document {raw : String} {container : Json.Container}
      (noText : (field.get "string").str? = none)
      (noInteger : ∀ n, field.get "integer" ≠ .int n) (noFloat : ∀ x, field.get "integer" ≠ .float x)
      (noBoolean : ∀ b, field.get "boolean" ≠ .bool b) (given : field.get "jsonRaw" = .str raw)
      (deep : Json.parse raw = .error (.tooDeep container)) : Undecodable field (.tooDeep container)

theorem ofRaw_eq_error_iff {raw : String} {problem : BundleProblem} :
    ofRaw raw = .error problem ↔
      ∃ container, Json.parse raw = .error (.tooDeep container) ∧ problem = .tooDeep container := by
  unfold ofRaw
  cases Json.parse raw with
  | ok value => exact ⟨nofun, nofun⟩
  | error error =>
    cases error with
    | tooDeep container =>
      constructor
      · intro h
        cases h
        exact ⟨container, rfl, rfl⟩
      · rintro ⟨_, h, rfl⟩
        cases h
        rfl
    | malformed | tooLong digits => exact ⟨nofun, nofun⟩

theorem str?_eq_none {value : Json} (h : ∀ text, value ≠ .str text) : value.str? = none := by
  cases value with
  | str text => exact absurd rfl (h text)
  | _ => rfl

/-- The first variant of a field value that has the right type is decoded, so that it alone can
fail. -/
theorem ofField_eq_error_iff {field : Json} {problem : BundleProblem} :
    ofField field = .error problem ↔ Undecodable field problem := by
  unfold ofField
  -- Variant by variant: each case rules out what the cases before it have taken.
  split
  · rename_i text htext
    refine ⟨nofun, fun h => ?_⟩
    cases h with
    | number noText => rw [htext] at noText; cases noText
    | document noText => rw [htext] at noText; cases noText
  · rename_i htext
    have noText : (field.get "string").str? = none := str?_eq_none fun text h => htext text h
    split
    · rename_i n hn
      refine ⟨nofun, fun h => ?_⟩
      cases h with
      | number _ endless => rw [hn] at endless; cases endless
      | document _ noInteger => exact absurd hn (noInteger n)
    · rename_i x hx
      rw [map_eq_error_iff, whole_eq_error_iff]
      refine ⟨fun h => .number noText (hx ▸ h), fun h => ?_⟩
      cases h with
      | number _ endless => exact hx ▸ endless
      | document _ _ noFloat => exact absurd hx (noFloat x)
    · rename_i hinteger hfloat
      split
      · rename_i b hb
        refine ⟨nofun, fun h => ?_⟩
        cases h with
        | number _ endless =>
          obtain ⟨x, hx⟩ := endless.exists_float
          exact (hfloat x hx).elim
        | document _ _ _ noBoolean => exact absurd hb (noBoolean b)
      · rename_i hboolean
        split
        · rename_i raw hraw
          rw [map_eq_error_iff, ofRaw_eq_error_iff]
          constructor
          · rintro ⟨container, deep, rfl⟩
            exact .document noText (fun n h => hinteger n h) (fun x h => hfloat x h)
              (fun b h => hboolean b h) hraw deep
          · intro h
            cases h with
            | number _ endless =>
              generalize field.get "integer" = value at *
              cases endless with
              | infinite | nan => exact (hfloat _ rfl).elim
            | @document raw' container _ _ _ _ given deep =>
              rw [hraw] at given
              cases given
              exact ⟨container, deep, rfl⟩
        · rename_i hraw
          refine ⟨nofun, fun h => ?_⟩
          cases h with
          | number _ endless =>
            obtain ⟨x, hx⟩ := endless.exists_float
            exact (hfloat x hx).elim
          | document _ _ _ _ given => exact (hraw _ given).elim

/-- An entry of a feedback list has a name and a field value that cannot be decoded. -/
inductive BadEntry (entry : Json) : BundleProblem → Prop
  | intro {name : String} {members : List (String × Json)} {problem : BundleProblem}
      (named : entry.get "name" = .str name) (given : entry.get "fieldValue" = .obj members)
      (undecodable : Undecodable (.obj members) problem) : BadEntry entry problem

theorem store_eq_error_iff (feedback : Fields FeedbackValue) (entry : Json)
    (problem : BundleProblem) : store feedback entry = .error problem ↔ BadEntry entry problem := by
  unfold store
  split
  · rename_i name members hname hmembers
    refine (bind_eq_error_iff_of_ok fun found => ?_).trans (ofField_eq_error_iff.trans
      ⟨fun h => .intro hname hmembers h, fun h => ?_⟩)
    · cases found <;> exact ⟨_, rfl⟩
    · cases h with
      | intro named given undecodable =>
        rw [hmembers] at given
        cases given
        exact undecodable
  · rename_i hneither
    refine ⟨nofun, fun h => ?_⟩
    cases h with
    | intro named given => exact (hneither _ _ named given).elim

end FeedbackValue

/-- The first feedback entry of a resource that cannot be decoded. -/
def BadResource (resource : Json) (problem : BundleProblem) : Prop :=
  First FeedbackValue.BadEntry ((resource.get "statusFeedback").get "values").itemsOrNone problem

theorem ResourceStatus.ofJson_eq_error_iff (resource : Json) (problem : BundleProblem) :
    ResourceStatus.ofJson resource = .error problem ↔ BadResource resource problem := by
  refine Iff.trans ?_ (foldlM_eq_error_iff FeedbackValue.store_eq_error_iff _ [])
  exact bind_eq_error_iff_of_ok fun feedback => ⟨_, rfl⟩

/-- The reports about the resources of a work. -/
def reportsOf (bundle : Json) : List Json :=
  ((bundle.get "status").get "resourceStatus").itemsOrNone.filter Json.isObject

/-- The version of a bundle is endless, or that of none is and the first bad entry is this one. -/
inductive BadBundle (bundle : Json) : BundleProblem → Prop
  | version {problem : BundleProblem} (endless : Endless (bundle.get "version") problem) :
      BadBundle bundle problem
  | resource {problem : BundleProblem} (sound : ∀ other, ¬ Endless (bundle.get "version") other)
      (bad : First BadResource (reportsOf bundle) problem) : BadBundle bundle problem

theorem Summary.ofBundle_eq_error_iff (consumer : String) (bundle : Json) (problem : BundleProblem) :
    Summary.ofBundle consumer bundle = .error problem ↔ Endless (bundle.get "version") problem := by
  rw [← versionOf_eq_error_iff]
  exact bind_eq_error_iff_of_ok fun version => ⟨_, rfl⟩

theorem Snapshot.ofBundle_eq_error_iff (consumer : String) (bundle : Json)
    (problem : BundleProblem) :
    Snapshot.ofBundle consumer bundle = .error problem ↔ BadBundle bundle problem := by
  have hbad : BadBundle bundle problem ↔ versionOf (bundle.get "version") = .error problem ∨
      (∀ other, versionOf (bundle.get "version") ≠ .error other) ∧
        First BadResource (reportsOf bundle) problem := by
    simp only [ne_eq, versionOf_eq_error_iff]
    constructor
    · intro h
      cases h with
      | version endless => exact .inl endless
      | resource sound bad => exact .inr ⟨sound, bad⟩
    · rintro (endless | ⟨sound, bad⟩)
      · exact .version endless
      · exact .resource sound bad
  rw [hbad]
  apply step_bind_eq_error_iff
  intro version _
  rw [← mapM_eq_error_iff ResourceStatus.ofJson_eq_error_iff]
  exact bind_eq_error_iff_of_ok fun resources => ⟨_, rfl⟩

/-- A bundle is read, as a snapshot and as a summary, unless it is bad; then the first problem is
told. A summary looks at the version alone. -/
theorem ofBundle_ok_iff (consumer : String) (bundle : Json) :
    ((∃ snapshot, Snapshot.ofBundle consumer bundle = .ok snapshot) ↔
      ∀ problem, ¬ BadBundle bundle problem) ∧
    ((∃ summary, Summary.ofBundle consumer bundle = .ok summary) ↔
      ∀ problem, ¬ Endless (bundle.get "version") problem) ∧
    (∀ problem, Snapshot.ofBundle consumer bundle = .error problem ↔ BadBundle bundle problem) ∧
    ∀ problem, Summary.ofBundle consumer bundle = .error problem ↔
      Endless (bundle.get "version") problem := by
  refine ⟨?_, ?_, Snapshot.ofBundle_eq_error_iff consumer bundle,
    Summary.ofBundle_eq_error_iff consumer bundle⟩
  · rw [exists_ok_iff]
    exact forall_congr' fun problem => not_congr (Snapshot.ofBundle_eq_error_iff ..)
  · rw [exists_ok_iff]
    exact forall_congr' fun problem => not_congr (Summary.ofBundle_eq_error_iff ..)

/-- A version is infinite, and a reported integer is NaN. -/
theorem ofBundle_bad :
    let endless : Json := .obj [("version", .float (Decimal.ofRank false Decimal.infiniteRank))]
    let reporting (value : Json) : Json := .obj [("status", .obj [("resourceStatus", .arr [
      .obj [("statusFeedback", .obj [("values", .arr [
        .obj [("name", .str "n"), ("fieldValue", .obj [("integer", value)])]])])]])])]
    Snapshot.ofBundle "cluster1" endless = .error (.number .infinite) ∧
    Summary.ofBundle "cluster1" endless = .error (.number .infinite) ∧
    Snapshot.ofBundle "cluster1" (reporting (.float Decimal.nan)) = .error (.number .nan) := by
  refine ⟨?_, ?_, ?_⟩
  · rfl
  · rfl
  · rfl

end WorkWatch
