import Mathlib.Algebra.Group.Int.Defs
import WorkWatch.Proofs.Double.Integer
import WorkWatch.Proofs.Evaluation.Value

/-! Evaluations that fail. The order of numbers is asked of doubles, and an integer of the feedback
may be too large for one; an evaluation fails exactly if, going from left to right and no further
than needed, it comes to such an integer. -/

namespace WorkWatch

/-- An integer too large for a double: at least half a unit below `2 ^ 1024` in size. -/
def Oversized (n : Int) : Prop := (2 ^ 54 - 1) * 2 ^ 970 ≤ n.natAbs

theorem numberOf_eq_error_iff {actual : Json} {error : ComparisonError} :
    numberOf actual = .error error ↔ ∃ n, actual = .int n ∧ Oversized n := by
  cases actual with
  | int n =>
    rw [numberOf]
    cases hn : Decimal.ofInt? n with
    | none =>
      have hlarge : Oversized n := (Double.ofInt?_eq_none_iff n).mp hn
      cases error
      exact ⟨fun _ => ⟨n, rfl, hlarge⟩, fun _ => rfl⟩
    | some number =>
      refine ⟨nofun, ?_⟩
      rintro ⟨_, hint, hlarge⟩
      cases hint
      rw [(Double.ofInt?_eq_none_iff n).mpr hlarge] at hn
      cases hn
  | _ => exact ⟨nofun, nofun⟩

theorem comparesNumber_eq_error_iff {relation : Float → Float → Bool} {actual : Json}
    {literal : String} {error : ComparisonError} :
    comparesNumber relation actual literal = .error error ↔ ∃ n, actual = .int n ∧ Oversized n := by
  refine Iff.trans ?_ (numberOf_eq_error_iff : numberOf actual = .error error ↔ _)
  unfold comparesNumber
  rcases numberOf actual with error' | _ | number
  · exact ⟨fun h => by cases h; rfl, fun h => by cases h; rfl⟩
  · exact ⟨nofun, nofun⟩
  · refine ⟨?_, nofun⟩
    dsimp only [bind, Except.bind]
    cases Decimal.readFloat? literal with
    | none => exact nofun
    | some bound => exact nofun

namespace ResourceStatus

/-- The check asks for the order of a feedback value that is an oversized integer. -/
def Oversteps (resource : ResourceStatus) (check : Check) : Prop :=
  ∃ path order literal n, check = .comparison path (.ordered order) literal ∧
    resource.resolve path = .int n ∧ Oversized n

/-- A missing value is no number, so that it needs no case of its own here. -/
theorem passes_ordered (resource : ResourceStatus) (path : String) (order : Order)
    (literal : String) :
    resource.passes (.comparison path (.ordered order) literal) =
      comparesNumber order.compare (resource.resolve path) literal := by
  rw [passes]
  split
  · rename_i hnull
    rw [hnull]
    rfl
  · rfl

theorem passes_equal (resource : ResourceStatus) (path literal : String) :
    ∃ met, resource.passes (.comparison path .equal literal) = .ok met := by
  rw [passes]
  split
  · exact ⟨false, rfl⟩
  · exact ⟨_, rfl⟩

theorem passes_eq_error_iff {resource : ResourceStatus} {check : Check} {error : ComparisonError} :
    resource.passes check = .error error ↔ resource.Oversteps check := by
  unfold Oversteps
  cases check with
  | condition type =>
    refine ⟨nofun, ?_⟩
    rintro ⟨_, _, _, _, hcheck, -⟩
    cases hcheck
  | comparison path comparator literal =>
    cases comparator with
    | equal =>
      obtain ⟨met, hmet⟩ := resource.passes_equal path literal
      rw [hmet]
      refine ⟨nofun, ?_⟩
      rintro ⟨_, _, _, _, hcheck, -⟩
      cases hcheck
    | ordered order =>
      rw [passes_ordered, comparesNumber_eq_error_iff]
      constructor
      · rintro ⟨n, hint, hlarge⟩
        exact ⟨path, order, literal, n, rfl, hint, hlarge⟩
      · rintro ⟨_, _, _, n, hcheck, hint, hlarge⟩
        cases hcheck
        exact ⟨n, hint, hlarge⟩

end ResourceStatus

namespace Snapshot

/-- The resources that a term asks about, in the order in which they are asked. -/
def asked (snapshot : Snapshot) (kind : String) (space name : Option String) :
    List ResourceStatus :=
  snapshot.resources.filter fun resource =>
    resource.isSelected kind space name && resource.isFresh snapshot.appliedTime?

/-- Asking for a term comes to an oversized integer: no resource before passes the check. -/
def Oversteps (snapshot : Snapshot) : Term → Prop
  | .work _ => False
  | .resource kind space name check =>
    ∃ before resource after, snapshot.asked kind space name = before ++ resource :: after ∧
      (∀ earlier ∈ before, earlier.passes check = .ok false) ∧ resource.Oversteps check

theorem satisfies_eq_error_iff {snapshot : Snapshot} {term : Term} {error : ComparisonError} :
    snapshot.satisfies term = .error error ↔ snapshot.Oversteps term := by
  cases term with
  | work type => exact ⟨nofun, nofun⟩
  | resource kind space name check =>
    refine anyHolds_eq_error_iff.trans ?_
    unfold Oversteps
    constructor
    · rintro ⟨before, resource, after, hsplit, hbefore, herror⟩
      exact ⟨before, resource, after, hsplit, hbefore,
        ResourceStatus.passes_eq_error_iff.mp herror⟩
    · rintro ⟨before, resource, after, hsplit, hbefore, hlarge⟩
      exact ⟨before, resource, after, hsplit, hbefore,
        ResourceStatus.passes_eq_error_iff.mpr hlarge⟩

/-- An evaluation fails exactly if the text is an expression whose evaluation comes to a term that
comes to an oversized integer. In every other case it is true or false. -/
theorem evaluate_eq_error_iff (snapshot : Snapshot) (expression : String) :
    (∃ error, snapshot.evaluate expression = .error error) ↔
      ∃ tree, Expression.parse expression = .ok tree ∧
        tree.ComesTo snapshot.satisfies snapshot.Oversteps := by
  unfold evaluate satisfiesTree
  cases hparse : Expression.parse expression with
  | error problem =>
    refine ⟨?_, ?_⟩
    · rintro ⟨error, h⟩
      cases h
    · rintro ⟨tree, htree, -⟩
      cases htree
  | ok tree =>
    dsimp only
    rw [Expression.chainValue_eq_value]
    constructor
    · rintro ⟨error, h⟩
      exact ⟨tree, rfl,
        (Expression.value_eq_error_iff _ (fun _ => satisfies_eq_error_iff) tree).mp h⟩
    · rintro ⟨tree', htree, h⟩
      cases htree
      exact ⟨.integerTooLarge,
        (Expression.value_eq_error_iff _ (fun _ => satisfies_eq_error_iff) tree).mpr h⟩

def reporting (n : Int) : Json :=
  .obj [("status", .obj [("resourceStatus", .arr [.obj [
    ("resourceMeta", .obj [("kind", .str "Job")]),
    ("statusFeedback", .obj [("values", .arr [.obj [
      ("name", .str "n"), ("fieldValue", .obj [("integer", .int n)])]])])]])])]

/-- Of an integer of four hundred digits it is not told that it is not below one. -/
theorem evaluate_oversized :
    ∃ snapshot, Snapshot.ofBundle "cluster1" (reporting (10 ^ 400)) = .ok snapshot ∧
      snapshot.evaluate "Job:n<1" = .error .integerTooLarge := by
  have hfails : (Snapshot.ofBundle "cluster1" (reporting (10 ^ 400))).toOption.map
      (fun snapshot => (snapshot.evaluate "Job:n<1").isOk) = some false := by decide +kernel
  cases hread : Snapshot.ofBundle "cluster1" (reporting (10 ^ 400)) with
  | error problem =>
    rw [hread] at hfails
    cases hfails
  | ok snapshot =>
    refine ⟨snapshot, rfl, ?_⟩
    rw [hread] at hfails
    have hfail : (snapshot.evaluate "Job:n<1").isOk = false := Option.some.inj hfails
    cases hvalue : snapshot.evaluate "Job:n<1" with
    | ok met =>
      rw [hvalue] at hfail
      cases hfail
    | error error =>
      cases error
      rfl

end Snapshot

end WorkWatch
