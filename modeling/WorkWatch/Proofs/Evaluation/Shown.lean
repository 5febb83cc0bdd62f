import WorkWatch.Proofs.Decimal.RoundTrip
import WorkWatch.Proofs.Evaluation.Equality
import WorkWatch.Proofs.Json.Compact
import WorkWatch.Report.Describe

/-! What the description of a work shows of a value against what the value equals. The description
keeps the order in which members were reported, and equality compares them in the order of their
names. -/

namespace WorkWatch

open Report (feedbackText)

theorem fullText_of_not_isNumber {x : Float} (hx : ¬ Double.IsNumber x) :
    Decimal.fullText x = "nan" := by
  have hnan : x.toModel.unpack = .notANumber := not_not.mp hx
  unfold Decimal.fullText
  rw [Double.binary_ofFloat, hnan]
  rfl

/-- A double equals its own text unless it is NaN. -/
theorem equalsLiteral_fullText (x : Float) :
    equalsLiteral (.float x) (Decimal.fullText x) = true ↔ Double.IsNumber x := by
  unfold equalsLiteral
  dsimp only
  by_cases hx : Double.IsNumber x
  · obtain ⟨y, hread, hsame⟩ := Decimal.readFloat_fullText hx
    have hvalue : Double.value x = Double.value y := congrArg Double.unpackedValue hsame.symm
    have hy : Double.IsNumber y := fun hnan => hx (hsame.symm.trans hnan)
    rw [hread]
    exact iff_of_true (Double.beq_iff.mpr ⟨hx, hy, hvalue⟩) hx
  · have hread : Decimal.readFloat? "nan" = some Decimal.nan := by decide +kernel
    rw [fullText_of_not_isNumber hx, hread]
    exact iff_of_false (fun hequal => hx (Double.beq_iff.mp hequal).1) hx

/-- A value equals the text that is shown for it exactly if the members of every object inside it
were reported in the order of their names, and it is not NaN. -/
theorem equalsLiteral_feedbackText_iff (value : Json) :
    equalsLiteral value (feedbackText value) = true ↔
      value.InOrder ∧ ∀ x, value = .float x → Double.IsNumber x := by
  cases value with
  | null => exact iff_of_true rfl ⟨trivial, nofun⟩
  | bool value => exact iff_of_true (beq_self_eq_true _) ⟨trivial, nofun⟩
  | int value => exact iff_of_true (beq_self_eq_true _) ⟨trivial, nofun⟩
  | float value =>
    refine (equalsLiteral_fullText value).trans ⟨fun h => ⟨trivial, ?_⟩, fun h => h.2 value rfl⟩
    rintro _ ⟨⟩
    exact h
  | str value => exact iff_of_true (beq_self_eq_true _) ⟨trivial, nofun⟩
  | arr items =>
    rw [equalsLiteral_arr, beq_iff_eq]
    exact Json.compact_sorted_eq_iff.trans ⟨fun h => ⟨h, nofun⟩, fun h => h.1⟩
  | obj members =>
    rw [equalsLiteral_obj, beq_iff_eq]
    exact Json.compact_sorted_eq_iff.trans ⟨fun h => ⟨h, nofun⟩, fun h => h.1⟩

def reportingDocument (text : String) : Json :=
  .obj [("status", .obj [("resourceStatus", .arr [.obj [
    ("resourceMeta", .obj [("kind", .str "Job")]),
    ("statusFeedback", .obj [("values", .arr [.obj [
      ("name", .str "doc"), ("fieldValue", .obj [("jsonRaw", .str text)])]])])]])])]

/-- The name and the shown text of every feedback value, and whether the value equals that text. -/
def shownFeedback (bundle : Json) : Option (List (String × String × Bool)) :=
  (Snapshot.ofBundle "cluster1" bundle).toOption.map fun snapshot =>
    snapshot.resources.flatMap fun resource => resource.feedback.map fun (name, value) =>
      (name, feedbackText value.toJson,
        equalsLiteral value.toJson (feedbackText value.toJson))

/-- A document whose second member has the lesser name does not equal what is shown for it. -/
theorem shownFeedback_unordered :
    shownFeedback (reportingDocument "\x7b\"b\":1,\"a\":2\x7d") =
      some [("doc", "\x7b\"b\":1,\"a\":2\x7d", false)] := by
  decide +kernel

end WorkWatch
