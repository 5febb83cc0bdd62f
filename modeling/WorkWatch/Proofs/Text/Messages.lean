import Mathlib.Data.List.TakeWhile
import WorkWatch.Client.Basic
import WorkWatch.CommandLine.Option
import WorkWatch.Settings.Basic

/-! The messages of errors are not empty. -/

namespace WorkWatch

theorem append_ne_empty {first : String} (h : first ≠ "") (second : String) :
    first ++ second ≠ "" := by
  intro hempty
  apply h
  have hlists := congrArg String.toList hempty
  rw [String.toList_append] at hlists
  exact String.toList_inj.mp (List.append_eq_nil_iff.mp hlists).1

theorem Client.statusText_ne_empty (action : String) (status : Nat) (reason : String) :
    statusText action status reason ≠ "" := by
  intro hempty
  have hdropped : Text.dropRight Text.isBlank ("failed to " ++ action ++ ": HTTP " ++
      Text.natText status ++ " " ++ reason).toList = [] := by
    rw [← String.toList_ofList (l := Text.dropRight _ _)]
    exact congrArg String.toList hempty
  unfold Text.dropRight at hdropped
  rw [List.reverse_eq_nil_iff, List.dropWhile_eq_nil_iff] at hdropped
  have hletter : Text.isBlank 'f' = true := by
    apply hdropped
    simp [String.toList_append]
  exact absurd hletter (by decide)

end WorkWatch
