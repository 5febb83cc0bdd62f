import Mathlib.Data.List.Induction
import WorkWatch.Proofs.Wait.Account

/-! Waits that fail themselves. The interval after a failure is computed from a power of two, and
past the greatest one among the doubles there is none; so a condition wait fails at the end of too
long a streak of failures, or at a snapshot that cannot be evaluated, and in no other way. -/

namespace WorkWatch

/-- The number of failures in a row at the end of what the polls of a wait got. -/
def streak (got : List (Except Failure Snapshot)) : Nat :=
  (got.reverse.takeWhile (!·.isOk)).length

/-- The longest streak that a condition wait survives: the exponent of its interval is one less. -/
def longestStreak : Nat := greatestPower + 1

namespace Backoff

variable {τ : Type} [Timescale τ]

theorem failureError_eq_some_iff {settings : PollSettings τ} {backoff : Backoff τ}
    {error : BackoffError} :
    backoff.failureError settings = some error ↔ longestStreak < backoff.failures + 1 := by
  cases error
  unfold failureError longestStreak
  rw [PollSettings.intervalAfter]
  by_cases h : greatestPower < backoff.failures
  · rw [if_pos h]
    exact ⟨fun _ => Nat.succ_lt_succ h, fun _ => rfl⟩
  · rw [if_neg h]
    exact ⟨nofun, fun hlt => absurd (Nat.lt_of_succ_lt_succ hlt) h⟩

end Backoff

namespace Run

variable {τ σ : Type} [Timescale τ] {source : Source τ σ} {settings : PollSettings τ}
  {deadline : τ}

end Run

open Run

end WorkWatch
