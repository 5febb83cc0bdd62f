import WorkWatch.Wait.Backoff
import WorkWatch.Wait.Note

/-!
A tally of polls: each success and each failure is entered in turn, and a failure hands back the
interval to go on with.
-/

namespace WorkWatch

/-- What a poll came to. -/
inductive PollResult where
  | success
  | failure
  deriving DecidableEq, Repr

namespace Backoff

/-- What entering the result of a poll leaves: the backoff after it, the interval that a failure hands
back, and a note if the interval was increased in a way to be reported. -/
structure Entry (τ : Type) where
  backoff : Backoff τ
  interval? : Option τ
  note? : Option (WaitNote τ)

variable {τ : Type} [Timescale τ]

def enter (settings : PollSettings τ) (backoff : Backoff τ) :
    PollResult → Except BackoffError (Entry τ)
  | .success => .ok ⟨backoff.success settings, none, none⟩
  | .failure =>
    match backoff.failureError settings with
    | some error => .error error
    | none =>
      let after := backoff.failure settings
      let note := WaitNote.intervalIncreased after.interval after.failures settings.cap
      .ok ⟨after, some after.interval, if backoff.isReported settings after then some note else none⟩

/-- The backoff after a row of results, as far as all of them can be entered. -/
def tally (settings : PollSettings τ) (results : List PollResult) :
    Except BackoffError (Backoff τ) :=
  results.foldlM (fun backoff result => (backoff.enter settings result).map (·.backoff))
    (start settings)

end Backoff

end WorkWatch
