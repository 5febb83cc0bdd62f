import WorkWatch.Wait.Timescale

/-!
The poll interval: it doubles with every failure in a row, up to a cap, and a success resets it.
-/

namespace WorkWatch

open Timescale

/-- How often to poll, how long to wait at most, and how far the interval may grow. -/
structure PollSettings (τ : Type) where
  interval : τ
  timeout : τ
  cap : τ

/-- The interval cannot be computed: the power of two is too large for a double. -/
inductive BackoffError where
  | powerTooLarge
  deriving DecidableEq, Repr

/-- The failures in a row and the interval they have led to. -/
structure Backoff (τ : Type) where
  failures : Nat
  interval : τ

/-- Greatest exponent of a power of two among the doubles. -/
def greatestPower : Nat := 1023

/-- An increased interval is reported at every third failure. -/
def reportEvery : Nat := 3

variable {τ : Type} [Timescale τ]

/-- The interval after a number of failures in a row. -/
def PollSettings.intervalAfter (settings : PollSettings τ) : Nat → Except BackoffError τ
  | 0 => .ok settings.interval
  | failures + 1 =>
    if greatestPower < failures then .error .powerTooLarge
    else .ok (lesser (scale settings.interval failures) settings.cap)

namespace Backoff

def start (settings : PollSettings τ) : Backoff τ := ⟨0, settings.interval⟩

def success (settings : PollSettings τ) (_ : Backoff τ) : Backoff τ := start settings

/-- Counts a failure. The count stands even when there is no interval for it. -/
def failure (settings : PollSettings τ) (backoff : Backoff τ) : Backoff τ :=
  match settings.intervalAfter (backoff.failures + 1) with
  | .ok interval => ⟨backoff.failures + 1, interval⟩
  | .error _ => ⟨backoff.failures + 1, backoff.interval⟩

/-- The error of counting a failure, if there is one. -/
def failureError (settings : PollSettings τ) (backoff : Backoff τ) : Option BackoffError :=
  match settings.intervalAfter (backoff.failures + 1) with
  | .ok _ => none
  | .error error => some error

/-- The failure that led from one state to the next has increased the interval in a way to be
reported: at every third failure, and whenever the cap is reached. -/
def isReported (settings : PollSettings τ) (before after : Backoff τ) : Bool :=
  after.interval != before.interval &&
    (after.failures % reportEvery == 0 || settings.cap ≤ after.interval)

end Backoff

end WorkWatch
