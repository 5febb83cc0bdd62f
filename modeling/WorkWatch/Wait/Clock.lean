import WorkWatch.Wait.Timescale

/-!
A clock with alarms that cancel. While time passes the alarms that fall due go off in turn; a wait
on the cancellation ends as soon as one has gone off.
-/

namespace WorkWatch

open Timescale

/-- Whether a wait has been cancelled, and the cause given first. -/
structure Cancellation where
  cause : Option String
  deriving DecidableEq, Repr

namespace Cancellation

def none : Cancellation := ⟨.none⟩

def isCancelled (token : Cancellation) : Bool := token.cause.isSome

/-- Cancels; a cancellation that stands keeps its cause. -/
def cancel (cause : String) (token : Cancellation) : Cancellation :=
  if token.isCancelled then token else ⟨some cause⟩

def shownCause (token : Cancellation) : String :=
  match token.cause with
  | .none => "cancelled"
  | some cause => if cause.isEmpty then "cancelled" else cause

end Cancellation

/-- The cause of a cancellation without one. -/
def defaultCause : String := "cancelled"

/-- A cancellation to come. -/
structure Alarm (τ : Type) where
  due : τ
  cause : String

/-- The time, the alarms to come in the order of their times, and whether one has gone off. -/
structure Clock (τ : Type) where
  now : τ
  alarms : List (Alarm τ)
  token : Cancellation

variable {τ : Type} [Timescale τ]

/-- Inserts an alarm before those that are due later. -/
def Alarm.insert (alarm : Alarm τ) : List (Alarm τ) → List (Alarm τ)
  | [] => [alarm]
  | first :: rest =>
    if alarm.due < first.due then alarm :: first :: rest else first :: insert alarm rest

/-- Alarms in the order of their times; those due at the same time keep their order. -/
def Alarm.sort (alarms : List (Alarm τ)) : List (Alarm τ) :=
  alarms.foldl (fun sorted alarm => alarm.insert sorted) []

namespace Clock

def start (alarms : List (Alarm τ)) (token : Cancellation) : Clock τ :=
  ⟨0, Alarm.sort alarms, token⟩

/-- Lets time pass up to `target`. A watchful passing ends at the alarm that finds or makes it
cancelled. -/
def passTo (watchful : Bool) (target now : τ) (token : Cancellation) :
    List (Alarm τ) → Clock τ
  | [] => ⟨target, [], token⟩
  | alarm :: rest =>
    if alarm.due ≤ target then
      -- An alarm that has been due for some time does not turn the clock back.
      let now := later now alarm.due
      let token := token.cancel alarm.cause
      if watchful && token.isCancelled then ⟨now, rest, token⟩
      else passTo watchful target now token rest
    else ⟨target, alarm :: rest, token⟩

/-- Lets some time pass; none at all does not even let alarms go off. -/
def spend (duration : τ) (clock : Clock τ) : Clock τ :=
  if duration == 0 then clock
  else passTo false (clock.now + duration) clock.now clock.token clock.alarms

/-- The time that a wait asks for, zero at least. -/
def asked (duration : τ) : τ := if 0 < duration then duration else 0

/-- Waits on the cancellation for some time; when it is cancelled already no time passes. -/
def sleep (duration : τ) (clock : Clock τ) : Clock τ :=
  if clock.token.isCancelled then clock
  else passTo true (clock.now + asked duration) clock.now clock.token clock.alarms

end Clock

end WorkWatch
