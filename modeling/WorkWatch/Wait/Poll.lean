import WorkWatch.Evaluation.Basic
import WorkWatch.Failure.Reason
import WorkWatch.Wait.Backoff
import WorkWatch.Wait.Clock
import WorkWatch.Wait.Note

/-!
Waiting by polling: a snapshot is acquired again and again until the goal is reached, the deadline
has passed, or the wait is cancelled. A condition wait backs off on failures; a deletion wait polls
at its interval and succeeds when the work is gone.
-/

namespace WorkWatch

open Timescale

inductive WaitState where
  | idle
  | polling
  | conditionMet
  | expired
  | cancelled
  deriving DecidableEq, Repr

def WaitState.text : WaitState → String
  | .idle => "idle"
  | .polling => "polling"
  | .conditionMet => "condition_met"
  | .expired => "expired"
  | .cancelled => "cancelled"

/-- What asking for a snapshot gives, and the time it takes. -/
structure Acquisition (τ : Type) where
  takes : τ
  result : Except Failure Snapshot

/-- Where snapshots come from and where they go. Both may change the surroundings `σ`; a sink may
fail. -/
structure Source (τ σ : Type) where
  acquire : σ → Acquisition τ × σ
  sink : Option (τ → Snapshot → Bool → σ → Option Failure × σ)

/-- Why a wait itself fails. -/
inductive WaitFault where
  | backoff (error : BackoffError)
  | comparison (error : ComparisonError)
  deriving DecidableEq

/-- A wait under way. The lists are in the order of time. -/
structure Run (τ σ : Type) where
  surroundings : σ
  clock : Clock τ
  backoff : Backoff τ
  state : WaitState
  polls : Nat
  failures : Nat
  last : Option Snapshot
  polledAt : List τ
  waits : List τ
  delivered : List (Snapshot × Bool)
  notes : List (WaitNote τ)

/-- How a wait has ended. -/
structure WaitOutcome (τ : Type) where
  state : WaitState
  goal : Goal
  polls : Nat
  failures : Nat
  last : Option Snapshot
  error : Option (WaitError τ)

def WaitOutcome.succeeded {τ : Type} (outcome : WaitOutcome τ) : Bool :=
  outcome.state = .conditionMet

/-- The end of a wait: its outcome, a fault, or no end within the polls that were allowed. -/
inductive Ending (τ : Type) where
  | outcome (outcome : WaitOutcome τ)
  | raised (fault : WaitFault)
  | unfinished

/-- What one poll says about the goal. -/
inductive Verdict where
  | met
  | notMet
  | raised (fault : WaitFault)
  deriving DecidableEq

variable {τ σ : Type} [Timescale τ]

namespace Run

def start (settings : PollSettings τ) (clock : Clock τ) (surroundings : σ) : Run τ σ where
  surroundings
  clock
  backoff := Backoff.start settings
  state := .idle
  polls := 0
  failures := 0
  last := none
  polledAt := []
  waits := []
  delivered := []
  notes := []

def note (entry : WaitNote τ) (run : Run τ σ) : Run τ σ :=
  { run with notes := run.notes ++ [entry] }

/-- Adds a note where there is one. -/
def noteIf (condition : Bool) (entry : WaitNote τ) (run : Run τ σ) : Run τ σ :=
  if condition then run.note entry else run

/-- Asks for a snapshot and lets the time pass that this takes. -/
def acquire (source : Source τ σ) (run : Run τ σ) : Except Failure Snapshot × Run τ σ :=
  let (acquisition, surroundings) := source.acquire run.surroundings
  (acquisition.result, { run with
    surroundings
    clock := run.clock.spend acquisition.takes
    polls := run.polls + 1
    polledAt := run.polledAt ++ [run.clock.now] })

/-- A failed poll in a condition wait: counts the failure and backs off. -/
def fail (settings : PollSettings τ) (failure : Failure) (run : Run τ σ) : Verdict × Run τ σ :=
  let backoff := run.backoff.failure settings
  let counted := { run with backoff, failures := run.failures + 1 }
  match run.backoff.failureError settings with
  -- The failure is counted already where its interval cannot be computed.
  | some error => (.raised (.backoff error), counted)
  | none =>
    (.notMet,
      (counted.noteIf (run.backoff.isReported settings backoff)
        (.intervalIncreased backoff.interval backoff.failures settings.cap)).note
        (.pollFailed failure.reason.code failure.message backoff.interval))

/-- Compares the version of a snapshot with that of the one before. -/
def checkVersion (snapshot : Snapshot) (run : Run τ σ) : Run τ σ :=
  match run.last with
  | some previous =>
    run.noteIf (snapshot.version < previous.version)
      (.versionWentBack snapshot.name snapshot.version previous.version)
  | none => run

/-- Hands a snapshot to the sink. A sink that fails is only reported. -/
def deliver (source : Source τ σ) (snapshot : Snapshot) (met : Bool) (run : Run τ σ) : Run τ σ :=
  match source.sink with
  | none => run
  | some sink =>
    let (failure, surroundings) := sink run.clock.now snapshot met run.surroundings
    let run := { run with surroundings, delivered := run.delivered ++ [(snapshot, met)] }
    match failure with
    | none => run
    | some failure => run.note (.sinkFailed failure.text)

/-- A poll in a condition wait that gave a snapshot. -/
def receive (source : Source τ σ) (settings : PollSettings τ) (expression : String)
    (snapshot : Snapshot) (run : Run τ σ) : Verdict × Run τ σ :=
  let run := { run with backoff := run.backoff.success settings }
  -- The snapshot is the last one from here on, also when its evaluation raises.
  let run := { run.checkVersion snapshot with last := some snapshot }
  match snapshot.evaluate expression with
  | .error error => (.raised (.comparison error), run)
  | .ok met => (if met then .met else .notMet, run.deliver source snapshot met)

def pollCondition (source : Source τ σ) (settings : PollSettings τ) (expression : String)
    (run : Run τ σ) : Verdict × Run τ σ :=
  match run.acquire source with
  | (.error failure, run) => run.fail settings failure
  | (.ok snapshot, run) => run.receive source settings expression snapshot

def pollDeletion (source : Source τ σ) (run : Run τ σ) : Verdict × Run τ σ :=
  match run.acquire source with
  | (.error failure, run) =>
    if failure.reason.isGone then (.met, run.note (.gone failure.message))
    else
      (.notMet, { run with failures := run.failures + 1 }.note
        (.deletionPollFailed failure.message))
  | (.ok snapshot, run) => (.notMet, { run with last := some snapshot })

def poll (source : Source τ σ) (settings : PollSettings τ) (goal : Goal) (run : Run τ σ) :
    Verdict × Run τ σ :=
  match goal with
  | .condition expression => run.pollCondition source settings expression
  | .deletion => run.pollDeletion source

def finish (goal : Goal) (state : WaitState) (error : Option (WaitError τ)) (run : Run τ σ) :
    Ending τ × Run τ σ :=
  (.outcome ⟨state, goal, run.polls, run.failures, run.last, error⟩, { run with state })

def finishMet (goal : Goal) (run : Run τ σ) : Ending τ × Run τ σ :=
  (run.note (.met goal)).finish goal .conditionMet none

def finishExpired (settings : PollSettings τ) (goal : Goal) (run : Run τ σ) : Ending τ × Run τ σ :=
  (run.note (.timedOut settings.timeout goal)).finish goal .expired
    (some (.timedOut settings.timeout goal))

def finishCancelled (goal : Goal) (run : Run τ σ) : Ending τ × Run τ σ :=
  let cause := run.clock.token.shownCause
  (run.note (.cancelled goal cause)).finish goal .cancelled (some (.cancelled goal cause))

/-- Waits on the cancellation for the interval, but not past the deadline. -/
def pause (deadline : τ) (run : Run τ σ) : Run τ σ :=
  let duration := lesser run.backoff.interval (deadline - run.clock.now)
  { run with
    clock := run.clock.sleep duration
    waits := run.waits ++ [Clock.asked duration] }

/-- Polls again and again, `polls` times at most. -/
def loop (source : Source τ σ) (settings : PollSettings τ) (goal : Goal) (deadline : τ) :
    Nat → Run τ σ → Ending τ × Run τ σ
  | 0, run => (.unfinished, run)
  | polls + 1, run =>
    match run.poll source settings goal with
    | (.raised fault, run) => (.raised fault, run)
    | (.met, run) => run.finishMet goal
    | (.notMet, run) =>
      -- A cancellation counts before the deadline, both after the poll and after the pause.
      if run.clock.token.isCancelled then run.finishCancelled goal
      else if deadline - run.clock.now ≤ 0 then run.finishExpired settings goal
      else
        let run := run.pause deadline
        if run.clock.token.isCancelled then run.finishCancelled goal
        else if deadline ≤ run.clock.now then run.finishExpired settings goal
        else loop source settings goal deadline polls run

end Run

/-- Waits for a goal on a fresh schedule, polling `polls` times at most. -/
def waitFor (source : Source τ σ) (settings : PollSettings τ) (goal : Goal) (clock : Clock τ)
    (surroundings : σ) (polls : Nat) : Ending τ × Run τ σ :=
  let run := (Run.start settings clock surroundings).note
    (.started goal settings.interval settings.timeout)
  Run.loop source settings goal (clock.now + settings.timeout) polls { run with state := .polling }

end WorkWatch
