import WorkWatch.Decimal.Layout
import WorkWatch.Text.Quoted

/-!
What a wait reports while it runs and how it ends.
-/

namespace WorkWatch

open Text

/-- What is waited for. -/
inductive Goal where
  | condition (expression : String)
  | deletion
  deriving DecidableEq, Repr

def Goal.description : Goal → String
  | .condition expression => "condition " ++ quoted expression
  | .deletion => "deletion"

inductive Level where
  | debug
  | info
  | warning
  | error
  deriving DecidableEq, Repr

namespace Level

def text : Level → String
  | .debug => "DEBUG"
  | .info => "INFO"
  | .warning => "WARNING"
  | .error => "ERROR"

def rank : Level → Nat
  | .debug => 0
  | .info => 1
  | .warning => 2
  | .error => 3

/-- A record of this level is kept where `threshold` is asked for. -/
def reaches (threshold level : Level) : Bool := threshold.rank ≤ level.rank

end Level

inductive WaitNote (τ : Type) where
  | started (goal : Goal) (interval timeout : τ)
  | intervalIncreased (interval : τ) (failures : Nat) (cap : τ)
  | pollFailed (reason message : String) (interval : τ)
  | deletionPollFailed (message : String)
  | gone (message : String)
  | versionWentBack (name : String) (version previous : Int)
  | sinkFailed (message : String)
  | met (goal : Goal)
  | timedOut (timeout : τ) (goal : Goal)
  | cancelled (goal : Goal) (cause : String)

namespace WaitNote

variable {τ : Type}

def level : WaitNote τ → Level
  | .started .. | .intervalIncreased .. | .gone _ | .met _ => .info
  | _ => .warning

open Decimal in
def message : WaitNote Float → String
  | .started (.condition expression) interval timeout =>
    "Polling for condition " ++ quoted expression ++ " every " ++ tenthsText interval ++
      "s (timeout " ++ briefText timeout ++ "s)"
  | .started .deletion interval timeout =>
    "Polling for deletion every " ++ tenthsText interval ++ "s (timeout " ++ briefText timeout ++
      "s)"
  | .intervalIncreased interval failures cap =>
    "Increased poll interval to " ++ tenthsText interval ++ "s after " ++ natText failures ++
      " consecutive failures (max " ++ tenthsText cap ++ "s)"
  | .pollFailed reason message interval =>
    "Failed to poll work status (" ++ reason ++ "): " ++ message ++ "; next poll in " ++
      tenthsText interval ++ "s"
  | .deletionPollFailed message => "Error polling for deletion: " ++ message
  | .gone message => "Work is gone: " ++ message
  | .versionWentBack name version previous =>
    "Work " ++ name ++ " version went backwards: v" ++ intText version ++ " after v" ++
      intText previous
  | .sinkFailed message => "Result sink failed (results may not be written): " ++ message
  | .met goal => "Wait for " ++ goal.description ++ " finished: condition met"
  | .timedOut timeout goal =>
    "Timed out after " ++ briefText timeout ++ "s waiting for " ++ goal.description
  | .cancelled goal cause => "Wait for " ++ goal.description ++ " cancelled: " ++ cause

end WaitNote

inductive WaitError (τ : Type) where
  | timedOut (timeout : τ) (goal : Goal)
  | cancelled (goal : Goal) (cause : String)

namespace WaitError

variable {τ : Type}

def kind : WaitError τ → String
  | .timedOut .. => "WaitTimeoutError"
  | .cancelled .. => "WaitCancelledError"

def goal : WaitError τ → Goal
  | .timedOut _ goal => goal
  | .cancelled goal _ => goal

def cause? : WaitError τ → Option String
  | .timedOut .. => none
  | .cancelled _ cause => some cause

def message : WaitError Float → String
  | .timedOut timeout goal =>
    "timed out after " ++ Decimal.briefText timeout ++ "s waiting for " ++ goal.description
  | .cancelled goal cause => "wait for " ++ goal.description ++ " cancelled: " ++ cause

end WaitError

end WorkWatch
