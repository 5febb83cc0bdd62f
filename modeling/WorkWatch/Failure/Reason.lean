import WorkWatch.Failure.Basic
import WorkWatch.Text.Case
import WorkWatch.Text.Split

/-!
Why asking for a work failed: because something is gone, or for a reason that may pass. What is
gone is told by the kind of failure, by the status 404, or by the words of its message.
-/

namespace WorkWatch

inductive Reason where
  | workGone
  | consumerGone
  | status404
  | worded (pattern : String)
  | passing (status : Option Nat)
  deriving DecidableEq, Repr

namespace Reason

/-- Something that was asked for does not exist. -/
def isGone : Reason → Bool
  | .passing _ => false
  | _ => true

def code : Reason → String
  | .workGone => "work_not_found"
  | .consumerGone => "consumer_not_found"
  | .status404 => "http_404"
  | .worded _ => "message_not_found"
  | .passing (some status) => "http_" ++ Text.natText status
  | .passing none => "acquisition_transient"

def rule : Reason → String
  | .workGone => "typed_work_not_found"
  | .consumerGone => "typed_consumer_not_found"
  | .status404 => "http_status_not_found"
  | .worded _ => "not_found_message"
  | .passing _ => "fallback_transient"

def pattern? : Reason → Option String
  | .worded pattern => some pattern
  | _ => none

def className (reason : Reason) : String := if reason.isGone then "not_found" else "transient"

/-- The words that tell that something does not exist. -/
def gonePatterns : List String := ["not found", "does not exist"]

/-- The first pattern whose words stand in a message, whatever their case. -/
def gonePattern? (message : String) : Option String :=
  gonePatterns.find? fun pattern => Text.holds pattern.toList (Text.lower message).toList

/-- A reason told by the words of a message, else one that may pass. -/
def ofMessage (message : String) (status : Option Nat) : Reason :=
  match gonePattern? message with
  | some pattern => .worded pattern
  | none => .passing status

end Reason

def Failure.reason (failure : Failure) : Reason :=
  match failure with
  | .workMissing .. => .workGone
  | .consumerMissing .. => .consumerGone
  | .api _ status => if status = some 404 then .status404 else .ofMessage failure.message status
  | _ => .ofMessage failure.message none

end WorkWatch
