import WorkWatch.Json.Basic
import WorkWatch.Text.Case
import WorkWatch.Time.Rfc3339

/-!
Conditions: typed statements about a work or one of its resources, each with a status and the time
of its last transition.
-/

namespace WorkWatch

/-- The text of a member; empty when it is missing or no text. -/
def Json.textOf (name : String) (document : Json) : String := ((document.get name).str?).getD ""

inductive ConditionStatus where
  | yes
  | no
  | unknown
  deriving DecidableEq, Repr

def ConditionStatus.text : ConditionStatus → String
  | .yes => "True"
  | .no => "False"
  | .unknown => "Unknown"

/-- The status that a value stands for; all but two texts are unknown. -/
def ConditionStatus.ofJson : Json → ConditionStatus
  | .str text => if text = "True" then .yes else if text = "False" then .no else .unknown
  | _ => .unknown

structure Condition where
  type : String
  status : ConditionStatus
  reason : String
  message : String
  lastTransition : String
  deriving DecidableEq, Repr

namespace Condition

def ofJson (document : Json) : Condition where
  type := document.textOf "type"
  status := .ofJson (document.get "status")
  reason := document.textOf "reason"
  message := document.textOf "message"
  lastTransition := document.textOf "lastTransitionTime"

/-- The conditions of a list; what is not an object is skipped. -/
def listOf (list : Json) : List Condition := (list.itemsOrNone.filter Json.isObject).map ofJson

def isTrue (condition : Condition) : Bool := condition.status = .yes

/-- The condition has a type, up to case. -/
def isOfType (type : String) (condition : Condition) : Bool := Text.sameFolded condition.type type

/-- The condition has a type, up to case, and is true. -/
def asserts (type : String) (condition : Condition) : Bool :=
  condition.isOfType type && condition.isTrue

/-- The time of the last transition, when it is a timestamp. -/
def transition? (condition : Condition) : Option Time.Timestamp :=
  Time.Timestamp.parse? condition.lastTransition

end Condition

/-- The type of the condition that a work or resource has once it is applied. -/
def appliedType : String := "Applied"

/-- The type of the condition that a work or resource has once it is available. -/
def availableType : String := "Available"

end WorkWatch
