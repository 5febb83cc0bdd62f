import WorkWatch.Time.Clock
import WorkWatch.Work.Snapshot

/-!
Watching a work: one line whenever its version or its conditions change.
-/

namespace WorkWatch.Report

open WorkWatch.Text

/-- The type of a condition with a mark for true or not true. -/
def conditionMark (condition : Condition) : String :=
  condition.type ++ if condition.isTrue then "✓" else "✗"

/-- A resource with the marks of its conditions. -/
def resourceMarks (resource : ResourceStatus) : String :=
  let marks := " ".intercalate (resource.conditions.map conditionMark)
  String.ofList (dropRight isBlank ("| " ++ resource.displayName ++ ": " ++ marks).toList)

/-- The line about a snapshot that was taken at some time. -/
def watchLine (time : Time.TimeOfDay) (snapshot : Snapshot) : String :=
  " ".intercalate <|
    ["[" ++ time.text ++ "] v" ++ intText snapshot.version] ++
      snapshot.conditions.map conditionMark ++ snapshot.resources.map resourceMarks

/-- What of a snapshot is watched: its version and the states of all conditions in one text. -/
structure WatchKey where
  version : Int
  states : String
  deriving DecidableEq, Repr

def conditionState (condition : Condition) : String :=
  condition.type ++ "=" ++ condition.status.text

def WatchKey.of (snapshot : Snapshot) : WatchKey where
  version := snapshot.version
  states := ",".intercalate <|
    snapshot.conditions.map conditionState ++ snapshot.resources.flatMap fun resource =>
      resource.conditions.map fun condition =>
        resource.displayName ++ ":" ++ conditionState condition

/-- The snapshot differs from the one seen last. -/
def isNews (seen : Option WatchKey) (snapshot : Snapshot) : Bool :=
  seen != some (WatchKey.of snapshot)

end WorkWatch.Report
