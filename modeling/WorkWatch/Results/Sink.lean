import WorkWatch.Results.Document
import WorkWatch.Results.Folder
import WorkWatch.Text.Blank

/-!
Where results go: to a path that is given, else to the one that the environment names, else
nowhere.
-/

namespace WorkWatch

/-- The path that a setting names; a blank one names none. -/
def pathSetting (setting : Option String) : Option Path :=
  match setting with
  | none => none
  | some text =>
    let text := Text.stripped text
    if text.isEmpty then none else some (Path.parse text)

def resultsPath (given : Option Path) (setting : Option String) : Option Path :=
  match given with
  | some path => some path
  | none => pathSetting setting

/-- Writes the document of an outcome; gives the path written to, if there is one. -/
def Outcome.write (given : Option Path) (setting : Option String) (outcome : Outcome)
    (folder : Folder) : Except FileError (Option Path × Folder) :=
  match resultsPath given setting with
  | none => .ok (none, folder)
  | some path => (folder.write path outcome.text).map fun folder => (some path, folder)

/-- The outcome of a wait that is under way or has ended well. -/
def Outcome.ofPoll (name consumer expression : String) (time : Time.Timestamp)
    (snapshot : Snapshot) (met : Bool) : Outcome where
  name
  consumer
  status := if met then expression else "Waiting"
  message := if met then "Condition '" ++ expression ++ "' met"
    else "Waiting for condition '" ++ expression ++ "'"
  time
  snapshot := some snapshot

def Outcome.deleted (name consumer : String) (time : Time.Timestamp) : Outcome where
  name
  consumer
  status := "Deleted"
  message := "ManifestWork deleted successfully"
  time
  snapshot := none

end WorkWatch
