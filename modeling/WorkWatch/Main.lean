import WorkWatch.CommandLine.Run
import WorkWatch.Recording

/-!
The command line, run against a recorded session. The recording is read from standard input; an
empty one stands for a server without works. Lines go to standard output, the log and errors to
standard error, and files that are written to the working directory.
-/

namespace WorkWatch.CommandLine

/-- More polls than a recorded session needs. -/
def pollLimit : Nat := 1000000

partial def readAll (input : IO.FS.Stream) (text : String) : IO String := do
  let line ← input.getLine
  if line.isEmpty then return text else readAll input (text ++ line)

def readEnvironment : IO Environment :=
  Settings.variableNames.filterMapM fun name => return (← IO.getEnv name).map (name, ·)

/-- Shows what a session has done; the exit code. -/
def report (arguments : List String) (before : Folder) (result : Option Fatal × Session) :
    IO UInt32 := do
  let (fatal, session) := result
  for line in session.printed do IO.println line
  for entry in keptLog arguments session do IO.eprintln entry.line
  for (name, text) in Recording.written before session.folder do IO.FS.writeFile name text
  match fatal with
  | none => return 0
  | some fatal =>
    IO.eprintln ("Error: " ++ fatal.text)
    return UInt32.ofNat fatal.exitCode

/-- Runs a command line against the recording on standard input. -/
def runRecorded (arguments : List String) : IO UInt32 := do
  match Recording.parse? (← readAll (← IO.getStdin) "") with
  | none =>
    IO.eprintln "Error: the recording is not a JSON document"
    return 2
  | some recording =>
    let session := Recording.session (← readEnvironment) (Recording.began recording) recording
    report arguments session.folder (run pollLimit arguments session)

end WorkWatch.CommandLine

def main (arguments : List String) : IO UInt32 := WorkWatch.CommandLine.runRecorded arguments
