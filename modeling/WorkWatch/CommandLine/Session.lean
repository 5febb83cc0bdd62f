import WorkWatch.Client.Basic
import WorkWatch.Report.Watch
import WorkWatch.Results.Sink
import WorkWatch.Settings.Basic
import WorkWatch.Text.Control
import WorkWatch.Wait.Poll

/-!
What commands work on: the clock with the signals to come, the server, the files, and what has been
printed and logged.
-/

namespace WorkWatch

/-- How connections are made: how often they are retried, and whether certificates are checked. -/
structure Transport where
  retries : Int
  verify : Bool
  deriving DecidableEq, Repr

inductive LogEntry where
  | verificationDisabled
  | waiting (condition consumer name : String) (timeout : Float)
  | nothingToDelete (name consumer : String)
  | deleting (name consumer : String)
  | wait (note : WaitNote Float)

namespace LogEntry

open Text

def level : LogEntry → Level
  | .verificationDisabled => .warning
  | .waiting .. => .info
  | .nothingToDelete .. => .warning
  | .deleting .. => .info
  | .wait note => note.level

def message : LogEntry → String
  | .verificationDisabled => "TLS certificate verification disabled (insecure mode)"
  | .waiting condition consumer name timeout =>
    "Waiting for condition " ++ quoted condition ++ " on " ++ consumer ++ "/" ++ name ++
      " (timeout " ++ Decimal.briefText timeout ++ "s)"
  | .nothingToDelete name consumer =>
    "ManifestWork " ++ name ++ " not found for " ++ consumer ++ ", nothing to delete"
  | .deleting name consumer => "Deleting ManifestWork " ++ name ++ " from " ++ consumer
  | .wait note => note.message

/-- The part of the program that makes a record, as it is named in the log. -/
def logger : LogEntry → String
  | .verificationDisabled => "maestro_cli.client.http_client"
  | .waiting .. | .nothingToDelete .. | .deleting .. => "maestro_cli.controllers"
  | .wait _ => "maestro_cli.status.poller"

def line (entry : LogEntry) : String :=
  entry.level.text ++ " " ++ entry.logger ++ ": " ++ entry.message

end LogEntry

/-- Time is counted in seconds from the beginning of the session, which began at `began` by the wall
clock. Alarms are the signals to come. -/
structure Session where
  environment : Environment
  began : Int
  now : Float
  alarms : List (Alarm Float)
  network : Network
  transports : List Transport
  folder : Folder
  printed : List String
  log : List LogEntry
  waits : List Float
  seen : Option Report.WatchKey

inductive CommandError where
  | settings (error : SettingsError)
  | failure (failure : Failure)
  | fault (fault : WaitFault)
  | file (error : FileError)
  /-- A wait that ended without its goal. -/
  | notReached (text : String)
  /-- A wait that goes on longer than it was followed. -/
  | unfinished

/-- Steps of a command. What was done before an error stays done. -/
abbrev Step (α : Type) := ExceptT CommandError (StateM Session) α

namespace Session

def wallSeconds (session : Session) (now : Float) : Int :=
  match Decimal.truncated now with
  | .ok seconds => session.began + seconds
  | .error _ => session.began

def timestamp (session : Session) (now : Float) : Time.Timestamp :=
  .ofSeconds (session.wallSeconds now)

/-- Lets time pass. -/
def spend (duration : Float) (session : Session) : Session :=
  -- A signal that comes while nothing waits for it cancels a token that nobody asks.
  let clock := Clock.spend duration ⟨session.now, session.alarms, Cancellation.none⟩
  { session with now := clock.now, alarms := clock.alarms }

/-- Sends requests; every answer takes its time. -/
def exchange {α : Type} (requests : Exchange α) (session : Session) :
    Except Failure α × Session :=
  let (result, network) := requests session.network
  (result, network.delays.foldl (fun session delay => session.spend delay)
    { session with network := { network with delays := [] } })

/-- Prints a line, without control sequences for terminals. -/
def print (line : String) (session : Session) : Session :=
  { session with printed := session.printed ++ [Text.withoutControl line] }

def record (entry : LogEntry) (session : Session) : Session :=
  { session with log := session.log ++ [entry] }

def acquire (client : Client) (consumer name : String) (session : Session) :
    Acquisition Float × Session :=
  let (result, network) := client.getSnapshot consumer name session.network
  let (takes, network) := network.takeDelay
  (⟨takes, result⟩, { session with network })

/-- Writes the results document of a wait after a poll. -/
def writeResults (path : Option Path) (name consumer expression : String) (now : Float)
    (snapshot : Snapshot) (met : Bool) (session : Session) : Option Failure × Session :=
  let outcome := Outcome.ofPoll name consumer expression (session.timestamp now) snapshot met
  match outcome.write path (session.environment.get? Settings.resultsVariable) session.folder with
  | .ok (_, folder) => (none, { session with folder })
  | .error error => (some (.other error.kind error.message), session)

/-- Prints a line about a snapshot that differs from the one before. -/
def printChange (now : Float) (snapshot : Snapshot) (_ : Bool) (session : Session) :
    Option Failure × Session :=
  if Report.isNews session.seen snapshot then
    let time := Time.TimeOfDay.ofSeconds (session.wallSeconds now)
    (none, { session.print (Report.watchLine time snapshot) with
      seen := some (Report.WatchKey.of snapshot) })
  else (none, session)

/-- Waits for a goal; signals cancel the wait. -/
def waitFor (source : Source Float Session) (settings : PollSettings Float) (goal : Goal)
    (polls : Nat) (session : Session) : Ending Float × Session :=
  let clock : Clock Float := ⟨session.now, session.alarms, Cancellation.none⟩
  let (ending, run) := WorkWatch.waitFor source settings goal clock session polls
  (ending, { run.surroundings with
    now := run.clock.now
    alarms := run.clock.alarms
    waits := run.surroundings.waits ++ run.waits
    log := run.surroundings.log ++ run.notes.map LogEntry.wait })

end Session

namespace Step

def print (line : String) : Step Unit := modify (Session.print line)

def record (entry : LogEntry) : Step Unit := modify (Session.record entry)

def exchange {α : Type} (requests : Exchange α) : Step α := fun session =>
  let (result, session) := session.exchange requests
  (result.mapError .failure, session)

def settings {α : Type} (result : Except SettingsError α) : Step α :=
  match result with
  | .ok value => return value
  | .error error => throw (.settings error)

/-- Waits as a step; the outcome may be that the goal was not reached. -/
def waitFor (source : Source Float Session) (settings : PollSettings Float) (goal : Goal)
    (polls : Nat) : Step (WaitOutcome Float) := fun session =>
  match session.waitFor source settings goal polls with
  | (.outcome outcome, session) => (.ok outcome, session)
  | (.raised fault, session) => (.error (.fault fault), session)
  | (.unfinished, session) => (.error .unfinished, session)

def connect (connection : Connection) : Step Client := fun session =>
  let session := if connection.insecure then session.record .verificationDisabled else session
  let session := { session with
    transports := session.transports ++ [⟨connection.retries, !connection.insecure⟩] }
  ((Client.connect connection.endpoint connection.timeout).mapError
    (.failure ∘ Failure.invalidUrl), session)

end Step

end WorkWatch
