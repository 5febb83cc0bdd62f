import WorkWatch.CommandLine.Command
import WorkWatch.CommandLine.Session
import WorkWatch.Report.Describe
import WorkWatch.Report.Document
import WorkWatch.Report.Selection

/-!
Running commands. Each one checks its settings before it sends a request, and asks for the consumer
before anything else.
-/

namespace WorkWatch

namespace CommandLine

/-- The error with which a wait has ended, as text. -/
def errorText (outcome : WaitOutcome Float) : String :=
  match outcome.error with
  | some error => error.message
  | none => "None"

/-- The sink that writes results, if there is a path for them. -/
def resultsSink (path : Option Path) (name consumer condition : String) :
    Option (Float → Snapshot → Bool → Session → Option Failure × Session) :=
  path.map fun path => Session.writeResults (some path) name consumer condition

/-- Infinity, as the timeout of a watch without one. -/
def noTimeout : Float := Decimal.ofRank false Decimal.infiniteRank

def runWait (polls : Nat) (flags : Overrides) (name consumer condition : String)
    (timeout interval : Option Float) : Step (List String) := do
  let settings ← Step.settings (Settings.load (← get).environment flags)
  let polling ← Step.settings (settings.pollSettings timeout interval)
  let client ← Step.connect settings.connection
  Step.exchange (client.validateConsumer consumer)
  let _ ← Step.exchange (client.getSummary consumer name)
  Step.record (.waiting condition consumer name polling.timeout)
  let source : Source Float Session := {
    acquire := Session.acquire client consumer name
    sink := resultsSink settings.results name consumer condition }
  let outcome ← Step.waitFor source polling (.condition condition) polls
  if outcome.succeeded then
    return ["Condition '" ++ condition ++ "' met for ManifestWork " ++ name]
  else
    throw (.notReached
      ("error waiting for condition '" ++ condition ++ "': " ++ errorText outcome))

def runGet (flags : Overrides) (name consumer : String) : Step (List String) := do
  let settings ← Step.settings (Settings.load (← get).environment flags)
  let client ← Step.connect settings.connection
  Step.exchange (client.validateConsumer consumer)
  let bundle ← Step.exchange (client.getBundle consumer name)
  return [Report.dump (settings.format = "json") bundle]

def runDescribe (flags : Overrides) (name consumer : String) : Step (List String) := do
  let settings ← Step.settings (Settings.load (← get).environment flags)
  let client ← Step.connect settings.connection
  Step.exchange (client.validateConsumer consumer)
  let snapshot ← Step.exchange (client.getSnapshot consumer name)
  if settings.format = "text" then return Report.describe snapshot
  else return [Report.dump (settings.format = "json") snapshot.toJson]

def runList (flags : Overrides) (consumer pattern : String) : Step (List String) := do
  let settings ← Step.settings (Settings.load (← get).environment flags)
  let client ← Step.connect settings.connection
  Step.exchange (client.validateConsumer consumer)
  let works ← Step.exchange (client.listWorks consumer)
  let works := Report.select pattern works
  if settings.format = "text" then return Report.list consumer pattern works
  else return [Report.dump (settings.format = "json") (.arr (works.map Summary.toJson))]

/-- The summary of a work, none if the consumer has no such work. -/
def findWork (client : Client) (consumer name : String) : Step (Option Summary) := fun session =>
  match session.exchange (client.getSummary consumer name) with
  | (.ok work, session) => (.ok (some work), session)
  | (.error (.workMissing ..), session) => (.ok none, session)
  | (.error failure, session) => (.error (.failure failure), session)

def awaitDeletion (polls : Nat) (client : Client) (settings : Settings) (name consumer : String)
    (timeout : Option Float) : Step Unit := do
  let polling ← Step.settings (settings.pollSettings timeout none)
  let source : Source Float Session := {
    acquire := Session.acquire client consumer name
    sink := none }
  let outcome ← Step.waitFor source polling .deletion polls
  if outcome.succeeded then return ()
  else throw (.notReached ("error waiting for deletion: " ++ errorText outcome))

def writeDeleted (path : Option Path) (name consumer : String) : Step Unit := fun session =>
  let outcome := Outcome.deleted name consumer (session.timestamp session.now)
  match outcome.write path (session.environment.get? Settings.resultsVariable) session.folder with
  | .ok (_, folder) => (.ok (), { session with folder })
  | .error error => (.error (.file error), session)

def runDelete (polls : Nat) (flags : Overrides) (name consumer : String) (waits dryRun : Bool)
    (timeout : Option Float) : Step (List String) := do
  let settings ← Step.settings (Settings.load (← get).environment flags)
  let client ← Step.connect settings.connection
  Step.exchange (client.validateConsumer consumer)
  match ← findWork client consumer name with
  | none =>
    Step.record (.nothingToDelete name consumer)
    return ["ManifestWork " ++ name ++ " not found, nothing to delete"]
  | some work =>
    if dryRun then
      return ["[DRY RUN] Would delete ManifestWork " ++ name ++ " (" ++
        Text.natText work.manifests.length ++ " manifests) from " ++ consumer]
    Step.record (.deleting name consumer)
    -- The work is looked up once more: between the two searches it may have gone.
    let _ ← Step.exchange (client.deleteWork consumer name)
    if waits then awaitDeletion polls client settings name consumer timeout
    writeDeleted settings.results name consumer
    return ["ManifestWork " ++ name ++ " deleted"]

def runWatch (polls : Nat) (flags : Overrides) (name consumer : String)
    (condition : Option String) (timeout interval : Option Float) : Step (List String) := do
  let settings ← Step.settings (Settings.load (← get).environment flags)
  let polling ← Step.settings (settings.pollSettings none interval)
  let polling := { polling with timeout := timeout.getD noTimeout }
  let client ← Step.connect settings.connection
  Step.exchange (client.validateConsumer consumer)
  -- Without a condition there is the empty text, which is no expression and so never holds.
  let condition := condition.getD ""
  let source : Source Float Session := {
    acquire := Session.acquire client consumer name
    sink := some Session.printChange }
  let outcome ← Step.waitFor source polling (.condition condition) polls
  return [if outcome.succeeded then "Condition '" ++ condition ++ "' met" else "Watch stopped"]

/-- Runs a command, following a wait for `polls` polls at most, and prints its lines. -/
def runCommand (polls : Nat) (flags : Overrides) (command : Command) : Step Unit := do
  let lines ←
    match command with
    | .wait name consumer condition timeout interval =>
      runWait polls flags name consumer condition timeout interval
    | .get name consumer => runGet flags name consumer
    | .describe name consumer => runDescribe flags name consumer
    | .list consumer pattern => runList flags consumer pattern
    | .delete name consumer waits dryRun timeout =>
      runDelete polls flags name consumer waits dryRun timeout
    | .watch name consumer condition timeout interval =>
      runWatch polls flags name consumer condition timeout interval
  lines.forM Step.print

/-- How a command line ends badly. Usage errors and errors that are reported give their text alone;
others show their kind as well. -/
inductive Fatal where
  | usage (error : UsageError)
  | reported (text : String)
  | escaped (kind text : String)
  deriving DecidableEq, Repr

namespace Fatal

def exitCode : Fatal → Nat
  | .usage _ => 2
  | _ => 1

def kind : Fatal → String
  | .usage error => error.kind
  | .reported _ => "ClickException"
  | .escaped kind _ => kind

def text : Fatal → String
  | .usage error => error.message
  | .reported text => text
  | .escaped _ text => text

end Fatal

def fatalFile : FileError → Fatal
  | .nullCharacter => .reported FileError.nullCharacter.message
  | error => .escaped error.kind error.message

/-- An error of a command as its end. -/
def fatalError : CommandError → Fatal
  | .settings error => .reported error.message
  | .failure failure =>
    -- Only these failures are not reported; a version that is NaN is told like a bad value.
    match failure with
    | .unreadable (.number .infinite) | .unreadable (.tooDeep _) | .invalidUrl _ | .other .. =>
      .escaped failure.kind failure.text
    | _ => .reported failure.text
  | .fault _ => .escaped "OverflowError" "int too large to convert to float"
  | .file error => fatalFile error
  | .notReached text => .reported text
  | .unfinished => .escaped "Unfinished" "the wait did not end"

/-- Runs a command line, following a wait for `polls` polls at most. -/
def run (polls : Nat) (arguments : List String) (session : Session) : Option Fatal × Session :=
  match parse session.folder arguments with
  | .error (.usage error) => (some (.usage error), session)
  | .error (.path error) => (some (.escaped error.kind error.message), session)
  | .ok .version => (none, session.print versionText)
  | .ok .help => (none, session)
  | .ok (.command flags command) =>
    match runCommand polls flags command session with
    | (.ok _, session) => (none, session)
    | (.error error, session) => (some (fatalError error), session)

/-- The level from which on records of the log are kept. -/
def logThreshold (arguments : List String) (session : Session) : Level :=
  let level :=
    match parse session.folder arguments with
    | .ok (.command flags _) =>
      match Settings.load session.environment flags with
      | .ok settings => settings.logLevel
      | .error _ => "info"
    | _ => "info"
  match level with
  | "debug" => .debug
  | "warning" => .warning
  | "error" => .error
  | _ => .info

/-- The records of the log that are kept. -/
def keptLog (arguments : List String) (session : Session) : List LogEntry :=
  session.log.filter fun entry => (logThreshold arguments session).reaches entry.level

end CommandLine

end WorkWatch
