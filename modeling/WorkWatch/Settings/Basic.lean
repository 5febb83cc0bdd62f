import WorkWatch.Fields
import WorkWatch.Results.Sink
import WorkWatch.Settings.Endpoint
import WorkWatch.Text.Case
import WorkWatch.Wait.Backoff

/-!
Settings from environment variables, with flags over them, and their validation.
-/

namespace WorkWatch

open Text

abbrev Environment := Fields String

structure Connection where
  endpoint : String
  insecure : Bool
  timeout : Float
  retries : Int

structure Settings where
  connection : Connection
  polling : PollSettings Float
  format : String
  results : Option Path
  logLevel : String

inductive SettingsError where
  | notBoolean (variableName text : String)
  | notFloat (text : String)
  | notInteger (problem : Decimal.IntegerProblem)
  | endpoint (error : EndpointError)
  | requestTimeout
  | retries
  | notPositive (name : String) (value : Float)
  | capBelowInterval
  | unknownFormat (format : String)
  | unknownLevel (level : String)

namespace SettingsError

def formats : List String := ["yaml", "json", "text"]

def logLevels : List String := ["debug", "info", "warning", "error"]

/-- At most so many characters of a quoted text that is no integer are shown. -/
def quotedLimit : Nat := 200

def message : SettingsError → String
  | .notBoolean name text => "Invalid boolean value for " ++ name ++ ": " ++ quoted text
  | .notFloat text => "could not convert string to float: " ++ quoted text
  | .notInteger (.malformed text) =>
    "invalid literal for int() with base 10: " ++
      String.ofList ((quoted text).toList.take quotedLimit)
  | .notInteger (.tooLong digits) =>
    "Exceeds the limit (" ++ natText Decimal.digitLimit ++
      " digits) for integer string conversion: value has " ++ natText digits ++
      " digits; use sys.set_int_max_str_digits() to increase the limit"
  | .endpoint error => error.message
  | .requestTimeout => "MAESTRO_HTTP_TIMEOUT_SECONDS must be > 0."
  | .retries => "MAESTRO_HTTP_MAX_RETRIES must be >= 0."
  | .notPositive name value =>
    name ++ " must be a finite number > 0, got " ++ Decimal.fullText value ++ "."
  | .capBelowInterval => "MAESTRO_BACKOFF_CAP_SECONDS must be >= MAESTRO_POLL_INTERVAL_SECONDS."
  | .unknownFormat format =>
    "Unsupported output format " ++ quoted format ++ ". Expected one of: " ++
      ", ".intercalate formats ++ "."
  | .unknownLevel level =>
    "Invalid MAESTRO_CLI_LOG_LEVEL " ++ quoted level ++ ". Expected one of: " ++
      ", ".intercalate logLevels ++ "."

end SettingsError

/-- Flags of the command line that stand over the environment. -/
structure Overrides where
  endpoint : Option String
  insecure : Option Bool
  format : Option String
  results : Option Path
  verbose : Bool

namespace Settings

/-- A variable with words for true and false; a blank one counts as not set. -/
def readBool (env : Environment) (name : String) (default : Bool) : Except SettingsError Bool :=
  match env.get? name with
  | none => .ok default
  | some text =>
    let word := lower (stripped text)
    if word.isEmpty then .ok default
    else if ["1", "true", "yes", "on"].contains word then .ok true
    else if ["0", "false", "no", "off"].contains word then .ok false
    else .error (.notBoolean name text)

def readFloat (env : Environment) (name : String) (default : Float) :
    Except SettingsError Float :=
  match env.get? name with
  | none => .ok default
  | some text =>
    match Decimal.readFloat? text with
    | some value => .ok value
    | none => .error (.notFloat text)

def readInt (env : Environment) (name : String) (default : Int) : Except SettingsError Int :=
  match env.get? name with
  | none => .ok default
  | some text =>
    match Decimal.readInt text with
    | .ok value => .ok value
    | .error problem => .error (.notInteger problem)

/-- A variable without blanks around it; a blank one counts as not set. -/
def readText (env : Environment) (name default : String) : String :=
  let text := stripped ((env.get? name).getD "")
  if text.isEmpty then default else text

/-- A variable in lower case without blanks around it; a blank one counts as not set. -/
def readWord (env : Environment) (name default : String) : String :=
  let word := lower (stripped ((env.get? name).getD default))
  if word.isEmpty then default else word

def defaultEndpoint : String := "http://localhost:8000"

/-- The variable that names the path for results. -/
def resultsVariable : String := "RESULTS_PATH"

def variableNames : List String := ["MAESTRO_GRPC_INSECURE", "MAESTRO_INSECURE",
  "MAESTRO_HTTP_TIMEOUT_SECONDS", "MAESTRO_HTTP_MAX_RETRIES", "MAESTRO_POLL_INTERVAL_SECONDS",
  "MAESTRO_WAIT_TIMEOUT_SECONDS", "MAESTRO_BACKOFF_CAP_SECONDS", "MAESTRO_HTTP_ENDPOINT",
  "MAESTRO_CLI_OUTPUT", "MAESTRO_CLI_LOG_LEVEL", resultsVariable]

/-- The settings that the environment asks for. -/
def ofEnvironment (env : Environment) : Except SettingsError Settings := do
  let insecure ← readBool env "MAESTRO_GRPC_INSECURE" false
  let insecure ← readBool env "MAESTRO_INSECURE" insecure
  let timeout ← readFloat env "MAESTRO_HTTP_TIMEOUT_SECONDS" 30
  let retries ← readInt env "MAESTRO_HTTP_MAX_RETRIES" 3
  let interval ← readFloat env "MAESTRO_POLL_INTERVAL_SECONDS" 1
  let waitTimeout ← readFloat env "MAESTRO_WAIT_TIMEOUT_SECONDS" 300
  let cap ← readFloat env "MAESTRO_BACKOFF_CAP_SECONDS" 300
  return {
    connection :=
      ⟨readText env "MAESTRO_HTTP_ENDPOINT" defaultEndpoint, insecure, timeout, retries⟩
    polling := ⟨interval, waitTimeout, cap⟩
    format := readWord env "MAESTRO_CLI_OUTPUT" "yaml"
    results := pathSetting (env.get? resultsVariable)
    logLevel := readWord env "MAESTRO_CLI_LOG_LEVEL" "info" }

/-- A finite number above zero. -/
def requirePositive (name : String) (value : Float) : Except SettingsError Unit :=
  if Decimal.isFinite value && 0 < value then .ok () else .error (.notPositive name value)

def require (condition : Bool) (error : SettingsError) : Except SettingsError Unit :=
  if condition then .ok () else .error error

/-- Checks settings in a fixed order. -/
def validate (settings : Settings) : Except SettingsError Unit := do
  (Endpoint.check settings.connection.endpoint).mapError .endpoint
  -- Unlike the times of a wait this one may be infinite or NaN.
  require (!(settings.connection.timeout ≤ 0)) .requestTimeout
  require (0 ≤ settings.connection.retries) .retries
  requirePositive "MAESTRO_POLL_INTERVAL_SECONDS" settings.polling.interval
  requirePositive "MAESTRO_WAIT_TIMEOUT_SECONDS" settings.polling.timeout
  requirePositive "MAESTRO_BACKOFF_CAP_SECONDS" settings.polling.cap
  require (!(settings.polling.cap < settings.polling.interval)) .capBelowInterval
  require (SettingsError.formats.contains settings.format) (.unknownFormat settings.format)
  require (SettingsError.logLevels.contains settings.logLevel) (.unknownLevel settings.logLevel)

/-- Settings with flags over them. -/
def override (settings : Settings) (flags : Overrides) : Settings where
  -- An empty endpoint or format counts as not given.
  connection := { settings.connection with
    endpoint :=
      match flags.endpoint with
      | some endpoint => if endpoint.isEmpty then settings.connection.endpoint else endpoint
      | none => settings.connection.endpoint
    insecure := flags.insecure.getD settings.connection.insecure }
  polling := settings.polling
  format :=
    match flags.format with
    | some format => if format.isEmpty then settings.format else lower format
    | none => settings.format
  results := flags.results <|> settings.results
  logLevel := if flags.verbose then "debug" else settings.logLevel

/-- The valid settings of an environment with flags over it. -/
def load (env : Environment) (flags : Overrides) : Except SettingsError Settings := do
  let settings := (← ofEnvironment env).override flags
  settings.validate
  return settings

/-- How a command polls, with its own interval and timeout where they are given. -/
def pollSettings (settings : Settings) (timeout interval : Option Float) :
    Except SettingsError (PollSettings Float) := do
  if let some interval := interval then requirePositive "--poll-interval" interval
  if let some timeout := timeout then requirePositive "--timeout" timeout
  -- The cap is that of the settings, also when it is below the interval given here.
  return ⟨interval.getD settings.polling.interval, timeout.getD settings.polling.timeout,
    settings.polling.cap⟩

end Settings

end WorkWatch
