import WorkWatch.CommandLine.Option
import WorkWatch.Settings.Basic
import WorkWatch.Settings.Duration

/-!
The commands and their options.
-/

namespace WorkWatch

/-- What a command line asks for. -/
inductive Command where
  | wait (name consumer condition : String) (timeout interval : Option Float)
  | get (name consumer : String)
  | describe (name consumer : String)
  | list (consumer pattern : String)
  | delete (name consumer : String) (waits dryRun : Bool) (timeout : Option Float)
  | watch (name consumer : String) (condition : Option String) (timeout interval : Option Float)

/-- A command with the flags before it, or one of the two things that need no command. -/
inductive Invocation where
  | command (flags : Overrides) (command : Command)
  | version
  | help

namespace CommandLine

open Text

def versionText : String := "maestro-cli, version 0.1.0"

def helpOption : OptionSpec := ⟨"help", ["--help"], false⟩

def globalOptions : List OptionSpec := [
  ⟨"endpoint", ["--http-endpoint"], true⟩,
  ⟨"insecure", ["--insecure", "--secure"], false⟩,
  ⟨"output", ["--output", "-o"], true⟩,
  ⟨"results", ["--results-path"], true⟩,
  ⟨"verbose", ["--verbose", "-v"], false⟩,
  ⟨"version", ["--version"], false⟩,
  helpOption]

def nameOption : OptionSpec := ⟨"name", ["--name"], true⟩
def consumerOption : OptionSpec := ⟨"consumer", ["--consumer"], true⟩
def conditionOption : OptionSpec := ⟨"condition", ["--for"], true⟩
def untilOption : OptionSpec := ⟨"until", ["--until"], true⟩
def patternOption : OptionSpec := ⟨"filter", ["--filter"], true⟩
def waitOption : OptionSpec := ⟨"wait", ["--wait"], false⟩
def dryRunOption : OptionSpec := ⟨"dry-run", ["--dry-run"], false⟩
def timeoutOption : OptionSpec := ⟨"timeout", ["--timeout"], true⟩
def intervalOption : OptionSpec := ⟨"interval", ["--poll-interval"], true⟩

inductive Verb where
  | wait
  | get
  | describe
  | list
  | delete
  | watch
  deriving DecidableEq, Repr

namespace Verb

def all : List (String × Verb) := [("wait", wait), ("get", get), ("describe", describe),
  ("list", list), ("delete", delete), ("watch", watch)]

def ofName? (name : String) : Option Verb := all.lookup name

def options : Verb → List OptionSpec
  | wait =>
    [nameOption, consumerOption, conditionOption, timeoutOption, intervalOption, helpOption]
  | get => [nameOption, consumerOption, helpOption]
  | describe => [nameOption, consumerOption, helpOption]
  | list => [consumerOption, patternOption, helpOption]
  | delete => [nameOption, consumerOption, waitOption, dryRunOption, timeoutOption, helpOption]
  | watch =>
    [nameOption, consumerOption, untilOption, timeoutOption, intervalOption, helpOption]

end Verb

def isRequired (spec : OptionSpec) : Bool :=
  [nameOption.key, consumerOption.key, conditionOption.key].contains spec.key

def isDuration (spec : OptionSpec) : Bool :=
  [timeoutOption.key, intervalOption.key].contains spec.key

def checkOption (given : List Given) (spec : OptionSpec) : Except UsageError Unit :=
  match valueOf spec.key given with
  | none => if isRequired spec then .error (.missingOption (spec.names.headD "")) else .ok ()
  | some value =>
    if isDuration spec then
      match Duration.parse value with
      | .ok _ => .ok ()
      | .error error => .error (.badValue spec.names error.message)
    else .ok ()

/-- The duration that was given for an option; it has been checked. -/
def durationOf (spec : OptionSpec) (given : List Given) : Option Float := do
  (Duration.parse (← valueOf spec.key given)).toOption

def textOf (spec : OptionSpec) (given : List Given) : String := (valueOf spec.key given).getD ""

/-- The command of a verb with options that have been checked. -/
def Verb.command (verb : Verb) (given : List Given) : Command :=
  let name := textOf nameOption given
  let consumer := textOf consumerOption given
  let timeout := durationOf timeoutOption given
  let interval := durationOf intervalOption given
  match verb with
  | wait => .wait name consumer (textOf conditionOption given) timeout interval
  | get => .get name consumer
  | describe => .describe name consumer
  | list => .list consumer (textOf patternOption given)
  | delete => .delete name consumer (valueOf waitOption.key given).isSome
      (valueOf dryRunOption.key given).isSome timeout
  | watch => .watch name consumer (valueOf untilOption.key given) timeout interval

/-- Reads a command from the arguments after its verb; none when help is asked for. -/
def Verb.parse (verb : Verb) (arguments : List String) : Except UsageError (Option Command) := do
  let (given, others) ← read verb.options true arguments
  if (valueOf helpOption.key given).isSome then return none
  (inOrder verb.options given).forM (checkOption given)
  if !others.isEmpty then throw (.extraArguments others)
  return some (verb.command given)

/-- Why the arguments before the verb cannot be used. -/
inductive FlagError where
  | usage (error : UsageError)
  | path (error : FileError)
  deriving DecidableEq, Repr

def checkFlag (folder : Folder) (given : List Given) (spec : OptionSpec) :
    Except FlagError Unit :=
  match spec.key, valueOf spec.key given with
  | "output", some value =>
    if (SettingsError.formats.map foldCase).contains (foldCase value) then .ok ()
    else .error (.usage (.badValue spec.names (quoted value ++ " is not one of " ++
      ", ".intercalate (SettingsError.formats.map quoted) ++ ".")))
  | "results", some value =>
    if value.toList.contains '\x00' then .error (.path .nullCharacter)
    -- Only a directory is turned down; what else is wrong with a path shows when it is written to.
    else if value.isEmpty || pathLimit < value.utf8ByteSize then .ok ()
    else
      match folder.locate (Path.parse value) with
      | .error (.directory _) =>
        .error (.usage (.badValue spec.names ("File " ++ quoted value ++ " is a directory.")))
      | _ => .ok ()
  | _, _ => .ok ()

/-- The flags before the verb, which have been checked. -/
def overrides (given : List Given) : Overrides where
  endpoint := valueOf "endpoint" given
  insecure := (valueOf "insecure" given).map (· = "--insecure")
  format := (valueOf "output" given).map foldCase
  results := (valueOf "results" given).map Path.parse
  verbose := (valueOf "verbose" given).isSome

/-- Reads the flags before the verb: what one of them asks for by itself, or all of them, which have
been checked, and the other arguments. -/
def readFlags (folder : Folder) (arguments : List String) :
    Except FlagError (Invocation ⊕ List Given × List String) := do
  let (given, others) ← (read globalOptions false arguments).mapError .usage
  match (given.map Given.key).find? fun key => key = "version" || key = "help" with
  | some key => return .inl (if key = "version" then .version else .help)
  | none =>
    (inOrder globalOptions given).forM (checkFlag folder given)
    return .inr (given, others)

/-- What becomes of a name that is no verb. -/
def unknownVerb (folder : Folder) (name : String) (arguments : List String) :
    Except FlagError Invocation := do
  -- A name that looks like an option has come after two dashes; flags are read from there on.
  if isOption name then
    if let .inl invocation ← readFlags folder (name :: arguments) then return invocation
  throw (.usage (.noSuchCommand name (similarNames name (Verb.all.map (·.1)))))

/-- Reads a command line in a directory with some files. -/
def parse (folder : Folder) (arguments : List String) : Except FlagError Invocation := do
  if arguments.isEmpty then throw (.usage .noArguments)
  match ← readFlags folder arguments with
  | .inl invocation => return invocation
  | .inr (_, []) => throw (.usage .missingCommand)
  | .inr (given, name :: arguments) =>
    match Verb.ofName? name with
    | none => unknownVerb folder name arguments
    | some verb =>
      match ← (verb.parse arguments).mapError .usage with
      | some command => return .command (overrides given) command
      | none => return .help

end CommandLine

end WorkWatch
