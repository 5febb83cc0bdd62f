import WorkWatch.Text.Quoted
import WorkWatch.Text.Similar
import WorkWatch.Text.Split

/-!
Options of a command line: which there are, and reading them from arguments. Long options take a
value after an equals sign or as the next argument; short ones may be written together, the last of
them with its value. Two dashes end the options.
-/

namespace WorkWatch.CommandLine

open WorkWatch.Text

/-- An option with a key, its names and whether it takes a value. -/
structure OptionSpec where
  key : String
  names : List String
  takesValue : Bool
  deriving DecidableEq, Repr

/-- An option as it was given, with its value or the name that was used. -/
structure Given where
  key : String
  value : String
  deriving DecidableEq, Repr

/-- Why arguments cannot be used. -/
inductive UsageError where
  | noSuchOption (name : String) (similar : List String)
  | noSuchCommand (name : String) (similar : List String)
  | noArguments
  | needsValue (name : String)
  | takesNoValue (name : String)
  | missingOption (name : String)
  | missingCommand
  | extraArguments (arguments : List String)
  | badValue (names : List String) (problem : String)
  deriving DecidableEq, Repr

namespace UsageError

def kind : UsageError → String
  | .noSuchOption .. => "NoSuchOption"
  | .noSuchCommand .. => "NoSuchCommand"
  | .noArguments => "NoArgsIsHelpError"
  | .needsValue _ | .takesNoValue _ => "BadOptionUsage"
  | .missingOption _ => "MissingParameter"
  | .missingCommand | .extraArguments _ => "UsageError"
  | .badValue .. => "BadParameter"

/-- A proposal of names instead of a misspelt one. -/
def proposal : List String → String
  | [] => ""
  | [name] => " Did you mean " ++ quoted name ++ "?"
  | names => " (Did you mean one of: " ++ ", ".intercalate (names.map quoted) ++ "?)"

def message : UsageError → String
  | .noSuchOption name similar =>
    "No such option " ++ quoted name ++ "." ++ proposal similar
  | .noSuchCommand name similar =>
    "No such command " ++ quoted name ++ "." ++ proposal similar
  | .noArguments => ""
  | .needsValue name => "Option " ++ quoted name ++ " requires an argument."
  | .takesNoValue name => "Option " ++ quoted name ++ " does not take a value."
  | .missingOption name => "Missing option '" ++ name ++ "'."
  | .missingCommand => "Missing command."
  | .extraArguments arguments =>
    "Got unexpected extra argument" ++ (if arguments.length = 1 then "" else "s") ++ " (" ++
      " ".intercalate arguments ++ ")"
  | .badValue names problem =>
    "Invalid value for " ++ " / ".intercalate (names.map fun name => "'" ++ name ++ "'") ++ ": " ++
      problem

end UsageError

def lookUp (specs : List OptionSpec) (name : String) : Option OptionSpec :=
  specs.find? (·.names.contains name)

/-- One or more options written together after a dash. With the option that takes a value the rest
is its value, or the next argument if there is no rest. -/
def readShort (specs : List OptionSpec) :
    List Char → List String → Except UsageError (List Given × List String)
  | [], arguments => .ok ([], arguments)
  | c :: rest, arguments =>
    let name := String.ofList ['-', c]
    match lookUp specs name with
    | none => .error (.noSuchOption name [])
    | some spec =>
      if spec.takesValue then
        match rest, arguments with
        | [], [] => .error (.needsValue name)
        | [], value :: arguments => .ok ([⟨spec.key, value⟩], arguments)
        | rest, arguments => .ok ([⟨spec.key, String.ofList rest⟩], arguments)
      else do
        let (more, arguments) ← readShort specs rest arguments
        return (⟨spec.key, name⟩ :: more, arguments)

/-- The name of an option and the value after an equals sign, if there is one. -/
def splitValue (argument : String) : String × Option String :=
  match cut? ['='] argument.toList with
  | some (name, value) => (String.ofList name, some (String.ofList value))
  | none => (argument, none)

/-- The names of options that are more than a dash and a character. -/
def longNames (specs : List OptionSpec) : List String :=
  (specs.flatMap OptionSpec.names).filter fun name => 2 < name.length

def readOption (specs : List OptionSpec) (argument : String) (arguments : List String) :
    Except UsageError (List Given × List String) :=
  let (name, value) := splitValue argument
  match (lookUp specs name).filter fun _ => 2 < name.length, value with
  | some spec, some value =>
    if spec.takesValue then .ok ([⟨spec.key, value⟩], arguments) else .error (.takesNoValue name)
  | some spec, none =>
    if spec.takesValue then
      match arguments with
      | [] => .error (.needsValue name)
      | value :: arguments => .ok ([⟨spec.key, value⟩], arguments)
    else .ok ([⟨spec.key, name⟩], arguments)
  | none, _ =>
    if ['-', '-'].isPrefixOf argument.toList then
      .error (.noSuchOption name (similarNames name (longNames specs)))
    else readShort specs (argument.toList.drop 1) arguments

/-- The argument is an option and not a value. -/
def isOption (argument : String) : Bool :=
  argument.toList.head? = some '-' && 1 < argument.length

/-- Reads arguments: the options that are given, and the other arguments. Unless options may follow
other arguments, the first of these ends the options. At most `fuel` arguments are read. -/
def readWithin (specs : List OptionSpec) (mixed : Bool) :
    Nat → List String → Except UsageError (List Given × List String)
  | _, [] => .ok ([], [])
  | 0, arguments => .ok ([], arguments)
  | fuel + 1, argument :: arguments =>
    -- Two dashes end the options wherever they stand.
    if argument = "--" then .ok ([], arguments)
    else if isOption argument then do
      let (given, arguments) ← readOption specs argument arguments
      let (more, others) ← readWithin specs mixed fuel arguments
      return (given ++ more, others)
    else if mixed then do
      let (given, others) ← readWithin specs mixed fuel arguments
      return (given, argument :: others)
    else .ok ([], argument :: arguments)

def read (specs : List OptionSpec) (mixed : Bool) (arguments : List String) :
    Except UsageError (List Given × List String) :=
  readWithin specs mixed arguments.length arguments

/-- The value that was given last for an option. -/
def valueOf (key : String) (given : List Given) : Option String :=
  (given.reverse.find? (·.key = key)).map Given.value

/-- Options in the order in which they are checked: those that are given, then the others. -/
def inOrder (specs : List OptionSpec) (given : List Given) : List OptionSpec :=
  let keys := (given.map Given.key).foldl
    (fun keys key => if keys.contains key then keys else keys ++ [key]) []
  keys.filterMap (fun key => specs.find? (·.key = key)) ++
    specs.filter fun spec => !keys.contains spec.key

end WorkWatch.CommandLine
