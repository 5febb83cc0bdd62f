import WorkWatch.CommandLine.Session
import WorkWatch.Json.Writer

/-!
Recorded sessions. A recording is a JSON document that says what a server answers, which signals
come, and which files there are; with it a session runs without a server.
-/

namespace WorkWatch.Recording

open Text

/-- A number, or the text of one. -/
def number? : Json → Option Float
  | .int n => Decimal.ofInt? n
  | .float x => some x
  | .str s => Decimal.readFloat? s
  | _ => none

/-- The time under a name in seconds, none at all when it is missing. -/
def seconds (name : String) (document : Json) : Float := (number? (document.get name)).getD 0

def textOr (default name : String) (document : Json) : String :=
  ((document.get name).str?).getD default

def digitOfHex? (c : Char) : Option Nat :=
  if isDigit c then some (c.toNat - '0'.toNat)
  else if 'a' ≤ c && c ≤ 'f' then some (c.toNat - 'a'.toNat + 10)
  else if 'A' ≤ c && c ≤ 'F' then some (c.toNat - 'A'.toNat + 10)
  else none

/-- The bytes that pairs of hexadecimal digits stand for, up to the first that is no pair. -/
def bytesOfHex : List Char → List UInt8
  | high :: low :: rest =>
    match digitOfHex? high, digitOfHex? low with
    | some high, some low => UInt8.ofNat (high * 16 + low) :: bytesOfHex rest
    | _, _ => []
  | _ => []

def bytesOfText (text : String) : List UInt8 := text.toUTF8.toList

/-- The body of a recorded answer: a JSON document, a text, or bytes. -/
def body (answer : Json) : List UInt8 :=
  match answer.get? "json", answer.get "body", answer.get "hex" with
  | some document, _, _ => bytesOfText document.compact
  | none, .str text, _ => bytesOfText text
  | none, _, .str digits => bytesOfHex digits.toList
  | none, _, _ => []

/-- A name of an error that tells of an answer that did not come in time. -/
def isTimeout (kind : String) : Bool :=
  "Timeout".toList.isSuffixOf kind.toList || kind = "TimeoutException"

/-- The names of errors that tell of a request that was not sent. -/
def refusals : List String := ["InvalidURL", "CookieConflict", "StreamError"]

def reply (answer : Json) : Reply :=
  match answer.get "raise" with
  | .str kind =>
    let message := textOr "" "message" answer
    if isTimeout kind then .timeout
    else if refusals.contains kind then .refused kind message
    else .broken message
  | _ =>
    match answer.get "status" with
    | .int status => .response status.toNat (body answer)
    | _ => .response 200 (body answer)

def answer (document : Json) : Answer := ⟨seconds "takes" document, reply document⟩

/-- The answers of a route, which has one answer when nothing is recorded for it. -/
def route (document : Json) (name : String) (default : Answer) : Script Answer :=
  Script.ofList default ((document.get name).itemsOrNone.map answer)

/-- One consumer is all that a server knows of when nothing is recorded. -/
def consumersAnswer : Answer :=
  ⟨0, .response 200 (bytesOfText "\x7b\"items\":[\x7b\"name\":\"cluster1\"\x7d]\x7d")⟩

def bundlesAnswer : Answer := ⟨0, .response 200 (bytesOfText "\x7b\"items\":[]\x7d")⟩

def deletionAnswer : Answer := ⟨0, .response 204 []⟩

def server (document : Json) : Server where
  consumers := route document "consumers" consumersAnswer
  bundles := route document "bundles" bundlesAnswer
  deletion := route document "delete" deletionAnswer

/-- What happens at a time: a signal is received, or someone cancels. -/
def alarm (event : Json) : Alarm Float where
  due := seconds "at" event
  cause :=
    match event.get "signal" with
    | .str name => "received " ++ name
    | _ => textOr defaultCause "cancel" event

def alarms (recording : Json) : List (Alarm Float) :=
  (recording.get "events").itemsOrNone.map alarm

/-- The permission bits of a recorded file. -/
def fileMode : Nat := 0o644

def folder (recording : Json) : Folder :=
  (recording.get "files").membersOrNone.map fun (name, text) =>
    (name, ⟨fileMode, text.str?.getD ""⟩)

def environment (recording : Json) : Environment :=
  (recording.get "env").membersOrNone.filterMap fun (name, value) => value.str?.map (name, ·)

/-- The recording in a text, if there is one. A blank text records nothing. -/
def parse? (text : String) : Option Json :=
  if (stripped text).isEmpty then some (.obj []) else (Json.parse text).toOption

/-- When a recorded session began, in seconds since the beginning of 1970. -/
def began (recording : Json) : Int :=
  match recording.get "began" with
  | .int seconds => seconds
  | _ => 0

/-- The files that a session has written. -/
def written (before after : Folder) : List (String × String) :=
  after.filterMap fun (name, file) =>
    if before.get? name = some file then none else some (name, file.text)

/-- A session that begins at a time of the wall clock, in seconds since the beginning of 1970. -/
def session (environment : Environment) (began : Int) (recording : Json) : Session where
  environment
  began
  now := 0
  alarms := Alarm.sort (alarms recording)
  network := Network.start (server (recording.get "server"))
  transports := []
  folder := folder recording
  printed := []
  log := []
  waits := []
  seen := none

end WorkWatch.Recording
