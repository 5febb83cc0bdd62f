import WorkWatch.Client.Network
import WorkWatch.Client.Search
import WorkWatch.Failure.Basic
import WorkWatch.Json.Encoding
import WorkWatch.Net.Status
import WorkWatch.Work.Snapshot

/-!
Reading and deleting works over HTTP. Works are kept as resource bundles; the name of a work is in
the metadata of its bundle.
-/

namespace WorkWatch

open Text

/-- Requests that may fail. -/
abbrev Exchange (α : Type) := ExceptT Failure (StateM Network) α

structure Client where
  base : Net.Url
  timeout : Float

namespace Client

/-- How long to wait for a connection, in seconds. -/
def connectTimeout : Float := 10

/-- The media type that is asked for. -/
def accept : String := "application/json"

def connect (endpoint : String) (timeout : Float) : Except Net.UrlError Client := do
  let url ← Net.Url.parse (dropRight (· = '/') endpoint.toList)
  return ⟨← url.asBase, timeout⟩

def url (client : Client) (path : List Char) (query : Option (List Char)) :
    Except Net.UrlError Net.Url := do
  let url ← client.base.under (← Net.Url.parse path)
  match query with
  | none => return url
  | some query => url.withQuery query

/-- A value that counts as given: neither null nor false, zero or empty. -/
def isGiven : Json → Bool
  | .null => false
  | .bool value => value
  | .int value => value != 0
  | .float value => value != 0
  | .str value => !value.isEmpty
  | .arr items => !items.isEmpty
  | .obj members => !members.isEmpty

/-- The reason that an answer without success gives in its body, else the phrase of its status. -/
def reasonOf (status : Nat) : Except Json.ReadError Json → String
  | .ok (.obj members) =>
    let payload := Json.obj members
    let reason := payload.get "reason"
    match if isGiven reason then reason else payload.get "message" with
    | .str text => text
    | _ => Net.phrase status
  | _ => Net.phrase status

def statusText (action : String) (status : Nat) (reason : String) : String :=
  String.ofList <| dropRight isBlank <|
    ("failed to " ++ action ++ ": HTTP " ++ natText status ++ " " ++ reason).toList

/-- What a reply says: the document of a successful answer, null when its body is empty. -/
def document (action : String) : Reply → Except Failure Json
  | .timeout => .error (.api ("failed to " ++ action ++ ": timeout") none)
  | .broken message => .error (.api ("failed to " ++ action ++ ": " ++ message) none)
  | .refused kind message => .error (.other kind message)
  | .response status body =>
    -- A document nested too deep ends the reading in a way of its own, whatever the status.
    if Net.isSuccess status && body.isEmpty then .ok .null
    else
      match Net.isSuccess status, Json.ofBytes body with
      | _, .error (.tooDeep container) => .error (.unreadable (.tooDeep container))
      | false, found => .error (.api (statusText action status (reasonOf status found)) (some status))
      | true, .ok payload => .ok payload
      | true, .error _ =>
        .error (.api ("failed to " ++ action ++ ": invalid JSON response") (some status))

def request (client : Client) (method : Method) (path : List Char) (query : Option (List Char))
    (action : String) : Exchange Json := fun network =>
  match client.url path query with
  | .error error => (.error (.invalidUrl error), network)
  | .ok url =>
    let (reply, network) := network.send ⟨method, url, client.timeout⟩
    (document action reply, network)

/-- The objects among the items of an answer. -/
def items (payload : Json) : List Json := (payload.get "items").itemsOrNone.filter Json.isObject

def apiPath : List Char := "/api/maestro/v1".toList

def bundlesPath : List Char := apiPath ++ "/resource-bundles".toList

def listConsumers (client : Client) : Exchange (List String) := do
  let payload ← client.request .get (apiPath ++ consumersPath) none "list consumers"
  return (items payload).filterMap fun item =>
    ((item.get "name").str?).filter (!·.isEmpty)

/-- Fails with the names of the consumers unless one of them is asked for. -/
def validateConsumer (client : Client) (consumer : String) : Exchange Unit := do
  let consumers ← client.listConsumers
  if consumers.contains consumer then return () else throw (.consumerMissing consumer consumers)

/-- The query for the works of a consumer, as it stands in a URL. -/
def searchQuery (consumer : String) : List Char :=
  "search=".toList ++ Net.formValue (Search.query consumer).toList

def searchBundles (client : Client) (consumer : String) : Exchange (List Json) := do
  match Search.check consumer with
  | .error problem => throw (.searchRefused problem.message)
  | .ok _ =>
    let payload ← client.request .get bundlesPath (some (searchQuery consumer))
      "search resource bundles"
    return items payload

def summaryOf (consumer : String) (bundle : Json) : Exchange Summary :=
  match Summary.ofBundle consumer bundle with
  | .ok summary => return summary
  | .error problem => throw (.unreadable problem)

def listWorks (client : Client) (consumer : String) : Exchange (List Summary) := do
  let bundles ← client.searchBundles consumer
  bundles.mapM (summaryOf consumer)

/-- The first bundle with the name of a work. -/
def getBundle (client : Client) (consumer name : String) : Exchange Json := do
  let bundles ← client.searchBundles consumer
  match bundles.find? fun bundle => bundleName bundle == name with
  | some bundle => return bundle
  | none => throw (.workMissing name consumer)

def getSummary (client : Client) (consumer name : String) : Exchange Summary := do
  summaryOf consumer (← client.getBundle consumer name)

def getSnapshot (client : Client) (consumer name : String) : Exchange Snapshot := do
  match Snapshot.ofBundle consumer (← client.getBundle consumer name) with
  | .ok snapshot => return snapshot
  | .error problem => throw (.unreadable problem)

/-- Deletes a work by the identifier of its bundle; gives the summary of what was deleted. -/
def deleteWork (client : Client) (consumer name : String) : Exchange Summary := do
  let work ← client.getSummary consumer name
  let _ ← client.request .delete (bundlesPath ++ '/' :: work.id.toList) none
    ("delete resource bundle " ++ work.id)
  return work

end Client

end WorkWatch
