import WorkWatch.Net.Url
import WorkWatch.Script

/-!
The exchange of requests and answers with a server. What the server answers is given in advance, for
each of three kinds of requests in turn.
-/

namespace WorkWatch

inductive Method where
  | get
  | delete
  deriving DecidableEq, Repr

def Method.text : Method → String
  | .get => "GET"
  | .delete => "DELETE"

structure Request where
  method : Method
  url : Net.Url
  /-- How long to wait for the answer, in seconds. -/
  timeout : Float

/-- What comes back for a request: an answer with a status and a body, or none, because it did not
come in time, the exchange was broken off, or it was not allowed to begin. -/
inductive Reply where
  | response (status : Nat) (body : List UInt8)
  | timeout
  | broken (message : String)
  | refused (kind message : String)

structure Answer where
  takes : Float
  reply : Reply

inductive Route where
  | consumers
  | bundles
  | deletion
  deriving DecidableEq, Repr

def consumersPath : List Char := "/consumers".toList

def Request.route (request : Request) : Route :=
  match request.method with
  | .delete => .deletion
  | .get => if consumersPath.isSuffixOf request.url.path then .consumers else .bundles

/-- A server with what it answers from now on. -/
structure Server where
  consumers : Script Answer
  bundles : Script Answer
  deletion : Script Answer

/-- The answer to a request, and the server after it. -/
def Server.answer (server : Server) : Route → Answer × Server
  | .consumers =>
    let (answer, consumers) := server.consumers.advance
    (answer, { server with consumers })
  | .bundles =>
    let (answer, bundles) := server.bundles.advance
    (answer, { server with bundles })
  | .deletion =>
    let (answer, deletion) := server.deletion.advance
    (answer, { server with deletion })

/-- A server, the requests sent to it, and the times that their answers took, in order. -/
structure Network where
  server : Server
  requests : List Request
  delays : List Float

namespace Network

def start (server : Server) : Network := ⟨server, [], []⟩

def send (request : Request) (network : Network) : Reply × Network :=
  let (answer, server) := network.server.answer request.route
  (answer.reply, ⟨server, network.requests ++ [request], network.delays ++ [answer.takes]⟩)

@[simp] theorem requests_send (request : Request) (network : Network) :
    (network.send request).2.requests = network.requests ++ [request] := rfl

/-- The time that has gone by since it was last asked for. -/
def takeDelay (network : Network) : Float × Network :=
  (network.delays.foldl (· + ·) 0, { network with delays := [] })

end Network

end WorkWatch
