import WorkWatch.CommandLine.Run
import WorkWatch.Proofs.Client.Lookup
import WorkWatch.Proofs.CommandLine.Steps

/-! The trace of a command: the requests that it sends, the lines that it prints and the documents
that it writes. Traces of steps that follow one another are put together. -/

namespace WorkWatch

theorem Server.replies_append (server : Server) (first second : List Request) :
    server.replies (first ++ second) =
      server.replies first ++ (server.after first).replies second := by
  induction first generalizing server with
  | nil => rfl
  | cons request first ih =>
    rw [List.cons_append, replies, replies, ih]
    rfl

/-- Writes some documents into a folder, one after the other. -/
def Folder.writes (documents : List (Path × String)) (folder : Folder) : Except FileError Folder :=
  documents.foldlM (fun folder document => folder.write document.1 document.2) folder

theorem Folder.writes_append {first second : List (Path × String)} {folder middle last : Folder}
    (h : folder.writes first = .ok middle) (h' : middle.writes second = .ok last) :
    folder.writes (first ++ second) = .ok last := by
  unfold writes at h h' ⊢
  rw [List.foldlM_append, h]
  exact h'

/-- What is done in the course of a command. -/
structure Trace where
  requests : List Request
  lines : List String
  documents : List (Path × String)

namespace Trace

def nothing : Trace := ⟨[], [], []⟩

instance : Append Trace where
  append first second := ⟨first.requests ++ second.requests, first.lines ++ second.lines,
    first.documents ++ second.documents⟩

/-- What lines may be printed and what documents may be written. -/
structure Scope where
  line : String → Prop
  document : String → Prop

def Scope.none : Scope := ⟨fun _ => False, fun _ => False⟩

/-- Nothing is asked for but documents, and nothing is printed or written outside of a scope. -/
structure Within (scope : Scope) (trace : Trace) : Prop where
  requests : ∀ request ∈ trace.requests, request.method = .get
  lines : ∀ line ∈ trace.lines, scope.line line
  documents : ∀ document ∈ trace.documents, scope.document document.2

variable {scope : Scope}

theorem Within.append {first second : Trace} (h : first.Within scope) (h' : second.Within scope) :
    (first ++ second).Within scope := by
  constructor
  · intro request hmem
    rcases List.mem_append.mp hmem with hmem | hmem
    · exact h.requests request hmem
    · exact h'.requests request hmem
  · intro line hmem
    rcases List.mem_append.mp hmem with hmem | hmem
    · exact h.lines line hmem
    · exact h'.lines line hmem
  · intro document hmem
    rcases List.mem_append.mp hmem with hmem | hmem
    · exact h.documents document hmem
    · exact h'.documents document hmem

end Trace

namespace Session

/-- From a session a later one is reached in which what a trace tells has been done. -/
structure Performs (before after : Session) (trace : Trace) : Prop where
  network : before.network.Sends after.network trace.requests
  environment : after.environment = before.environment
  printed : after.printed = before.printed ++ trace.lines
  folder : before.folder.writes trace.documents = .ok after.folder

theorem Performs.refl (session : Session) : session.Performs session .nothing :=
  ⟨.refl _, rfl, (List.append_nil _).symm, rfl⟩

theorem Performs.trans {first second third : Session} {trace later : Trace}
    (h : first.Performs second trace) (h' : second.Performs third later) :
    first.Performs third (trace ++ later) := by
  refine ⟨h.network.trans h'.network, ?_, ?_, Folder.writes_append h.folder h'.folder⟩
  · rw [h'.environment, h.environment]
  · rw [h'.printed, h.printed, List.append_assoc]
    rfl

/-- What a session performs does not depend on its clock and its log. -/
theorem Performs.of_fields {before after other : Session} {trace : Trace}
    (h : before.Performs after trace) (hnetwork : other.network = after.network)
    (henvironment : other.environment = after.environment)
    (hprinted : other.printed = after.printed) (hfolder : other.folder = after.folder) :
    before.Performs other trace := by
  obtain ⟨network, environment, printed, folder⟩ := h
  refine ⟨?_, henvironment.trans environment, hprinted.trans printed, hfolder ▸ folder⟩
  rw [hnetwork]
  exact network

theorem performs_sends {session : Session} {network : Network} {sent : List Request}
    (h : session.network.Sends network sent) :
    session.Performs { session with network } ⟨sent, [], []⟩ :=
  ⟨h, rfl, (List.append_nil _).symm, rfl⟩

theorem foldl_spend_eq (delays : List Float) : ∀ session : Session, ∃ now alarms,
    delays.foldl (fun session delay => session.spend delay) session =
      { session with now, alarms } := by
  induction delays with
  | nil => exact fun session => ⟨session.now, session.alarms, rfl⟩
  | cons delay delays ih =>
    intro session
    obtain ⟨now, alarms, h⟩ := ih (session.spend delay)
    exact ⟨now, alarms, h⟩

/-- The session once an exchange has left the network like this, and its time has gone by. -/
def settled (network : Network) (session : Session) : Session :=
  network.delays.foldl (fun session delay => session.spend delay)
    { session with network := { network with delays := [] } }

theorem settled_performs {session : Session} {network : Network} {sent : List Request}
    (h : session.network.Sends network sent) :
    session.Performs (session.settled network) ⟨sent, [], []⟩ := by
  obtain ⟨now, alarms, hspent⟩ := foldl_spend_eq network.delays
    { session with network := { network with delays := [] } }
  have hsends : session.network.Sends { network with delays := [] } sent := ⟨h.requests, h.server⟩
  unfold settled
  rw [hspent]
  exact (performs_sends hsends).of_fields rfl rfl rfl rfl

def after (request : Request) (session : Session) : Session :=
  session.settled (session.network.send request).2

theorem after_performs (request : Request) (session : Session) :
    session.Performs (session.after request) ⟨[request], [], []⟩ :=
  settled_performs (Network.send_sends session.network request _)

variable {α : Type} {requests : Exchange α}

theorem exchange_asks {request : Request} {read : Reply → Except Failure α}
    (h : requests.Asks request read) (session : Session) :
    session.exchange requests =
      (read (session.network.send request).1, session.after request) := by
  unfold exchange
  rw [h session.network]
  rfl

end Session

namespace Step

variable {α : Type} {requests : Exchange α}

theorem connect_apply (connection : Connection) (session : Session) :
    connect connection session =
      ((Client.connect connection.endpoint connection.timeout).mapError
        (.failure ∘ Failure.invalidUrl), (connect connection session).2) := rfl

theorem record_apply (entry : LogEntry) (session : Session) :
    record entry session = (.ok (), session.record entry) := rfl

theorem exchange_apply (requests : Exchange α) (session : Session) :
    exchange requests session = ((requests session.network).1.mapError .failure,
      session.settled (requests session.network).2) := rfl

theorem exchange_asks {request : Request} {read : Reply → Except Failure α}
    (h : requests.Asks request read) (session : Session) :
    exchange requests session =
      ((read (session.network.send request).1).mapError .failure, session.after request) := by
  unfold exchange
  rw [Session.exchange_asks h]

end Step

end WorkWatch
