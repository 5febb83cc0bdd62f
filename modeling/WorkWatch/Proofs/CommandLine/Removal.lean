import WorkWatch.Proofs.Client.Deletion
import WorkWatch.Proofs.CommandLine.Readers

/-! The delete command, from its first look-up to its end. It looks the work up twice, and only what
the second look-up finds is deleted. -/

namespace WorkWatch

/-- A deletion that a command has asked for: its requests, and what was replied to them. -/
structure Deletion where
  name : String
  consumer : String
  settings : Settings
  client : Client
  listing : Request
  search : Request
  request : Request
  listed : Reply
  first : Reply
  second : Reply
  reply : Reply
  /-- The bundle that the second look-up has found. -/
  bundle : Json

namespace Deletion

def requests (deletion : Deletion) : List Request :=
  [deletion.listing, deletion.search, deletion.search, deletion.request]

/-- Both look-ups have found the work, and the bundle that the second one has found is asked to be
deleted by its identifier. -/
structure Sent (deletion : Deletion) (flags : Overrides) (session : Session) : Prop where
  loaded : Settings.load session.environment flags = .ok deletion.settings
  connected : Client.connect deletion.settings.connection.endpoint
    deletion.settings.connection.timeout = .ok deletion.client
  lists : deletion.client.Lists deletion.listing
  searches : deletion.client.Searches deletion.consumer deletion.search
  found : ∃ bundle, deletion.first.Finds deletion.name bundle
  chosen : deletion.second.Finds deletion.name deletion.bundle
  deletes : deletion.client.Deletes (deletion.bundle.textOf "id") deletion.request
  replies : session.network.server.replies deletion.requests =
    [deletion.listed, deletion.first, deletion.second, deletion.reply]

/-- The deletion has succeeded, and a wait for it has reached its goal where there was to be one. -/
structure Done (deletion : Deletion) (polls : Nat) (waits : Bool) (timeout : Option Float)
    (session : Session) : Prop where
  succeeds : deletion.reply.Succeeds
  waited : waits = true → ∃ (polling : PollSettings Float) (begun : Session)
    (outcome : WaitOutcome Float),
      deletion.settings.pollSettings timeout none = .ok polling ∧
      session.Performs begun ⟨deletion.requests, [], []⟩ ∧
      (waitFor ⟨Session.acquire deletion.client deletion.consumer deletion.name, none⟩ polling
        .deletion begun.clock begun polls).1 = .outcome outcome ∧
      outcome.state = .conditionMet

end Deletion

namespace CommandLine

/-- What a look-up of a work that may be missing makes of the reply to its search. -/
def foundIn (consumer name : String) (reply : Reply) : Except CommandError (Option Summary) :=
  match Client.summaryIn consumer name reply with
  | .ok work => .ok (some work)
  | .error (.workMissing ..) => .ok none
  | .error failure => .error (.failure failure)

theorem findWork_asks {client : Client} {consumer : String} {search : Request}
    (h : client.Searches consumer search) (name : String) (session : Session) :
    findWork client consumer name session =
      (foundIn consumer name (session.network.send search).1, session.after search) := by
  unfold findWork foundIn
  rw [Session.exchange_asks (Client.getSummary_asks h name)]
  cases Client.summaryIn consumer name (session.network.send search).1 with
  | ok work => rfl
  | error failure => cases failure <;> rfl

variable {polls : Nat} {flags : Overrides} {name consumer : String} {waits dryRun : Bool}
  {timeout : Option Float} {session : Session}

/-- How a delete command can go. -/
inductive Deletes (polls : Nat) (flags : Overrides) (name consumer : String) (waits dryRun : Bool)
    (timeout : Option Float) (session : Session) :
    Except CommandError (List String) × Session → Prop
  | stopped {sent : List Request} {error : CommandError} {last : Session}
      (performs : session.Performs last ⟨sent, [], []⟩)
      (gets : ∀ request ∈ sent, request.method = .get)
      (fails : (Command.delete name consumer waits dryRun timeout).Fails flags session sent error) :
      Deletes polls flags name consumer waits dryRun timeout session (.error error, last)
  | absent {sent : List Request} {last : Session}
      (performs : session.Performs last ⟨sent, [], []⟩)
      (gets : ∀ request ∈ sent, request.method = .get) :
      Deletes polls flags name consumer waits dryRun timeout session
        (.ok ["ManifestWork " ++ name ++ " not found, nothing to delete"], last)
  | spared {sent : List Request} {last : Session} {work : Summary} (dry : dryRun = true)
      (performs : session.Performs last ⟨sent, [], []⟩)
      (gets : ∀ request ∈ sent, request.method = .get) :
      Deletes polls flags name consumer waits dryRun timeout session
        (.ok ["[DRY RUN] Would delete ManifestWork " ++ name ++ " (" ++
          Text.natText work.manifests.length ++ " manifests) from " ++ consumer], last)
  | failed {deletion : Deletion} {polled : List Request} {error : CommandError} {last : Session}
      (dry : dryRun = false) (sent : deletion.Sent flags session)
      (named : deletion.name = name ∧ deletion.consumer = consumer)
      (performs : session.Performs last ⟨deletion.requests ++ polled, [], []⟩)
      (gets : ∀ request ∈ polled, request.method = .get)
      (fails : (Command.delete name consumer waits dryRun timeout).Fails flags session
        (deletion.requests ++ polled) error) :
      Deletes polls flags name consumer waits dryRun timeout session (.error error, last)
  | unwritten {deletion : Deletion} {polled : List Request} {error : FileError} {last : Session}
      {time : Time.Timestamp} (dry : dryRun = false) (sent : deletion.Sent flags session)
      (named : deletion.name = name ∧ deletion.consumer = consumer)
      (performs : session.Performs last ⟨deletion.requests ++ polled, [], []⟩)
      (gets : ∀ request ∈ polled, request.method = .get)
      (refused : (Outcome.deleted name consumer time).write deletion.settings.results
        (session.environment.get? Settings.resultsVariable) session.folder = .error error) :
      Deletes polls flags name consumer waits dryRun timeout session (.error (.file error), last)
  | done {deletion : Deletion} {polled : List Request} {documents : List (Path × String)}
      {last : Session} (dry : dryRun = false) (sent : deletion.Sent flags session)
      (named : deletion.name = name ∧ deletion.consumer = consumer)
      (done : deletion.Done polls waits timeout session)
      (performs : session.Performs last ⟨deletion.requests ++ polled, [], documents⟩)
      (gets : ∀ request ∈ polled, request.method = .get)
      (written : ∀ document ∈ documents, ∃ time,
        document.2 = (Outcome.deleted name consumer time).text) :
      Deletes polls flags name consumer waits dryRun timeout session
        (.ok ["ManifestWork " ++ name ++ " deleted"], last)


end CommandLine

end WorkWatch
