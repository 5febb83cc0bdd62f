import WorkWatch.Proofs.CommandLine.Failures
import WorkWatch.Proofs.CommandLine.WaitTrace

/-! Commands that only read. Every step of such a command asks for documents, and where it fails the
error is reported or escapes for a cause that is named; the whole command inherits this from its
steps. -/

namespace WorkWatch

namespace Command

def consumer : Command → String
  | .wait _ consumer .. | .get _ consumer | .describe _ consumer | .list consumer _
  | .delete _ consumer .. | .watch _ consumer .. => consumer

/-- The work that a command is about. -/
def name : Command → String
  | .wait name .. | .get name _ | .describe name _ | .delete name .. | .watch name .. => name
  | .list .. => ""

/-- The expression that a command waits for. -/
def condition : Command → String
  | .wait _ _ condition .. => condition
  | .watch _ _ condition .. => condition.getD ""
  | _ => ""

/-- The paths and queries of the requests of a command. -/
inductive Targets (command : Command) (replies : List Reply) :
    List Char → Option (List Char) → Prop
  | consumers : Targets command replies (Client.apiPath ++ consumersPath) none
  | search :
      Targets command replies Client.bundlesPath (some (Client.searchQuery command.consumer))
  | bundle {reply : Reply} {bundle : Json} (replied : reply ∈ replies)
      (finds : reply.Finds command.name bundle) :
      Targets command replies (Client.bundlesPath ++ '/' :: (bundle.textOf "id").toList) none

/-- Why an error of a command is not reported: the address of the server or of a request is no URL, a
reply cannot be decoded, or a wait fails itself, at a snapshot that cannot be evaluated or after too
many polls in a row that got none. -/
inductive Escapes (command : Command) (flags : Overrides) (environment : Environment)
    (replies : List Reply) : CommandError → Prop
  | endpoint {settings : Settings} {error : Net.UrlError}
      (loaded : Settings.load environment flags = .ok settings)
      (refused : Client.connect settings.connection.endpoint settings.connection.timeout =
        .error error) :
      Escapes command flags environment replies (.failure (.invalidUrl error))
  | address {settings : Settings} {client : Client} {path : List Char}
      {query : Option (List Char)} {error : Net.UrlError}
      (loaded : Settings.load environment flags = .ok settings)
      (connected : Client.connect settings.connection.endpoint settings.connection.timeout =
        .ok client)
      (targets : command.Targets replies path query)
      (refused : client.url path query = .error error) :
      Escapes command flags environment replies (.failure (.invalidUrl error))
  | reply {reply : Reply} {failure : Failure} (replied : reply ∈ replies)
      (spoils : reply.Spoils command.consumer failure) :
      Escapes command flags environment replies (.failure failure)
  | comparison {reply : Reply} {snapshot : Snapshot} {error : ComparisonError}
      (replied : reply ∈ replies) (shows : reply.Shows command.consumer command.name snapshot)
      (evaluated : snapshot.evaluate command.condition = .error error) :
      Escapes command flags environment replies (.fault (.comparison error))
  | backoff {error : BackoffError} {earlier late : List Reply} (replied : replies = earlier ++ late)
      (long : longestStreak < late.length)
      (failing : ∀ reply ∈ late, ∀ snapshot,
        ¬ reply.Shows command.consumer command.name snapshot) :
      Escapes command flags environment replies (.fault (.backoff error))
  | unasked {settings : Settings} {client : Client} {failure : Failure} {error : BackoffError}
      (loaded : Settings.load environment flags = .ok settings)
      (connected : Client.connect settings.connection.endpoint settings.connection.timeout =
        .ok client)
      (refuses : Exchange.Refuses (client.searchBundles command.consumer) failure) :
      Escapes command flags environment replies (.fault (.backoff error))
  | unfinished : Escapes command flags environment replies .unfinished

variable {command : Command} {flags : Overrides} {environment : Environment}
  {replies : List Reply} {error : CommandError}

theorem Targets.later {path : List Char} {query : Option (List Char)}
    (h : command.Targets replies path query) (before : List Reply) :
    command.Targets (before ++ replies) path query := by
  cases h with
  | consumers => exact .consumers
  | search => exact .search
  | bundle replied finds => exact .bundle (List.mem_append_right before replied) finds

theorem Escapes.later (h : command.Escapes flags environment replies error)
    (before : List Reply) : command.Escapes flags environment (before ++ replies) error := by
  cases h with
  | endpoint loaded refused => exact .endpoint loaded refused
  | address loaded connected targets refused =>
    exact .address loaded connected (targets.later before) refused
  | reply replied spoils => exact .reply (List.mem_append_right before replied) spoils
  | comparison replied shows evaluated =>
    exact .comparison (List.mem_append_right before replied) shows evaluated
  | @backoff _ earlier late replied long failing =>
    refine .backoff (?_ : before ++ replies = (before ++ earlier) ++ late) long failing
    rw [replied, List.append_assoc]
  | unasked loaded connected refuses => exact .unasked loaded connected refuses
  | unfinished => exact .unfinished

/-- An error of a command that has sent some requests is reported or it escapes. -/
def Fails (command : Command) (flags : Overrides) (session : Session) (sent : List Request)
    (error : CommandError) : Prop :=
  error.IsReported ∨
    command.Escapes flags session.environment (session.network.server.replies sent) error

theorem Fails.after {first second : Session} {trace : Trace} {sent : List Request}
    (h : first.Performs second trace) (hfails : command.Fails flags second sent error) :
    command.Fails flags first (trace.requests ++ sent) error := by
  rcases hfails with hreported | hescapes
  · exact Or.inl hreported
  · right
    rw [h.environment, h.network.server] at hescapes
    rw [Server.replies_append]
    exact hescapes.later _

end Command

namespace Step

variable {α β : Type} {command : Command} {flags : Overrides} {scope : Trace.Scope}
  {session : Session}

/-- A step only reads, and where it fails the error is reported or escapes. -/
def Keeps (command : Command) (flags : Overrides) (scope : Trace.Scope) (x : Step α)
    (session : Session) : Prop :=
  ∃ trace, session.Performs (x session).2 trace ∧ trace.Within scope ∧
    ∀ error, (x session).1 = .error error → command.Fails flags session trace.requests error

theorem Keeps.bind {x : Step α} {f : α → Step β} (hx : x.Keeps command flags scope session)
    (hf : ∀ a later, x session = (.ok a, later) → later.environment = session.environment →
      (f a).Keeps command flags scope later) :
    Keeps command flags scope (x >>= f) session := by
  obtain ⟨trace, hperforms, hreads, hfails⟩ := hx
  unfold Keeps
  rw [bind_apply]
  rcases hresult : x session with ⟨error | a, later⟩
  · rw [hresult] at hperforms hfails
    refine ⟨trace, hperforms, hreads, ?_⟩
    rintro _ ⟨⟩
    exact hfails error rfl
  · rw [hresult] at hperforms
    obtain ⟨more, hmore, hmoreReads, hmoreFails⟩ := hf a later hresult hperforms.environment
    refine ⟨trace ++ more, hperforms.trans hmore, hreads.append hmoreReads, ?_⟩
    intro error herror
    exact (hmoreFails error herror).after hperforms

theorem connect_performs (connection : Connection) (session : Session) :
    session.Performs (connect connection session).2 .nothing := by
  unfold connect
  cases connection.insecure <;> exact (Session.Performs.refl session).of_fields rfl rfl rfl rfl

variable {settings : Settings} {client : Client}

end Step

end WorkWatch
