import WorkWatch.CommandLine.Session
import WorkWatch.Proofs.Client.Replies
import WorkWatch.Proofs.Wait.Account

/-! Waits that poll a server. Every poll sends the same search, so that what a wait gets is what the
server replies to as many searches as there are polls. -/

namespace WorkWatch

/-- A source whose polls look up a work, and whose sink sends nothing. -/
structure Source.LooksUp (source : Source Float Session) (client : Client)
    (consumer name : String) : Prop where
  acquire : source.acquire = Session.acquire client consumer name
  network : ∀ now snapshot met session,
    (source.handOver now snapshot met session).network = session.network

namespace Session

variable {client : Client} {consumer : String} {request : Request}

theorem acquire_result (h : client.Searches consumer request) (name : String) (session : Session) :
    (session.acquire client consumer name).1.result =
      Client.snapshotIn consumer name (session.network.send request).1 := by
  unfold acquire
  rw [Client.getSnapshot_eq h]

theorem acquire_sends (h : client.Searches consumer request) (name : String) (session : Session) :
    session.network.Sends (session.acquire client consumer name).2.network [request] := by
  unfold acquire
  rw [Client.getSnapshot_eq h]
  exact Network.send_sends session.network request []

end Session

namespace Run

variable {client : Client} {consumer name : String} {request : Request}
  {source : Source Float Session} {settings : PollSettings Float} {goal : Goal} {deadline : Float}

theorem acquired_eq (hsource : source.LooksUp client consumer name)
    (h : client.Searches consumer request) (run : Run Float Session) :
    run.acquired source =
      Client.snapshotIn consumer name (run.surroundings.network.send request).1 := by
  rw [← Session.acquire_result h, ← hsource.acquire]
  rfl

theorem turn_sends (hsource : source.LooksUp client consumer name)
    (h : client.Searches consumer request) (settings : PollSettings Float) (goal : Goal)
    (deadline : Float) (run : Run Float Session) :
    run.surroundings.network.Sends
      (run.turn source settings goal deadline).run.surroundings.network [request] := by
  have hturn : (run.turn source settings goal deadline).run.surroundings.network =
      (source.acquire run.surroundings).2.network := by
    rw [← poll_surroundings source settings goal run (·.network) hsource.network]
    exact turn_frame (·.surroundings.network) run fun _ _ _ _ _ => rfl
  rw [hturn, hsource.acquire]
  exact Session.acquire_sends h name run.surroundings

/-- A wait sends one search for each of its polls, and gets what is replied to them. -/
theorem loop_sends (hsource : source.LooksUp client consumer name)
    (h : client.Searches consumer request) (settings : PollSettings Float) (goal : Goal)
    (deadline : Float) (n : Nat) : ∀ run : Run Float Session,
      run.surroundings.network.Sends
        (loop source settings goal deadline n run).2.surroundings.network
        (List.replicate (pollStates source settings goal deadline n run).length request) ∧
      gets source settings goal deadline n run =
        (run.surroundings.network.server.replies
          (List.replicate (pollStates source settings goal deadline n run).length request)).map
            (Client.snapshotIn consumer name) := by
  induction n with
  | zero => exact fun run => ⟨.refl _, rfl⟩
  | succ n ih =>
    intro run
    have hsends := turn_sends hsource h settings goal deadline run
    have hacquired := acquired_eq hsource h run
    rw [loop_succ, gets, pollStates]
    cases hturn : run.turn source settings goal deadline with
    | ended result =>
      rw [hturn] at hsends
      exact ⟨hsends, congrArg (fun result => [result]) hacquired⟩
    | ongoing next =>
      rw [hturn] at hsends
      change run.surroundings.network.Sends next.surroundings.network [request] at hsends
      obtain ⟨hlater, hgets⟩ := ih next
      refine ⟨hsends.trans hlater, ?_⟩
      rw [List.map_cons, hacquired]
      refine congrArg (_ :: ·) (hgets.trans ?_)
      rw [hsends.server]
      rfl

/-- What the last poll of a wait gets is read from the last reply. -/
theorem acquired_of_last (hsource : source.LooksUp client consumer name)
    (h : client.Searches consumer request) {n : Nat} {run visited : Run Float Session}
    (hlast : (pollStates source settings goal deadline n run).getLast? = some visited) :
    ∃ reply,
      (run.surroundings.network.server.replies (List.replicate
        (pollStates source settings goal deadline n run).length request)).getLast? = some reply ∧
      visited.acquired source = Client.snapshotIn consumer name reply := by
  obtain ⟨-, hgets⟩ := loop_sends hsource h settings goal deadline n run
  have hgot := congrArg List.getLast? hgets
  rw [gets, List.getLast?_map, List.getLast?_map, hlast] at hgot
  obtain ⟨reply, hreply, hread⟩ := Option.map_eq_some_iff.mp hgot.symm
  exact ⟨reply, hreply, hread.symm⟩

end Run

end WorkWatch
