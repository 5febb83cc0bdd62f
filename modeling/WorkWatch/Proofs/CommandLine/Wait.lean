import WorkWatch.CommandLine.Run
import WorkWatch.Proofs.CommandLine.Polling
import WorkWatch.Proofs.CommandLine.Steps
import WorkWatch.Recording

/-! The wait command. When it succeeds, the last reply of the server shows a snapshot that satisfies
the condition, and no reply to a poll before does. -/

namespace WorkWatch

namespace CommandLine

open Run

theorem looksUp_resultsSink (path : Option Path) (client : Client)
    (consumer name condition : String) :
    Source.LooksUp ⟨Session.acquire client consumer name,
      resultsSink path name consumer condition⟩ client consumer name := by
  refine ⟨rfl, ?_⟩
  intro now snapshot met session
  cases path with
  | none => rfl
  | some path =>
    change (session.writeResults (some path) name consumer condition now snapshot met).2.network =
      session.network
    unfold Session.writeResults
    dsimp only
    split <;> rfl

/-- A condition wait that polls a server and reaches its goal has sent one search for each poll.
The last reply shows a snapshot that satisfies the condition, and no earlier one does. -/
theorem shows_of_outcome {client : Client} {consumer name condition : String} {search : Request}
    {source : Source Float Session} (hsource : source.LooksUp client consumer name)
    (h : client.Searches consumer search) {settings : PollSettings Float} {clock : Clock Float}
    {session : Session} {n : Nat} {outcome : WaitOutcome Float}
    (houtcome : (waitFor source settings (.condition condition) clock session n).1 =
      .outcome outcome)
    (hmet : outcome.state = .conditionMet) :
    ∃ earlier answer,
      session.network.Sends
        (waitFor source settings (.condition condition) clock session n).2.surroundings.network
        (List.replicate (earlier.length + 1) search) ∧
      session.network.server.replies (List.replicate (earlier.length + 1) search) =
        earlier ++ [answer] ∧
      (∃ snapshot, answer.Shows consumer name snapshot ∧
        snapshot.evaluate condition = .ok true) ∧
      ∀ reply ∈ earlier, ∀ snapshot, reply.Shows consumer name snapshot →
        snapshot.evaluate condition = .ok false := by
  rw [waitFor_eq] at houtcome ⊢
  generalize clock.now + settings.timeout = deadline at houtcome ⊢
  obtain ⟨hsends, hgets⟩ := loop_sends hsource h settings (.condition condition) deadline n
    (opened settings (.condition condition) clock session)
  obtain ⟨before, result, hgot, hbefore, hresult, hsnapshot⟩ := gets_of_outcome houtcome
  have hlength : (pollStates source settings (.condition condition) deadline n
      (opened settings (.condition condition) clock session)).length = before.length + 1 := by
    have hgets := congrArg List.length hgot
    rw [gets, List.length_map, List.length_append] at hgets
    exact hgets
  rw [hlength] at hsends hgets
  rw [hgot] at hgets
  -- What the polls got is read from the replies one by one, so the last of it is read from the
  -- last reply.
  obtain ⟨earlier, rest, hreplies, rfl, hrest⟩ := List.map_eq_append_iff.mp hgets.symm
  obtain ⟨answer, rfl, rfl⟩ := List.map_eq_singleton_iff.mp hrest
  rw [List.length_map] at hsends hreplies
  refine ⟨earlier, answer, hsends, hreplies, ?_, ?_⟩
  · obtain ⟨snapshot, hread⟩ := hsnapshot hmet
    refine ⟨snapshot, Client.snapshotIn_eq_ok_iff.mp hread, ?_⟩
    rw [hresult snapshot hread, decide_eq_true hmet]
  · intro reply hmem snapshot hshows
    apply hbefore snapshot
    rw [List.mem_map]
    exact ⟨reply, hmem, Client.snapshotIn_eq_ok_iff.mpr hshows⟩

/-- What a wait command that succeeds has done before it waits: it has asked for the consumers, and
it has found the work. -/
theorem runWait_eq_ok {polls : Nat} {flags : Overrides} {name consumer condition : String}
    {timeout interval : Option Float} {session last : Session} {lines : List String}
    (h : runWait polls flags name consumer condition timeout interval session =
      (.ok lines, last)) :
    ∃ settings polling client listing search begun outcome,
      Settings.load session.environment flags = .ok settings ∧
      Client.connect settings.connection.endpoint settings.connection.timeout = .ok client ∧
      client.Searches consumer search ∧
      session.network.Sends begun.network [listing, search] ∧
      (waitFor ⟨Session.acquire client consumer name,
          resultsSink settings.results name consumer condition⟩ polling (.condition condition)
        begun.clock begun polls).1 = .outcome outcome ∧
      outcome.state = .conditionMet ∧
      last = (begun.waitFor ⟨Session.acquire client consumer name,
        resultsSink settings.results name consumer condition⟩ polling (.condition condition)
        polls).2 := by
  unfold runWait at h
  obtain ⟨_, _, hget, hload⟩ := bind_eq_ok h
  obtain ⟨rfl, rfl⟩ := Step.get_eq_ok hget
  obtain ⟨settings, _, hloaded, hpoll⟩ := bind_eq_ok hload
  obtain ⟨hsettings, rfl⟩ := Step.settings_eq_ok hloaded
  obtain ⟨polling, _, hpolling, hconnect⟩ := bind_eq_ok hpoll
  obtain ⟨-, rfl⟩ := Step.settings_eq_ok hpolling
  obtain ⟨client, connected, hconnects, hvalidate⟩ := bind_eq_ok hconnect
  obtain ⟨hclient, hconnected⟩ := Step.connect_eq_ok hconnects
  obtain ⟨_, listed, hvalidates, hfind⟩ := bind_eq_ok hvalidate
  obtain ⟨_, hvalid, hlisted⟩ := Step.exchange_eq_ok hvalidates
  obtain ⟨_, found, hfinding, hrecord⟩ := bind_eq_ok hfind
  obtain ⟨_, hsummary, hfound⟩ := Step.exchange_eq_ok hfinding
  obtain ⟨_, begun, hrecords, hwait⟩ := bind_eq_ok hrecord
  have hbegun := Step.record_eq_ok hrecords
  obtain ⟨outcome, ended, hwaits, hends⟩ := bind_eq_ok hwait
  obtain ⟨houtcome, hended⟩ := Step.waitFor_eq_ok hwaits
  -- Only the two exchanges have sent anything.
  obtain ⟨listing, -, rfl⟩ := Client.validateConsumer_eq_ok hvalid
  obtain ⟨search, hsearch, rfl⟩ := Client.getSummary_eq_ok hsummary
  have hlists : session.network.Sends listed.network [listing] := by
    rw [← hconnected, hlisted]
    exact Network.send_sends connected.network listing []
  have hfinds : listed.network.Sends begun.network [search] := by
    rw [hbegun, hfound]
    exact Network.send_sends listed.network search []
  by_cases hmet : outcome.succeeded = true
  · rw [if_pos hmet] at hends
    cases hends
    exact ⟨settings, polling, client, listing, search, begun, outcome, hsettings, hclient, hsearch,
      hlists.trans hfinds, houtcome, of_decide_eq_true hmet, hended⟩
  · rw [if_neg hmet] at hends
    cases hends

/-- A wait command that succeeds has asked for the consumers, has searched once for the work and
then once for each poll. The last reply of all shows a snapshot of the work that satisfies the
condition, and none of the replies to the polls before shows one. -/
theorem runWait_met {polls : Nat} {flags : Overrides} {name consumer condition : String}
    {timeout interval : Option Float} {session last : Session} {lines : List String}
    (h : runWait polls flags name consumer condition timeout interval session =
      (.ok lines, last)) :
    ∃ settings client listing search listed found earlier answer snapshot,
      Settings.load session.environment flags = .ok settings ∧
      Client.connect settings.connection.endpoint settings.connection.timeout = .ok client ∧
      client.Searches consumer search ∧
      session.network.Sends last.network
        (listing :: search :: List.replicate (earlier.length + 1) search) ∧
      session.network.server.replies
          (listing :: search :: List.replicate (earlier.length + 1) search) =
        listed :: found :: (earlier ++ [answer]) ∧
      answer.Shows consumer name snapshot ∧ snapshot.name = name ∧
      snapshot.evaluate condition = .ok true ∧
      ∀ reply ∈ earlier, ∀ shown, reply.Shows consumer name shown →
        shown.evaluate condition = .ok false := by
  obtain ⟨settings, polling, client, listing, search, begun, outcome, hsettings, hclient, hsearch,
    hbegun, houtcome, hmet, hended⟩ := runWait_eq_ok h
  obtain ⟨earlier, answer, hpolls, hreplies, ⟨snapshot, hshows, htrue⟩, hearlier⟩ :=
    shows_of_outcome (looksUp_resultsSink settings.results client consumer name condition) hsearch
      houtcome hmet
  rw [← Session.waitFor_network, ← hended] at hpolls
  rw [hbegun.server] at hreplies
  exact ⟨settings, client, listing, search, _, _, earlier, answer, snapshot, hsettings, hclient,
    hsearch, hbegun.trans hpolls, congrArg (_ :: _ :: ·) hreplies, hshows, hshows.name, htrue,
    hearlier⟩

/-- The server fails once and shows the work without its condition once before it shows it with
the condition. -/
theorem runWait_met_applied :
    ∃ (flags : Overrides) (session last : Session) (lines : List String),
      runWait 5 flags "web" "cluster1" "Applied" none none session = (.ok lines, last) ∧
      last.network.requests.length = 5 ∧
      ∃ settings client listing search listed found earlier answer snapshot,
        Settings.load session.environment flags = .ok settings ∧
        Client.connect settings.connection.endpoint settings.connection.timeout = .ok client ∧
        client.Searches "cluster1" search ∧
        session.network.Sends last.network
          (listing :: search :: List.replicate (earlier.length + 1) search) ∧
        session.network.server.replies
            (listing :: search :: List.replicate (earlier.length + 1) search) =
          listed :: found :: (earlier ++ [answer]) ∧
        answer.Shows "cluster1" "web" snapshot ∧ snapshot.name = "web" ∧
        snapshot.evaluate "Applied" = .ok true ∧
        ∀ reply ∈ earlier, ∀ shown, reply.Shows "cluster1" "web" shown →
          shown.evaluate "Applied" = .ok false := by
  let web (conditions : List Json) : Json := .obj [("json", .obj [("items", .arr [.obj [
    ("metadata", .obj [("name", .str "web")]),
    ("status", .obj [("conditions", .arr conditions)])]])])]
  let session : Session := Recording.session [] 0 (.obj [("server", .obj [("bundles", .arr [
    web [], .obj [("status", .int 503)], web [],
    web [.obj [("type", .str "Applied"), ("status", .str "True")]]])])])
  let flags : Overrides := ⟨none, none, none, none, false⟩
  have hends : (match runWait 5 flags "web" "cluster1" "Applied" none none session with
      | (.ok _, last) => last.network.requests.length
      | (.error _, _) => 0) = 5 := by decide +kernel
  rcases hruns : runWait 5 flags "web" "cluster1" "Applied" none none session with
    ⟨error | lines, last⟩
  · rw [hruns] at hends
    cases hends
  · rw [hruns] at hends
    exact ⟨flags, session, last, lines, hruns, hends, runWait_met hruns⟩

/-- A wait for the work with the empty name takes a bundle without any name for that work. -/
theorem runWait_met_nameless :
    let session : Session := Recording.session [] 0 (.obj [("server", .obj [("bundles", .arr [
      .obj [("json", .obj [("items", .arr [.obj [("status", .obj [("conditions", .arr [
        .obj [("type", .str "Applied"), ("status", .str "True")]])])]])])]])])])
    let ended := runWait 5 ⟨none, none, none, none, false⟩ "" "cluster1" "Applied" none none session
    (∃ lines, ended.1 = .ok lines) ∧
      ∃ status body payload,
        (session.network.server.replies ended.2.network.requests).getLast? =
          some (.response status body) ∧
        Net.isSuccess status = true ∧ Says body payload ∧
        ∀ bundle ∈ Client.items payload, ((bundle.get "metadata").get "name").str? ≠ some "" := by
  intro session ended
  have hends : ended.1.toOption.isSome = true := by decide +kernel
  have hlast : ((session.network.server.replies ended.2.network.requests).getLast?.any
      fun reply => (Client.document "" reply).toOption.any fun payload =>
        (Client.items payload).all fun bundle =>
          ((bundle.get "metadata").get "name").str? ≠ some "") = true := by decide +kernel
  constructor
  · rcases hlines : ended.1 with error | lines
    · rw [hlines] at hends
      cases hends
    · exact ⟨lines, rfl⟩
  · obtain ⟨reply, hreply, hany⟩ := (Option.any_eq_true _ _).mp hlast
    rcases hread : Client.document "" reply with failure | payload
    · rw [hread] at hany
      cases hany
    · rw [hread] at hany
      obtain ⟨status, body, rfl, hsuccess, hsaid⟩ := Client.document_eq_ok hread
      refine ⟨status, body, payload, hreply, hsuccess, hsaid, ?_⟩
      intro bundle hbundle
      exact of_decide_eq_true (List.all_eq_true.mp hany bundle hbundle)

end CommandLine

end WorkWatch
