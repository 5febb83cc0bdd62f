import WorkWatch.Proofs.CommandLine.Polling
import WorkWatch.Proofs.Wait.Deletion
import WorkWatch.Recording

/-! Waits for a deletion that poll a server. What the server replies last decides whether the work
counts as gone. -/

namespace WorkWatch

open Run

theorem tellsGone_of_saysGone {consumer name : String} {reply : Reply}
    (h : saysGone (Client.snapshotIn consumer name reply) = true) : reply.TellsGone name := by
  cases hread : Client.snapshotIn consumer name reply with
  | ok snapshot =>
    rw [hread] at h
    cases h
  | error failure =>
    rw [hread] at h
    exact Client.tellsGone_of_isGone hread h

/-- A deletion wait that polls a server and reaches its goal has sent one search for each poll, and
the reply to the last one tells that the work is gone. -/
theorem waitFor_tellsGone {client : Client} {consumer : String} {request : Request}
    (h : client.Searches consumer request) (name : String) (settings : PollSettings Float)
    (clock : Clock Float) (session : Session) (n : Nat) {outcome : WaitOutcome Float}
    (houtcome : (waitFor ⟨Session.acquire client consumer name, none⟩ settings .deletion clock
      session n).1 = .outcome outcome)
    (hmet : outcome.state = .conditionMet) :
    session.network.Sends
      (waitFor ⟨Session.acquire client consumer name, none⟩ settings .deletion clock
        session n).2.surroundings.network
      (List.replicate outcome.polls request) ∧
    ∃ reply,
      (session.network.server.replies (List.replicate outcome.polls request)).getLast? =
        some reply ∧ reply.TellsGone name := by
  rw [waitFor_eq] at houtcome ⊢
  generalize clock.now + settings.timeout = deadline at houtcome ⊢
  have hsource : Source.LooksUp ⟨Session.acquire client consumer name, none⟩ client consumer name :=
    ⟨rfl, fun _ _ _ _ => rfl⟩
  have hpolls := (tells_of_loop houtcome).polls.trans (loop_polls n _)
  rw [show (opened settings .deletion clock session).polls = 0 from rfl, Nat.zero_add] at hpolls
  obtain ⟨visited, hlast, hgone⟩ := loop_deletion_met_iff.mp ⟨outcome, houtcome, hmet⟩
  obtain ⟨reply, hreply, hread⟩ := acquired_of_last hsource h hlast
  have hsends := (loop_sends hsource h settings .deletion deadline n
    (opened settings .deletion clock session)).1
  rw [hread] at hgone
  rw [hpolls]
  exact ⟨hsends, reply, hreply, tellsGone_of_saysGone hgone⟩

/-- The work is there, and then a gateway speaks of another server that is not. -/
theorem waitFor_tellsGone_gateway :
    ∃ (client : Client) (request : Request) (session : Session) (settings : PollSettings Float)
      (clock : Clock Float) (outcome : WaitOutcome Float),
      client.Searches "cluster1" request ∧
      (waitFor ⟨Session.acquire client "cluster1" "web", none⟩ settings .deletion clock
        session 5).1 = .outcome outcome ∧
      outcome.state = .conditionMet ∧ outcome.polls = 2 ∧
      session.network.Sends
        (waitFor ⟨Session.acquire client "cluster1" "web", none⟩ settings .deletion clock
          session 5).2.surroundings.network
        (List.replicate outcome.polls request) ∧
      ∃ reply,
        (session.network.server.replies (List.replicate outcome.polls request)).getLast? =
          some reply ∧ reply.TellsGone "web" := by
  let client : Client :=
    ⟨⟨"http".toList, [], "localhost".toList, some 8000, ['/'], none, none⟩, 30⟩
  let request : Request := ⟨.get, ⟨"http".toList, [], "localhost".toList, some 8000,
    Client.bundlesPath, some (Client.searchQuery "cluster1"), none⟩, 30⟩
  let session : Session := Recording.session [] 0 (.obj [("server", .obj [("bundles", .arr [
    .obj [("json", .obj [("items", .arr [.obj [("metadata", .obj [("name", .str "web")])]])])],
    .obj [("status", .int 503), ("json", .obj [("reason", .str "upstream not found")])]])])])
  have hsearches : client.Searches "cluster1" request :=
    ⟨by decide +kernel, rfl, by decide +kernel, rfl⟩
  have htold : (waitFor ⟨Session.acquire client "cluster1" "web", none⟩ ⟨1, 300, 8⟩ .deletion
      ⟨0, [], .none⟩ session 5).1.outcome?.map (fun outcome => (outcome.state, outcome.polls)) =
        some (.conditionMet, 2) := by decide +kernel
  obtain ⟨outcome, houtcome, hends⟩ := Option.map_eq_some_iff.mp htold
  rw [Ending.outcome?_eq_some_iff] at houtcome
  obtain ⟨hmet, hpolls⟩ := Prod.mk.inj hends
  exact ⟨client, request, session, ⟨1, 300, 8⟩, ⟨0, [], .none⟩, outcome, hsearches, houtcome, hmet,
    hpolls, waitFor_tellsGone hsearches "web" ⟨1, 300, 8⟩ ⟨0, [], .none⟩ session 5 houtcome hmet⟩

/-- A server says of itself that it has no work of a name: it answers with the status 404, or with a
list of items none of which is an object of that name. -/
def Reply.Denies (name : String) : Reply → Prop
  | .response status body =>
    status = 404 ∨
      Net.isSuccess status = true ∧ ∃ payload items, Json.ofBytes body = .ok payload ∧
        payload.get? "items" = some (.arr items) ∧
        ∀ item ∈ items, ∀ metadata, item.get? "metadata" = some metadata →
          metadata.get? "name" ≠ some (.str name)
  | _ => False

/-- A gateway that speaks of another server, and an object without anything in it, end a deletion
wait with its goal reached, although neither says that there is no work of the name. -/
theorem waitFor_met_undenied :
    ∃ (client : Client) (request : Request) (unavailable empty : Session)
      (settings : PollSettings Float) (clock : Clock Float),
      client.Searches "cluster1" request ∧
      ∀ session ∈ [unavailable, empty], ∃ outcome reply,
        (waitFor ⟨Session.acquire client "cluster1" "web", none⟩ settings .deletion clock
          session 5).1 = .outcome outcome ∧
        outcome.state = .conditionMet ∧
        (session.network.server.replies (List.replicate outcome.polls request)).getLast? =
          some reply ∧ ¬ reply.Denies "web" := by
  let client : Client :=
    ⟨⟨"http".toList, [], "localhost".toList, some 8000, ['/'], none, none⟩, 30⟩
  let request : Request := ⟨.get, ⟨"http".toList, [], "localhost".toList, some 8000,
    Client.bundlesPath, some (Client.searchQuery "cluster1"), none⟩, 30⟩
  let answering (answer : Json) : Session :=
    Recording.session [] 0 (.obj [("server", .obj [("bundles", .arr [answer])])])
  let unavailable : Session := answering
    (.obj [("status", .int 503), ("json", .obj [("reason", .str "upstream not found")])])
  let empty : Session := answering (.obj [("status", .int 200), ("json", .obj [])])
  refine ⟨client, request, unavailable, empty, ⟨1, 300, 8⟩, ⟨0, [], .none⟩,
    ⟨by decide +kernel, rfl, by decide +kernel, rfl⟩, ?_⟩
  have hends : ∀ session ∈ [unavailable, empty],
      (waitFor ⟨Session.acquire client "cluster1" "web", none⟩ ⟨1, 300, 8⟩ .deletion
        ⟨0, [], .none⟩ session 5).1.outcome?.map (fun outcome => (outcome.state, outcome.polls)) =
          some (.conditionMet, 1) := by
    rw [List.forall_mem_cons, List.forall_mem_singleton]
    exact ⟨by decide +kernel, by decide +kernel⟩
  have hundenied : ∀ session ∈ [unavailable, empty], ∃ reply,
      (session.network.server.replies [request]).getLast? = some reply ∧ ¬ reply.Denies "web" := by
    rw [List.forall_mem_cons, List.forall_mem_singleton]
    refine ⟨⟨_, rfl, ?_⟩, ⟨_, rfl, ?_⟩⟩
    · rintro (hstatus | ⟨hsuccess, -⟩)
      · cases hstatus
      · cases hsuccess
    · rintro (hstatus | ⟨-, payload, items, hread, hitems, -⟩)
      · cases hstatus
      · -- Documents cannot be compared, so only the member that is missing is looked for.
        have hnothing : (Json.ofBytes (Recording.body
            (.obj [("status", .int 200), ("json", .obj [])]))).toOption.map
              (fun payload => (payload.get? "items").isSome) = some false := by decide +kernel
        rw [hread] at hnothing
        change some (payload.get? "items").isSome = some false at hnothing
        rw [hitems] at hnothing
        cases hnothing
  intro session hmem
  obtain ⟨outcome, houtcome, hstate⟩ := Option.map_eq_some_iff.mp (hends session hmem)
  rw [Ending.outcome?_eq_some_iff] at houtcome
  obtain ⟨hmet, hpolls⟩ := Prod.mk.inj hstate
  obtain ⟨reply, hreply, hdenies⟩ := hundenied session hmem
  exact ⟨outcome, reply, houtcome, hmet, hpolls ▸ hreply, hdenies⟩

end WorkWatch
