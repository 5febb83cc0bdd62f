import WorkWatch.Client.Basic
import WorkWatch.Proofs.Except

/-! The traffic between a client and a server. What a server replies depends on the requests that it
has got, so the requests tell what a network has come to. A look-up of a work sends one search. -/

namespace WorkWatch

namespace Server

/-- The server after it has answered some requests. -/
def after (server : Server) (requests : List Request) : Server :=
  requests.foldl (fun server request => (server.answer request.route).2) server

/-- What the server replies to some requests, one after the other. -/
def replies : Server → List Request → List Reply
  | _, [] => []
  | server, request :: rest =>
    (server.answer request.route).1.reply :: replies (server.answer request.route).2 rest

theorem after_append (server : Server) (first second : List Request) :
    server.after (first ++ second) = (server.after first).after second :=
  List.foldl_append

end Server

namespace Network

/-- From one state of a network to a later one some requests were sent, and no others. -/
structure Sends (before after : Network) (sent : List Request) : Prop where
  requests : after.requests = before.requests ++ sent
  server : after.server = before.server.after sent

theorem Sends.refl (network : Network) : network.Sends network [] :=
  ⟨(List.append_nil _).symm, rfl⟩

theorem Sends.trans {first second third : Network} {sent later : List Request}
    (h : first.Sends second sent) (h' : second.Sends third later) :
    first.Sends third (sent ++ later) := by
  constructor
  · rw [h'.requests, h.requests, List.append_assoc]
  · rw [h'.server, h.server, Server.after_append]

theorem Sends.unique {before after : Network} {sent other : List Request}
    (h : before.Sends after sent) (h' : before.Sends after other) : sent = other := by
  refine List.append_cancel_left (?_ : before.requests ++ sent = before.requests ++ other)
  rw [← h.requests, h'.requests]

theorem send_sends (network : Network) (request : Request) (delays : List Float) :
    network.Sends { (network.send request).2 with delays } [request] := ⟨rfl, rfl⟩

end Network

namespace Client

/-- The works of a consumer are searched for with this request. -/
structure Searches (client : Client) (consumer : String) (request : Request) : Prop where
  allowed : Search.check consumer = .ok ()
  method : request.method = .get
  url : client.url bundlesPath (some (searchQuery consumer)) = .ok request.url
  timeout : request.timeout = client.timeout

theorem request_eq {client : Client} {method : Method} {path : List Char}
    {query : Option (List Char)} {url : Net.Url} (h : client.url path query = .ok url)
    (action : String) (network : Network) :
    client.request method path query action network =
      (document action (network.send ⟨method, url, client.timeout⟩).1,
        (network.send ⟨method, url, client.timeout⟩).2) := by
  unfold request
  rw [h]

theorem request_eq_ok {client : Client} {method : Method} {path : List Char}
    {query : Option (List Char)} {action : String} {network network' : Network} {payload : Json}
    (h : client.request method path query action network = (.ok payload, network')) :
    ∃ url, client.url path query = .ok url ∧
      network' = (network.send ⟨method, url, client.timeout⟩).2 := by
  cases hurl : client.url path query with
  | error error =>
    unfold request at h
    rw [hurl] at h
    cases h
  | ok url =>
    rw [request_eq hurl] at h
    exact ⟨url, rfl, (congrArg Prod.snd h).symm⟩

theorem validateConsumer_eq_ok {client : Client} {consumer : String} {network network' : Network}
    (h : client.validateConsumer consumer network = (.ok (), network')) :
    ∃ request, request.method = .get ∧ network' = (network.send request).2 := by
  obtain ⟨consumers, listed, hlisted, hcontains⟩ := bind_eq_ok h
  obtain ⟨payload, asked, hasked, hreturn⟩ := bind_eq_ok hlisted
  obtain ⟨url, -, hsent⟩ := request_eq_ok hasked
  cases hreturn
  split at hcontains
  · cases hcontains
    exact ⟨_, rfl, hsent⟩
  · cases hcontains

theorem searchBundles_eq_ok {client : Client} {consumer : String} {network network' : Network}
    {bundles : List Json} (h : client.searchBundles consumer network = (.ok bundles, network')) :
    ∃ request, client.Searches consumer request ∧ network' = (network.send request).2 := by
  unfold searchBundles at h
  cases hcheck : Search.check consumer with
  | error problem =>
    rw [hcheck] at h
    cases h
  | ok _ =>
    rw [hcheck] at h
    obtain ⟨payload, asked, hasked, hreturn⟩ := bind_eq_ok h
    obtain ⟨url, hurl, hsent⟩ := request_eq_ok hasked
    cases hreturn
    exact ⟨⟨.get, url, client.timeout⟩, ⟨hcheck, rfl, hurl, rfl⟩, hsent⟩

/-- A bundle that is found was searched for, and nothing else was asked. -/
theorem getBundle_eq_ok {client : Client} {consumer name : String} {network network' : Network}
    {bundle : Json} (h : client.getBundle consumer name network = (.ok bundle, network')) :
    ∃ request, client.Searches consumer request ∧ network' = (network.send request).2 := by
  obtain ⟨bundles, searched, hsearched, hfind⟩ := bind_eq_ok h
  obtain ⟨request, hrequest, hsent⟩ := searchBundles_eq_ok hsearched
  refine ⟨request, hrequest, hsent ▸ ?_⟩
  cases hbundle : bundles.find? fun bundle => bundleName bundle == name with
  | none =>
    rw [hbundle] at hfind
    cases hfind
  | some bundle =>
    rw [hbundle] at hfind
    exact (congrArg Prod.snd hfind).symm

theorem getSummary_eq_ok {client : Client} {consumer name : String} {network network' : Network}
    {summary : Summary}
    (h : client.getSummary consumer name network = (.ok summary, network')) :
    ∃ request, client.Searches consumer request ∧ network' = (network.send request).2 := by
  obtain ⟨bundle, found, hfound, hsummary⟩ := bind_eq_ok h
  unfold summaryOf at hsummary
  cases hread : Summary.ofBundle consumer bundle with
  | error problem =>
    rw [hread] at hsummary
    cases hsummary
  | ok summary =>
    rw [hread] at hsummary
    cases hsummary
    exact getBundle_eq_ok hfound

theorem searchBundles_eq {client : Client} {consumer : String} {request : Request}
    (h : client.Searches consumer request) (network : Network) :
    client.searchBundles consumer network =
      ((document "search resource bundles" (network.send request).1).map items,
        (network.send request).2) := by
  obtain ⟨hallowed, hmethod, hurl, htimeout⟩ := h
  obtain ⟨method, url, timeout⟩ := request
  cases hmethod
  cases htimeout
  unfold searchBundles
  rw [hallowed]
  dsimp only
  rw [bind_apply, request_eq hurl]
  cases document "search resource bundles" (network.send ⟨.get, url, client.timeout⟩).1 <;> rfl

end Client

end WorkWatch
