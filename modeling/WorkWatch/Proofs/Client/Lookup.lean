import WorkWatch.Proofs.Client.Replies
import WorkWatch.Proofs.Text.Messages

/-! Exchanges that ask once. What such an exchange gives is read from the one reply, and an exchange
that cannot ask fails whatever the server is. The look-ups and the deletion of a work are made of
such exchanges. -/

namespace WorkWatch

theorem Json.str?_eq_some_iff {document : Json} {text : String} :
    document.str? = some text ↔ document = .str text := by
  cases document with
  | str found => exact ⟨fun h => congrArg Json.str (Option.some.inj h), fun h => by cases h; rfl⟩
  | _ => exact ⟨nofun, nofun⟩

namespace Exchange

variable {α β : Type}

/-- An exchange sends one request and gives what is read from the reply. -/
def Asks (x : Exchange α) (request : Request) (read : Reply → Except Failure α) : Prop :=
  ∀ network, x network = (read (network.send request).1, (network.send request).2)

/-- An exchange fails without a request. -/
def Refuses (x : Exchange α) (failure : Failure) : Prop :=
  ∀ network, x network = (.error failure, network)

theorem Asks.bind {x : Exchange α} {request : Request} {read : Reply → Except Failure α}
    (h : x.Asks request read) {f : α → Exchange β} {g : α → Except Failure β}
    (hf : ∀ a network, f a network = (g a, network)) :
    Asks (x >>= f) request fun reply => (read reply).bind g := by
  intro network
  rw [bind_apply, h network]
  dsimp only
  cases read (network.send request).1 with
  | error failure => rfl
  | ok a => exact hf a _

theorem Refuses.bind {x : Exchange α} {failure : Failure} (h : x.Refuses failure)
    (f : α → Exchange β) : Refuses (x >>= f) failure := by
  intro network
  rw [bind_apply, h network]

theorem mapM_apply {f : α → Exchange β} {g : α → Except Failure β}
    (hf : ∀ a network, f a network = (g a, network)) (items : List α) (network : Network) :
    items.mapM f network = (items.mapM g, network) := by
  induction items with
  | nil => rfl
  | cons a items ih =>
    rw [List.mapM_cons, List.mapM_cons, bind_apply, hf]
    cases g a with
    | error failure => rfl
    | ok b =>
      dsimp only
      rw [bind_apply, ih]
      cases items.mapM g <;> rfl

end Exchange

namespace Reply

/-- A successful answer with an empty body or a document. -/
inductive Succeeds : Reply → Prop
  | intro {status : Nat} {body : List UInt8} {payload : Json}
      (success : Net.isSuccess status = true) (said : Says body payload) :
      Succeeds (.response status body)

/-- A successful answer that names a consumer among those that are registered. -/
inductive Registers (consumer : String) : Reply → Prop
  | intro {status : Nat} {body : List UInt8} {payload item : Json}
      (success : Net.isSuccess status = true) (said : Says body payload)
      (listed : item ∈ Client.items payload) (named : item.get "name" = .str consumer)
      (nonempty : consumer ≠ "") : Registers consumer (.response status body)

/-- A successful answer and the first of its bundles that has the name of a work. -/
inductive Finds (name : String) : Reply → Json → Prop
  | intro {status : Nat} {body : List UInt8} {payload bundle : Json}
      (success : Net.isSuccess status = true) (said : Says body payload)
      (first : ((Client.items payload).find? fun bundle => bundleName bundle == name) =
        some bundle) :
      Finds name (.response status body) bundle

/-- A successful answer none of whose bundles has the name of a work. -/
inductive Lacks (name : String) : Reply → Prop
  | intro {status : Nat} {body : List UInt8} {payload : Json}
      (success : Net.isSuccess status = true) (said : Says body payload)
      (none : ∀ bundle ∈ Client.items payload, bundleName bundle ≠ name) :
      Lacks name (.response status body)

end Reply

namespace Client

open Exchange

theorem document_of_said {status : Nat} {body : List UInt8} {payload : Json}
    (hsuccess : Net.isSuccess status = true) (hsaid : Says body payload) (action : String) :
    document action (.response status body) = .ok payload := by
  cases hsaid with
  | nothing =>
    rw [document, hsuccess]
    rfl
  | document hread => exact document_of_success hsuccess hread

theorem document_eq_error {action : String} {reply : Reply} {failure : Failure}
    (h : document action reply = .error failure) :
    (∃ text status, failure = .api text status ∧ text ≠ "") ∨
      (∃ kind message, reply = .refused kind message ∧ failure = .other kind message) ∨
      ∃ status body container, reply = .response status body ∧
        Json.ofBytes body = .error (.tooDeep container) ∧
        failure = .unreadable (.tooDeep container) := by
  have hfailed (more : String) : "failed to " ++ action ++ more ≠ "" :=
    append_ne_empty (append_ne_empty (by decide) action) more
  cases reply with
  | timeout =>
    cases h
    exact Or.inl ⟨_, _, rfl, hfailed _⟩
  | broken message =>
    cases h
    exact Or.inl ⟨_, _, rfl, append_ne_empty (hfailed _) message⟩
  | refused kind message =>
    cases h
    exact Or.inr (Or.inl ⟨kind, message, rfl, rfl⟩)
  | response status body =>
    rw [document] at h
    split at h
    · cases h
    · cases hread : Json.ofBytes body with
      | ok payload =>
        rw [hread] at h
        cases hsuccess : Net.isSuccess status <;> rw [hsuccess] at h <;> cases h
        exact Or.inl ⟨_, _, rfl, statusText_ne_empty action status _⟩
      | error problem =>
        rw [hread] at h
        cases problem with
        | tooDeep container =>
          cases h
          exact Or.inr (Or.inr ⟨status, body, container, rfl, hread, rfl⟩)
        | malformed | tooLong =>
          cases hsuccess : Net.isSuccess status <;> rw [hsuccess] at h <;> cases h
          · exact Or.inl ⟨_, _, rfl, statusText_ne_empty action status _⟩
          · exact Or.inl ⟨_, _, rfl, hfailed _⟩

theorem request_asks {client : Client} {method : Method} {path : List Char}
    {query : Option (List Char)} {url : Net.Url} (h : client.url path query = .ok url)
    (action : String) :
    Asks (client.request method path query action) ⟨method, url, client.timeout⟩
      (document action) :=
  request_eq h action

theorem request_refuses {client : Client} {method : Method} {path : List Char}
    {query : Option (List Char)} {error : Net.UrlError} (h : client.url path query = .error error)
    (action : String) :
    Refuses (client.request method path query action) (.invalidUrl error) := by
  intro network
  unfold request
  rw [h]

/-! Consumers. -/

/-- The consumers are asked for with this request. -/
structure Lists (client : Client) (request : Request) : Prop where
  method : request.method = .get
  url : client.url (apiPath ++ consumersPath) none = .ok request.url
  timeout : request.timeout = client.timeout

/-- The names of the consumers in the reply to that request. -/
def consumersIn (reply : Reply) : Except Failure (List String) :=
  (document "list consumers" reply).bind fun payload => .ok <| (items payload).filterMap fun item =>
    ((item.get "name").str?).filter (!·.isEmpty)

/-- What a check of a consumer makes of the reply. -/
def validatedIn (consumer : String) (reply : Reply) : Except Failure Unit :=
  (consumersIn reply).bind fun consumers =>
    if consumers.contains consumer then .ok () else .error (.consumerMissing consumer consumers)

theorem validateConsumer_asks {client : Client} {request : Request} (h : client.Lists request)
    (consumer : String) :
    Asks (client.validateConsumer consumer) request (validatedIn consumer) := by
  obtain ⟨hmethod, hurl, htimeout⟩ := h
  obtain ⟨method, url, timeout⟩ := request
  cases hmethod
  cases htimeout
  have hlists : Asks client.listConsumers ⟨.get, url, client.timeout⟩ consumersIn :=
    (request_asks hurl "list consumers").bind fun _ _ => rfl
  apply hlists.bind
  intro consumers network
  split <;> rfl

theorem validatedIn_eq_ok_iff {consumer : String} {reply : Reply} :
    validatedIn consumer reply = .ok () ↔ reply.Registers consumer := by
  constructor
  · intro h
    obtain ⟨consumers, hconsumers, h⟩ := bind_eq_ok_iff.mp h
    obtain ⟨payload, hdocument, hlist⟩ := bind_eq_ok_iff.mp hconsumers
    obtain ⟨status, body, rfl, hsuccess, hsaid⟩ := document_eq_ok hdocument
    cases hlist
    split at h
    · rename_i hcontains
      rw [List.contains_iff_mem, List.mem_filterMap] at hcontains
      obtain ⟨item, hlisted, hitem⟩ := hcontains
      obtain ⟨hname, hnonempty⟩ := Option.filter_eq_some_iff.mp hitem
      refine .intro hsuccess hsaid hlisted (Json.str?_eq_some_iff.mp hname) ?_
      rintro rfl
      cases hnonempty
    · cases h
  · rintro ⟨hsuccess, hsaid, hlisted, hnamed, hnonempty⟩
    unfold validatedIn consumersIn
    rw [document_of_said hsuccess hsaid]
    dsimp only [Except.bind]
    rw [if_pos]
    rw [List.contains_iff_mem, List.mem_filterMap]
    refine ⟨_, hlisted, ?_⟩
    rw [hnamed]
    simp [Json.str?, hnonempty]

/-! Works. -/

theorem searchBundles_asks {client : Client} {consumer : String} {request : Request}
    (h : client.Searches consumer request) :
    Asks (client.searchBundles consumer) request fun reply =>
      (document "search resource bundles" reply).map items :=
  searchBundles_eq h

/-- What a look-up of a bundle makes of the reply to its search. -/
def bundleIn (consumer name : String) (reply : Reply) : Except Failure Json :=
  (document "search resource bundles" reply).bind (bundleOf consumer name)

theorem getBundle_asks {client : Client} {consumer : String} {request : Request}
    (h : client.Searches consumer request) (name : String) :
    Asks (client.getBundle consumer name) request (bundleIn consumer name) :=
  getBundle_eq h name

/-- What a look-up of a summary makes of the reply to its search. -/
def summaryIn (consumer name : String) (reply : Reply) : Except Failure Summary :=
  (bundleIn consumer name reply).bind fun bundle =>
    (Summary.ofBundle consumer bundle).mapError .unreadable

theorem summaryOf_apply (consumer : String) (bundle : Json) (network : Network) :
    summaryOf consumer bundle network =
      ((Summary.ofBundle consumer bundle).mapError .unreadable, network) := by
  unfold summaryOf
  cases Summary.ofBundle consumer bundle <;> rfl

theorem getSummary_asks {client : Client} {consumer : String} {request : Request}
    (h : client.Searches consumer request) (name : String) :
    Asks (client.getSummary consumer name) request (summaryIn consumer name) :=
  (getBundle_asks h name).bind (summaryOf_apply consumer)

theorem snapshotIn_eq (consumer name : String) (reply : Reply) :
    snapshotIn consumer name reply = (bundleIn consumer name reply).bind fun bundle =>
      (Snapshot.ofBundle consumer bundle).mapError .unreadable := by
  unfold snapshotIn snapshotOf bundleIn
  cases document "search resource bundles" reply <;> rfl

theorem getSnapshot_asks {client : Client} {consumer : String} {request : Request}
    (h : client.Searches consumer request) (name : String) :
    Asks (client.getSnapshot consumer name) request (snapshotIn consumer name) :=
  getSnapshot_eq h name

/-- What a list of works makes of the reply to its search. -/
def worksIn (consumer : String) (reply : Reply) : Except Failure (List Summary) :=
  ((document "search resource bundles" reply).map items).bind fun bundles =>
    bundles.mapM fun bundle => (Summary.ofBundle consumer bundle).mapError .unreadable

theorem listWorks_asks {client : Client} {consumer : String} {request : Request}
    (h : client.Searches consumer request) :
    Asks (client.listWorks consumer) request (worksIn consumer) :=
  (searchBundles_asks h).bind (mapM_apply (summaryOf_apply consumer))

theorem bundleIn_eq_ok_iff {consumer name : String} {reply : Reply} {bundle : Json} :
    bundleIn consumer name reply = .ok bundle ↔ reply.Finds name bundle := by
  refine Iff.trans bind_eq_ok_iff ?_
  constructor
  · rintro ⟨payload, hdocument, hbundle⟩
    obtain ⟨status, body, rfl, hsuccess, hsaid⟩ := document_eq_ok hdocument
    exact .intro hsuccess hsaid (bundleOf_eq_ok_iff.mp hbundle)
  · rintro ⟨hsuccess, hsaid, hfirst⟩
    exact ⟨_, document_of_said hsuccess hsaid _, bundleOf_eq_ok_iff.mpr hfirst⟩

theorem bundleIn_of_lacks {name : String} {reply : Reply} (h : reply.Lacks name)
    (consumer : String) : bundleIn consumer name reply = .error (.workMissing name consumer) := by
  obtain ⟨hsuccess, hsaid, hnone⟩ := h
  apply bind_eq_error_iff.mpr
  exact Or.inr ⟨_, document_of_said hsuccess hsaid _, bundleOf_eq_error_iff.mpr ⟨hnone, rfl⟩⟩

theorem summaryIn_of_lacks {name : String} {reply : Reply} (h : reply.Lacks name)
    (consumer : String) : summaryIn consumer name reply = .error (.workMissing name consumer) := by
  unfold summaryIn
  rw [bundleIn_of_lacks h]
  rfl

theorem bundleIn_eq_missing_iff {consumer name : String} {reply : Reply} :
    (∃ missing place, bundleIn consumer name reply = .error (.workMissing missing place)) ↔
      reply.Lacks name := by
  constructor
  · rintro ⟨missing, place, h⟩
    rcases bind_eq_error_iff.mp h with hfails | ⟨payload, hdocument, hmissing⟩
    · rcases document_eq_error hfails with ⟨_, _, h, -⟩ | ⟨_, _, -, h⟩ | ⟨_, _, _, -, -, h⟩ <;>
        cases h
    · obtain ⟨status, body, rfl, hsuccess, hsaid⟩ := document_eq_ok hdocument
      exact .intro hsuccess hsaid (bundleOf_eq_error_iff.mp hmissing).1
  · exact fun h => ⟨name, consumer, bundleIn_of_lacks h consumer⟩

/-- A summary is missing only where its bundle is. -/
theorem summaryIn_eq_missing_iff {consumer name : String} {reply : Reply} :
    (∃ missing place, summaryIn consumer name reply = .error (.workMissing missing place)) ↔
      reply.Lacks name := by
  rw [← @bundleIn_eq_missing_iff consumer]
  refine exists_congr fun missing => exists_congr fun place => bind_eq_error_iff.trans ?_
  apply or_iff_left
  rintro ⟨bundle, -, hfails⟩
  obtain ⟨problem, -, h⟩ := mapError_eq_error_iff.mp hfails
  cases h

theorem summaryIn_eq_ok_iff {consumer name : String} {reply : Reply} {work : Summary} :
    summaryIn consumer name reply = .ok work ↔
      ∃ bundle, reply.Finds name bundle ∧ Summary.ofBundle consumer bundle = .ok work := by
  refine bind_eq_ok_iff.trans (exists_congr fun bundle => ?_)
  rw [bundleIn_eq_ok_iff, mapError_eq_ok_iff]

theorem Searches.unique {client : Client} {consumer : String} {first second : Request}
    (h : client.Searches consumer first) (h' : client.Searches consumer second) :
    first = second := by
  obtain ⟨method, url, timeout⟩ := first
  obtain ⟨method', url', timeout'⟩ := second
  have hmethod : method = method' := h.method.trans h'.method.symm
  have hurl : url = url' := Except.ok.inj (h.url.symm.trans h'.url)
  have htimeout : timeout = timeout' := h.timeout.trans h'.timeout.symm
  rw [hmethod, hurl, htimeout]

theorem Searches.not_refuses {client : Client} {consumer : String} {request : Request}
    (h : client.Searches consumer request) {failure : Failure} :
    ¬ Refuses (client.searchBundles consumer) failure := by
  intro hrefuses
  -- The two would leave different numbers of requests behind.
  have hboth := (searchBundles_asks h (.start ⟨⟨⟨0, .timeout⟩, []⟩, ⟨⟨0, .timeout⟩, []⟩,
    ⟨⟨0, .timeout⟩, []⟩⟩)).symm.trans (hrefuses _)
  have hrequests := congrArg (fun result => result.2.requests.length) hboth
  cases hrequests

/-- Either there is a search for the works of a consumer, or every search fails without a
request. -/
theorem searches_or_refuses (client : Client) (consumer : String) :
    (∃ request, client.Searches consumer request) ∨
      ∃ failure, Refuses (client.searchBundles consumer) failure ∧
        ((∃ problem : SearchProblem, failure = .searchRefused problem.message) ∨
          ∃ error, client.url bundlesPath (some (searchQuery consumer)) = .error error ∧
            failure = .invalidUrl error) := by
  unfold searchBundles
  cases hcheck : Search.check consumer with
  | error problem =>
    exact Or.inr ⟨_, fun _ => rfl, Or.inl ⟨problem, rfl⟩⟩
  | ok _ =>
    cases hurl : client.url bundlesPath (some (searchQuery consumer)) with
    | error error =>
      exact Or.inr ⟨_, (request_refuses hurl _).bind _, Or.inr ⟨error, rfl, rfl⟩⟩
    | ok url => exact Or.inl ⟨⟨.get, url, client.timeout⟩, hcheck, rfl, hurl, rfl⟩

theorem getBundle_refuses {client : Client} {consumer : String} {failure : Failure}
    (h : Refuses (client.searchBundles consumer) failure) (name : String) :
    Refuses (client.getBundle consumer name) failure := h.bind _

theorem getSummary_refuses {client : Client} {consumer : String} {failure : Failure}
    (h : Refuses (client.searchBundles consumer) failure) (name : String) :
    Refuses (client.getSummary consumer name) failure := (getBundle_refuses h name).bind _

theorem getSnapshot_refuses {client : Client} {consumer : String} {failure : Failure}
    (h : Refuses (client.searchBundles consumer) failure) (name : String) :
    Refuses (client.getSnapshot consumer name) failure := (getBundle_refuses h name).bind _

theorem listWorks_refuses {client : Client} {consumer : String} {failure : Failure}
    (h : Refuses (client.searchBundles consumer) failure) :
    Refuses (client.listWorks consumer) failure := h.bind _

end Client

end WorkWatch
