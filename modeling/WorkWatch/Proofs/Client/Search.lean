import WorkWatch.Proofs.Client.Deletion
import WorkWatch.Proofs.Net.Form

/-! Searches for the works of a consumer. Only a name of plain characters reaches the server, and it
reaches it between the two quotes of the one parameter of the search. -/

namespace WorkWatch

namespace Search

/-- A name that can be searched for. -/
structure IsName (name : String) : Prop where
  nonempty : 1 ≤ name.length
  short : name.length ≤ 253
  plain : ∀ c ∈ name.toList, c.isAlphanum ∨ c = '-' ∨ c = '_' ∨ c = '.'

theorem isNameChar_iff {c : Char} :
    isNameChar c = true ↔ c.isAlphanum ∨ c = '-' ∨ c = '_' ∨ c = '.' := by
  delta Char.isAlphanum Char.isAlpha Char.isUpper Char.isLower Char.isDigit
  simp only [isNameChar, Text.isDigit, Bool.or_eq_true, Bool.and_eq_true, decide_eq_true_eq,
    Char.le_def]
  grind

theorem check_eq_ok_iff {name : String} : check name = .ok () ↔ IsName name := by
  unfold check
  cases hfirst : name.toList.find? (!isNameChar ·) with
  | some c =>
    refine ⟨nofun, fun hname => ?_⟩
    have hother := List.find?_some hfirst
    rw [isNameChar_iff.mpr (hname.plain c (List.mem_of_find?_eq_some hfirst))] at hother
    cases hother
  | none =>
    have hplain : ∀ c ∈ name.toList, c.isAlphanum ∨ c = '-' ∨ c = '_' ∨ c = '.' := by
      intro c hc
      have hother := List.find?_eq_none.mp hfirst c hc
      exact isNameChar_iff.mp (by simpa using hother)
    have hempty : name.isEmpty = true ↔ name.length = 0 := by simp
    dsimp only
    split
    · rename_i h
      refine ⟨nofun, fun hname => ?_⟩
      have hnonempty := hname.nonempty
      rw [hempty.mp h] at hnonempty
      cases hnonempty
    · rename_i h
      rw [hempty] at h
      split
      · rename_i hlong
        exact ⟨nofun, fun hname => absurd hname.short (Nat.not_le_of_lt hlong)⟩
      · rename_i hshort
        exact ⟨fun _ => ⟨Nat.pos_of_ne_zero h, Nat.le_of_not_lt hshort, hplain⟩, fun _ => rfl⟩

theorem pieces_query {consumer : String} (h : IsName consumer) :
    Text.pieces '\'' (query consumer).toList =
      ["consumer_name = ".toList, consumer.toList, []] := by
  have hplain : '\'' ∉ consumer.toList := by
    intro hmem
    have hquote := h.plain '\'' hmem
    revert hquote
    decide
  have htext : (query consumer).toList =
      "consumer_name = ".toList ++ '\'' :: (consumer.toList ++ '\'' :: []) := by
    unfold query
    rw [String.toList_append, String.toList_append, List.append_assoc]
    rfl
  rw [htext, Text.pieces_append (by decide), Text.pieces_append hplain]
  rfl

end Search

namespace Client

variable {client : Client} {consumer name : String} {request : Request} {network : Network}

/-- A search for the works of a consumer has one parameter, in which the consumer stands between
the only two quotes. -/
structure Carries (client : Client) (consumer : String) (request : Request) : Prop where
  searches : client.Searches consumer request
  parameter : request.url.query.map Net.formParameters =
    some [(Net.utf8 "search", Net.utf8 ("consumer_name = '" ++ consumer ++ "'"))]
  quotes : Text.pieces '\'' ("consumer_name = '" ++ consumer ++ "'").toList =
    ["consumer_name = ".toList, consumer.toList, []]

theorem query_of_searches (h : client.Searches consumer request) :
    request.url.query = some (Net.quote Net.isQueryChar (searchQuery consumer)) := by
  obtain ⟨reference, -, hurl⟩ := bind_eq_ok_iff.mp h.url
  obtain ⟨url, -, hquery⟩ := bind_eq_ok_iff.mp hurl
  exact (Net.Url.builds_of_build hquery).query

theorem Searches.carries (h : client.Searches consumer request) :
    client.Carries consumer request := by
  have hplain : ∀ c ∈ "search".toList, Net.isFormChar c = true := List.all_eq_true.mp (by decide)
  obtain ⟨hquote, hparameters⟩ :=
    Net.formParameters_single hplain (Search.query consumer).toList
  have hquery : searchQuery consumer =
      "search".toList ++ '=' :: Net.formValue (Search.query consumer).toList := rfl
  refine ⟨h, ?_, Search.pieces_query (Search.check_eq_ok_iff.mp h.allowed)⟩
  rw [query_of_searches h, hquery, hquote, Option.map_some, hparameters]
  rfl

example : searchQuery "cluster1" = "search=consumer_name+%3D+%27cluster1%27".toList := by decide

/-! What is made of a reply is never that the name was refused. -/

section Accepted

variable {α β : Type}

/-- A name is not refused. -/
def Accepted (result : Except Failure α) : Prop :=
  ∀ message, result ≠ .error (.searchRefused message)

theorem Accepted.bind {x : Except Failure α} {f : α → Except Failure β} (hx : Accepted x)
    (hf : ∀ a, Accepted (f a)) : Accepted (x.bind f) := by
  intro message h
  rcases bind_eq_error_iff.mp h with h | ⟨a, -, h⟩
  · exact hx message h
  · exact hf a message h

theorem Accepted.map {x : Except Failure α} (hx : Accepted x) (f : α → β) : Accepted (x.map f) := by
  intro message h
  exact hx message (map_eq_error_iff.mp h)

theorem accepted_document (action : String) (reply : Reply) : Accepted (document action reply) := by
  intro message h
  rcases document_eq_error h with ⟨_, _, h, -⟩ | ⟨_, _, -, h⟩ | ⟨_, _, _, -, -, h⟩ <;> cases h

theorem accepted_unreadable (read : Except BundleProblem α) :
    Accepted (read.mapError .unreadable) := by
  intro message h
  obtain ⟨problem, -, h⟩ := mapError_eq_error_iff.mp h
  cases h

theorem accepted_bundleIn (consumer name : String) (reply : Reply) :
    Accepted (bundleIn consumer name reply) := by
  apply (accepted_document _ reply).bind
  intro payload message h
  obtain ⟨-, h⟩ := bundleOf_eq_error_iff.mp h
  cases h

theorem accepted_summaryIn (consumer name : String) (reply : Reply) :
    Accepted (summaryIn consumer name reply) :=
  (accepted_bundleIn consumer name reply).bind fun _ => accepted_unreadable _

theorem accepted_snapshotIn (consumer name : String) (reply : Reply) :
    Accepted (snapshotIn consumer name reply) := by
  rw [snapshotIn_eq]
  exact (accepted_bundleIn consumer name reply).bind fun _ => accepted_unreadable _

theorem accepted_worksIn (consumer : String) (reply : Reply) :
    Accepted (worksIn consumer reply) := by
  apply ((accepted_document _ reply).map items).bind
  intro bundles message h
  obtain ⟨bundle, -, hbundle⟩ :=
    ((mapM_eq_error_iff (fun _ _ => Iff.rfl) bundles).mp h).exists_mem
  exact accepted_unreadable _ message hbundle

end Accepted

/-! Exchanges about a consumer. -/

/-- How an exchange about a consumer goes: its name is refused before anything is sent, or every
search that is sent carries the name. -/
inductive Guards {α : Type} (client : Client) (consumer : String) (network : Network) :
    Except Failure α × Network → Prop
  | refused (name : ¬ Search.IsName consumer) (message : String) :
      Guards client consumer network (.error (.searchRefused message), network)
  | sent {result : Except Failure α} {later : Network} {sent : List Request}
      (name : Search.IsName consumer) (accepted : Accepted result)
      (sends : network.Sends later sent)
      (carries : ∀ request ∈ sent, request.method = .get → client.Carries consumer request) :
      Guards client consumer network (result, later)

section Exchanges

open Exchange

variable {α : Type} {x : Exchange α} {read : Reply → Except Failure α}

theorem guards_of_refuses {failure : Failure} (h : Refuses (client.searchBundles consumer) failure) :
    client.Guards consumer network ((.error failure : Except Failure α), network) := by
  cases hcheck : Search.check consumer with
  | error problem =>
    have hname : ¬ Search.IsName consumer := by
      rw [← Search.check_eq_ok_iff, hcheck]
      nofun
    have hfails := h network
    unfold searchBundles at hfails
    rw [hcheck] at hfails
    cases hfails
    exact .refused hname problem.message
  | ok _ =>
    refine .sent (Search.check_eq_ok_iff.mp hcheck) ?_ (.refl network) nofun
    cases hurl : client.url bundlesPath (some (searchQuery consumer)) with
    | error error =>
      have hfails := h network
      unfold searchBundles at hfails
      rw [hcheck] at hfails
      dsimp only at hfails
      rw [bind_of_error (request_refuses hurl _ network)] at hfails
      cases hfails
      nofun
    | ok url =>
      have hsearches : client.Searches consumer ⟨.get, url, client.timeout⟩ :=
        ⟨hcheck, rfl, hurl, rfl⟩
      exact absurd h hsearches.not_refuses

theorem Searches.guards {search : Request} (h : client.Searches consumer search)
    {result : Except Failure α} {later : Network} {sent : List Request} (hresult : Accepted result)
    (hsends : network.Sends later sent)
    (hsent : ∀ request ∈ sent, request.method = .get → request = search) :
    client.Guards consumer network (result, later) := by
  refine .sent (Search.check_eq_ok_iff.mp h.allowed) hresult hsends ?_
  intro request hmem hget
  rw [hsent request hmem hget]
  exact h.carries

theorem Searches.guards_send {search : Request} (h : client.Searches consumer search)
    {result : Except Failure α} (hresult : Accepted result) :
    client.Guards consumer network (result, (network.send search).2) := by
  apply h.guards hresult (Network.send_sends network search _)
  intro request hmem _
  exact List.mem_singleton.mp hmem

theorem guards_of_asks
    (hrefuses : ∀ {failure}, Refuses (client.searchBundles consumer) failure → x.Refuses failure)
    (hasks : ∀ {request}, client.Searches consumer request → x.Asks request read)
    (hread : ∀ reply, Accepted (read reply)) (network : Network) :
    client.Guards consumer network (x network) := by
  rcases searches_or_refuses client consumer with ⟨request, hsearches⟩ | ⟨failure, hfails, -⟩
  · rw [hasks hsearches network]
    exact hsearches.guards_send (hread _)
  · rw [hrefuses hfails network]
    exact guards_of_refuses hfails

end Exchanges

theorem guards_deleteWork (client : Client) (consumer name : String) (network : Network) :
    client.Guards consumer network (client.deleteWork consumer name network) := by
  have hdeletes := deleteWork_deletes client consumer name network
  generalize client.deleteWork consumer name network = result at hdeletes
  cases hdeletes with
  | refused hrefuses => exact guards_of_refuses hrefuses
  | unfound hsearches hread =>
    apply hsearches.guards_send
    rw [← hread]
    exact accepted_summaryIn consumer name _
  | unaddressed hsearches hfinds hurl => exact hsearches.guards_send nofun
  | @sent search deletion bundle work hsearches hfinds hread hdeletes =>
    apply hsearches.guards ((accepted_document _ _).map _)
      ((Network.send_sends network search _).trans
        (Network.send_sends (network.send search).2 deletion _))
    intro request hmem hget
    rcases List.mem_pair.mp hmem with rfl | rfl
    · rfl
    · rw [hdeletes.method] at hget
      cases hget

/-- Whatever a consumer is called, and whatever the server replies: either the name is refused before
anything is sent, or the name is plain and every search carries it between its quotes. The names that
are accepted are those of 1 to 253 plain characters. -/
theorem searches_guarded (client : Client) (consumer name : String) (network : Network) :
    (Search.check consumer = .ok () ↔ Search.IsName consumer) ∧
    client.Guards consumer network (client.listWorks consumer network) ∧
    client.Guards consumer network (client.getBundle consumer name network) ∧
    client.Guards consumer network (client.getSummary consumer name network) ∧
    client.Guards consumer network (client.getSnapshot consumer name network) ∧
    client.Guards consumer network (client.deleteWork consumer name network) := by
  refine ⟨Search.check_eq_ok_iff, ?_, ?_, ?_, ?_, ?_⟩
  · exact guards_of_asks listWorks_refuses listWorks_asks (accepted_worksIn consumer) network
  · exact guards_of_asks (getBundle_refuses · name) (getBundle_asks · name)
      (accepted_bundleIn consumer name) network
  · exact guards_of_asks (getSummary_refuses · name) (getSummary_asks · name)
      (accepted_summaryIn consumer name) network
  · exact guards_of_asks (getSnapshot_refuses · name) (getSnapshot_asks · name)
      (accepted_snapshotIn consumer name) network
  · exact guards_deleteWork client consumer name network

end Client

end WorkWatch
