import WorkWatch.Proofs.CommandLine.Course
import WorkWatch.Proofs.Settings.Valid

/-! Two clients that delete one work. The command of one of them is followed while the other removes
the work at some point between its requests. -/

namespace WorkWatch

theorem Server.length_replies (sent : List Request) : ∀ server : Server,
    (server.replies sent).length = sent.length := by
  induction sent with
  | nil => exact fun _ => rfl
  | cons request sent ih => exact fun server => congrArg (· + 1) (ih _)

/-- The reply to a request stands behind the replies to those before it. -/
theorem Network.Sends.reply_eq {before network : Network} {sent : List Request}
    (h : before.Sends network sent) {request : Request} {rest : List Request}
    {replies more : List Reply} {reply : Reply}
    (hreplies : before.server.replies (sent ++ request :: rest) = replies ++ reply :: more)
    (hlength : replies.length = sent.length) : (network.send request).1 = reply := by
  rw [Server.replies_append, ← h.server] at hreplies
  have htail := (List.append_inj hreplies (by rw [Server.length_replies, hlength])).2
  exact (List.cons.inj htail).1

/-- A reply offers a work: it finds its bundle, and the bundle can be read. -/
inductive Reply.Offers (consumer name : String) (work : Summary) : Reply → Prop
  | intro {reply : Reply} {bundle : Json} (finds : reply.Finds name bundle)
      (read : Summary.ofBundle consumer bundle = .ok work) : Offers consumer name work reply

theorem Reply.Offers.summaryIn_eq {consumer name : String} {work : Summary} {reply : Reply}
    (h : reply.Offers consumer name work) : Client.summaryIn consumer name reply = .ok work := by
  obtain ⟨finds, read⟩ := h
  exact Client.summaryIn_eq_ok_iff.mpr ⟨_, finds, read⟩

/-- When a work is removed by another client, as seen from a command that deletes it. -/
inductive Removal where
  | beforeLookups
  | betweenLookups
  | beforeDeletion
  | afterwards
  deriving DecidableEq, Repr

/-- What is replied to the two look-ups and to the deletion. -/
inductive Removal.Shows (client : Client) (consumer name : String) (request : Request) :
    Removal → Reply → Reply → Reply → Prop
  | beforeLookups {first second reply : Reply} (gone : first.Lacks name) :
      Shows client consumer name request .beforeLookups first second reply
  | betweenLookups {first second reply : Reply} {work : Summary}
      (offered : first.Offers consumer name work) (gone : second.Lacks name) :
      Shows client consumer name request .betweenLookups first second reply
  | beforeDeletion {first second : Reply} {work again : Summary} {body : List UInt8}
      (offered : first.Offers consumer name work) (found : second.Offers consumer name again)
      (deletes : client.Deletes again.id request) :
      Shows client consumer name request .beforeDeletion first second (.response 404 body)
  | afterwards {first second reply : Reply} {work again : Summary}
      (offered : first.Offers consumer name work) (found : second.Offers consumer name again)
      (deletes : client.Deletes again.id request) (succeeds : reply.Succeeds) :
      Shows client consumer name request .afterwards first second reply

theorem Session.network_record (entry : LogEntry) (session : Session) :
    (session.record entry).network = session.network := rfl

namespace CommandLine

variable {polls : Nat} {flags : Overrides} {settings : Settings} {client : Client}
  {name consumer : String} {waits dryRun : Bool} {timeout : Option Float}
  {listing search request : Request} {session : Session}

theorem runDelete_of_registers
    (hload : Settings.load session.environment flags = .ok settings)
    (hconnect : Client.connect settings.connection.endpoint settings.connection.timeout =
      .ok client)
    (hlists : client.Lists listing) {rest : List Request} {listed : Reply} {more : List Reply}
    (hreplies : session.network.server.replies (listing :: rest) = listed :: more)
    (hregisters : listed.Registers consumer) :
    ∃ validated, session.Performs validated ⟨[listing], [], []⟩ ∧
      runDelete polls flags name consumer waits dryRun timeout session =
        seek polls client settings name consumer waits dryRun timeout validated := by
  have hget : (get : Step Session) session = (.ok session, session) := rfl
  have hloaded : Step.settings (.ok settings) session = (.ok settings, session) := rfl
  have hconnects := Step.connect_apply settings.connection session
  have hconnected := Step.connect_performs settings.connection session
  rw [hconnect] at hconnects
  generalize (Step.connect settings.connection session).2 = connected at hconnects hconnected
  have hlisted : (connected.network.send listing).1 = listed :=
    hconnected.network.reply_eq (show _ = [] ++ listed :: more from hreplies) rfl
  have hvalidates := Step.exchange_asks (Client.validateConsumer_asks hlists consumer) connected
  rw [hlisted, Client.validatedIn_eq_ok_iff.mpr hregisters] at hvalidates
  refine ⟨connected.after listing, hconnected.trans (connected.after_performs listing), ?_⟩
  rw [runDelete_eq, bind_of_ok hget, hload, bind_of_ok hloaded, bind_of_ok hconnects,
    bind_of_ok hvalidates]

theorem seek_of_lacks (h : client.Searches consumer search)
    (hgone : (session.network.send search).1.Lacks name) :
    (seek polls client settings name consumer waits dryRun timeout session).1 =
      .ok ["ManifestWork " ++ name ++ " not found, nothing to delete"] := by
  have hfinds := findWork_asks h name session
  unfold foundIn at hfinds
  rw [Client.summaryIn_of_lacks hgone] at hfinds
  unfold seek
  rw [bind_of_ok hfinds]
  rfl

theorem seek_of_offers (h : client.Searches consumer search) {work : Summary}
    (hoffers : (session.network.send search).1.Offers consumer name work) :
    seek polls client settings name consumer waits false timeout session =
      erase polls client settings name consumer waits timeout (session.after search) := by
  have hfinds := findWork_asks h name session
  unfold foundIn at hfinds
  rw [hoffers.summaryIn_eq] at hfinds
  unfold seek
  rw [bind_of_ok hfinds]
  rfl

/-- Where the work is missing from the second look-up, the command fails. -/
theorem erase_of_lacks (h : client.Searches consumer search)
    (hgone : (session.network.send search).1.Lacks name) :
    (erase polls client settings name consumer waits timeout session).1 =
      .error (.failure (.workMissing name consumer)) := by
  have hexchange := Step.exchange_apply (client.deleteWork consumer name)
    (session.record (.deleting name consumer))
  rw [Session.network_record,
    Client.deleteWork_of_error h (Client.summaryIn_of_lacks hgone consumer)] at hexchange
  unfold erase
  rw [bind_of_ok (Step.record_apply _ session), bind_of_error hexchange]

/-- Otherwise the reply to the deletion decides: the command fails with it, or it goes on. -/
theorem erase_of_offers (h : client.Searches consumer search) {work : Summary}
    (hoffers : (session.network.send search).1.Offers consumer name work)
    (hdeletes : client.Deletes work.id request) {reply : Reply}
    (hreply : ((session.network.send search).2.send request).1 = reply) :
    (¬ reply.Succeeds ∧ ∃ failure,
      (erase polls client settings name consumer waits timeout session).1 =
        .error (.failure failure)) ∨
    reply.Succeeds ∧ ∃ last, session.Performs last ⟨[search, request], [], []⟩ ∧
      erase polls client settings name consumer waits timeout session =
        conclude polls client settings name consumer waits timeout last := by
  have hexchange := Step.exchange_apply (client.deleteWork consumer name)
    (session.record (.deleting name consumer))
  rw [Session.network_record, Client.deleteWork_of_found h hoffers.summaryIn_eq hdeletes, hreply]
    at hexchange
  unfold erase
  rw [bind_of_ok (Step.record_apply _ session)]
  cases hdocument : Client.document ("delete resource bundle " ++ work.id) reply with
  | error failure =>
    rw [hdocument] at hexchange
    rw [bind_of_error hexchange]
    refine Or.inl ⟨?_, failure, rfl⟩
    rintro ⟨hsuccess, hsaid⟩
    rw [Client.document_of_said hsuccess hsaid] at hdocument
    cases hdocument
  | ok payload =>
    rw [hdocument] at hexchange
    rw [bind_of_ok hexchange]
    obtain ⟨status, body, rfl, hsuccess, hsaid⟩ := Client.document_eq_ok hdocument
    refine Or.inr ⟨.intro hsuccess hsaid, _, ?_, rfl⟩
    have hrecorded : session.Performs (session.record (.deleting name consumer)) .nothing :=
      (Session.Performs.refl session).of_fields rfl rfl rfl rfl
    exact hrecorded.trans (Session.settled_performs
      ((Network.send_sends session.network search _).trans
        (Network.send_sends (session.network.send search).2 request _)))

/-- Without a wait and without a path for results there is nothing more to be done. -/
theorem conclude_of_unwritten (hresults : resultsPath settings.results
      (session.environment.get? Settings.resultsVariable) = none) :
    (conclude polls client settings name consumer false timeout session).1 =
      .ok ["ManifestWork " ++ name ++ " deleted"] := by
  have hwrites : writeDeleted settings.results name consumer session = (.ok (), session) := by
    unfold writeDeleted Outcome.write
    rw [hresults]
  change ((writeDeleted settings.results name consumer >>= fun _ =>
    pure ["ManifestWork " ++ name ++ " deleted"] : Step (List String)) session).1 = _
  rw [bind_of_ok hwrites]
  rfl

/-- A delete command without a wait succeeds exactly if another client removes the work before the
first look-up or after the deletion, or not at all. Where the work is removed between the two
look-ups, it is reported as missing. -/
theorem run_eq_none_iff_removal {arguments : List String}
    {listed first second reply : Reply} {removal : Removal}
    (hparse : parse session.folder arguments =
      .ok (.command flags (.delete name consumer false false timeout)))
    (hload : Settings.load session.environment flags = .ok settings)
    (hresults : resultsPath settings.results
      (session.environment.get? Settings.resultsVariable) = none)
    (hconnect : Client.connect settings.connection.endpoint settings.connection.timeout =
      .ok client)
    (hlists : client.Lists listing) (hsearches : client.Searches consumer search)
    (hreplies : session.network.server.replies [listing, search, search, request] =
      [listed, first, second, reply])
    (hregisters : listed.Registers consumer)
    (hshows : removal.Shows client consumer name request first second reply) :
    ((run polls arguments session).1 = none ↔
      removal = .beforeLookups ∨ removal = .afterwards) ∧
    (removal = .betweenLookups → (run polls arguments session).1 =
      some (.reported (Failure.text (.workMissing name consumer)))) := by
  obtain ⟨validated, hvalidated, hseeks⟩ := @runDelete_of_registers polls flags settings client name
    consumer false false timeout listing session hload hconnect hlists _ _ _ hreplies hregisters
  have hfirst : (validated.network.send search).1 = first :=
    hvalidated.network.reply_eq (show _ = [listed] ++ first :: [second, reply] from hreplies) rfl
  have hfound := hvalidated.trans (validated.after_performs search)
  have hsecond : ((validated.after search).network.send search).1 = second :=
    hfound.network.reply_eq (show _ = [listed, first] ++ second :: [reply] from hreplies) rfl
  have hreply : (((validated.after search).network.send search).2.send request).1 = reply :=
    (hfound.network.trans (Network.send_sends (validated.after search).network search _)).reply_eq
      (show _ = [listed, first, second] ++ reply :: [] from hreplies) rfl
  rw [run_of_command hparse]
  dsimp only
  change produce polls flags (.delete name consumer false false timeout) session = _ at hseeks
  rw [hseeks]
  cases hshows with
  | beforeLookups gone =>
    rw [seek_of_lacks hsearches (hfirst ▸ gone)]
    exact ⟨iff_of_true rfl (Or.inl rfl), nofun⟩
  | betweenLookups offered gone =>
    rw [seek_of_offers hsearches (hfirst ▸ offered), erase_of_lacks hsearches (hsecond ▸ gone)]
    exact ⟨iff_of_false nofun (by decide), fun _ => rfl⟩
  | beforeDeletion offered found deletes =>
    rw [seek_of_offers hsearches (hfirst ▸ offered)]
    rcases erase_of_offers hsearches (hsecond ▸ found) deletes hreply with
      ⟨-, failure, hfails⟩ | ⟨hsucceeds, -⟩
    · rw [hfails]
      exact ⟨iff_of_false nofun (by decide), nofun⟩
    · obtain ⟨hsuccess, -⟩ := hsucceeds
      cases hsuccess
  | afterwards offered found deletes succeeds =>
    rw [seek_of_offers hsearches (hfirst ▸ offered)]
    rcases erase_of_offers hsearches (hsecond ▸ found) deletes hreply with
      ⟨hfails, -⟩ | ⟨-, last, hperforms, herase⟩
    · exact absurd succeeds hfails
    · rw [← (hfound.trans hperforms).environment] at hresults
      rw [herase, conclude_of_unwritten hresults]
      exact ⟨iff_of_true rfl (Or.inr rfl), nofun⟩

/-- The work is found once, and then it is gone. -/
theorem run_eq_none_iff_removal_gone :
    ∃ (arguments : List String) (session : Session) (flags : Overrides) (settings : Settings)
      (client : Client) (listing search request : Request) (listed first second reply : Reply),
      parse session.folder arguments =
        .ok (.command flags (.delete "web" "cluster1" false false none)) ∧
      Settings.load session.environment flags = .ok settings ∧
      resultsPath settings.results (session.environment.get? Settings.resultsVariable) = none ∧
      Client.connect settings.connection.endpoint settings.connection.timeout = .ok client ∧
      client.Lists listing ∧ client.Searches "cluster1" search ∧
      session.network.server.replies [listing, search, search, request] =
        [listed, first, second, reply] ∧
      listed.Registers "cluster1" ∧
      Removal.betweenLookups.Shows client "cluster1" "web" request first second reply ∧
      ((run 5 arguments session).1 = none ↔
        Removal.betweenLookups = .beforeLookups ∨ Removal.betweenLookups = .afterwards) ∧
      (Removal.betweenLookups = .betweenLookups → (run 5 arguments session).1 =
        some (.reported (Failure.text (.workMissing "web" "cluster1")))) := by
  let there : Json := .obj [("json", .obj [("items", .arr [.obj [("id", .str "b-1"),
    ("metadata", .obj [("name", .str "web")])]])])]
  let gone : Json := .obj [("json", .obj [("items", .arr [])])]
  let session : Session := Recording.session [] 0 (.obj [("server", .obj [
    ("bundles", .arr [there, gone])])])
  let base : Net.Url := ⟨"http".toList, [], "localhost".toList, some 8000, [], none, none⟩
  let listing : Net.Url := { base with path := Client.apiPath ++ consumersPath }
  let search : Net.Url := { base with
    path := Client.bundlesPath, query := some (Client.searchQuery "cluster1") }
  let arguments := ["delete", "--name", "web", "--consumer", "cluster1"]
  let flags : Overrides := ⟨none, none, none, none, false⟩
  let settings := Settings.defaults
  let client : Client := ⟨base, 30⟩
  have hparse : parse session.folder arguments =
      .ok (.command flags (.delete "web" "cluster1" false false none)) := by rfl
  have hload : Settings.load session.environment flags = .ok settings :=
    Settings.load_eq_ok_iff.mpr
      ⟨_, Settings.ofEnvironment_nil, rfl, Settings.isValid_defaults⟩
  have hnowhere : resultsPath settings.results
      (session.environment.get? Settings.resultsVariable) = none := by rfl
  have hbase : Net.Url.parse (Text.dropRight (· = '/') settings.connection.endpoint.toList) >>=
      Net.Url.asBase = .ok base := by decide +kernel
  have hconnect : Client.connect settings.connection.endpoint settings.connection.timeout =
      .ok client := by
    unfold Client.connect
    rw [← bind_assoc, hbase]
    rfl
  have hlisting : client.url (Client.apiPath ++ consumersPath) none = .ok listing := by
    decide +kernel
  have hsearch : client.url Client.bundlesPath (some (Client.searchQuery "cluster1")) =
      .ok search := by decide +kernel
  have hallowed : Search.check "cluster1" = .ok () := by decide +kernel
  have hregisters : Client.validatedIn "cluster1" Recording.consumersAnswer.reply = .ok () := by
    decide +kernel
  have hoffers : (Client.summaryIn "cluster1" "web" (Recording.reply there)).isOk = true := by
    decide +kernel
  have hgone : Client.summaryIn "cluster1" "web" (Recording.reply gone) =
      .error (.workMissing "web" "cluster1") := by decide +kernel
  have hlists : client.Lists ⟨.get, listing, 30⟩ := ⟨rfl, hlisting, rfl⟩
  have hsearches : client.Searches "cluster1" ⟨.get, search, 30⟩ := ⟨hallowed, rfl, hsearch, rfl⟩
  obtain ⟨work, hwork⟩ : ∃ work,
      Client.summaryIn "cluster1" "web" (Recording.reply there) = .ok work := by
    cases hread : Client.summaryIn "cluster1" "web" (Recording.reply there) with
    | ok work => exact ⟨work, rfl⟩
    | error failure =>
      rw [hread] at hoffers
      cases hoffers
  obtain ⟨bundle, hfinds, hread⟩ := Client.summaryIn_eq_ok_iff.mp hwork
  have hshows : Removal.betweenLookups.Shows client "cluster1" "web" ⟨.delete, search, 30⟩
      (Recording.reply there) (Recording.reply gone) Recording.deletionAnswer.reply :=
    .betweenLookups ⟨hfinds, hread⟩ (Client.summaryIn_eq_missing_iff.mp ⟨_, _, hgone⟩)
  have hreplies : session.network.server.replies
      [⟨.get, listing, 30⟩, ⟨.get, search, 30⟩, ⟨.get, search, 30⟩, ⟨.delete, search, 30⟩] =
      [Recording.consumersAnswer.reply, Recording.reply there, Recording.reply gone,
        Recording.deletionAnswer.reply] := rfl
  have hregistered := Client.validatedIn_eq_ok_iff.mp hregisters
  exact ⟨arguments, session, flags, settings, client, _, _, _, _, _, _, _, hparse, hload, hnowhere,
    hconnect, hlists, hsearches, hreplies, hregistered, hshows,
    run_eq_none_iff_removal hparse hload hnowhere hconnect hlists hsearches hreplies hregistered
      hshows⟩

/-- A work that another client removes between the two look-ups, or before it is deleted, makes the
command fail. -/
theorem run_fails_removed :
    let there : Json := .obj [("json", .obj [("items", .arr [.obj [("id", .str "b-1"),
      ("metadata", .obj [("name", .str "web")])]])])]
    let gone : Json := .obj [("json", .obj [("items", .arr [])])]
    let missing : Json := .obj [("status", .int 404),
      ("json", .obj [("reason", .str "resource not found")])]
    let session (bundles : List Json) : Session := Recording.session [] 0 (.obj [("server", .obj [
      ("bundles", .arr bundles), ("delete", .arr [missing])])])
    let arguments := ["delete", "--name", "web", "--consumer", "cluster1"]
    (run 5 arguments (session [there, gone])).1 =
      some (.reported "ManifestWork 'web' not found for consumer 'cluster1'") ∧
    (run 5 arguments (session [there, there])).1 =
      some (.reported "failed to delete resource bundle b-1: HTTP 404 resource not found") := by
  decide +kernel

end CommandLine

end WorkWatch
