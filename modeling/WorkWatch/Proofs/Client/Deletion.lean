import WorkWatch.Proofs.Client.Lookup
import WorkWatch.Proofs.Net.Item
import WorkWatch.Recording

/-! The deletion of a work by a client: one search for the work, and then one request to delete its
bundle. The identifier of the bundle is put into the path of that request as it is, so that a single
bundle is addressed only where the identifier can stand as a segment of a path. -/

namespace WorkWatch

theorem Summary.id_of_ofBundle {consumer : String} {bundle : Json} {work : Summary}
    (h : Summary.ofBundle consumer bundle = .ok work) : work.id = bundle.textOf "id" := by
  obtain ⟨version, -, h⟩ := bind_eq_ok_iff.mp h
  cases h
  rfl

namespace Client

/-- A bundle is asked to be deleted by its identifier with this request. -/
structure Deletes (client : Client) (id : String) (request : Request) : Prop where
  method : request.method = .delete
  url : client.url (bundlesPath ++ '/' :: id.toList) none = .ok request.url
  timeout : request.timeout = client.timeout

theorem Deletes.asks {client : Client} {id : String} {request : Request}
    (h : client.Deletes id request) (action : String) :
    Exchange.Asks (client.request .delete (bundlesPath ++ '/' :: id.toList) none action) request
      (document action) := by
  obtain ⟨hmethod, hurl, htimeout⟩ := h
  obtain ⟨method, url, timeout⟩ := request
  cases hmethod
  cases htimeout
  exact request_asks hurl action

section

variable {client : Client} {consumer name : String} {search : Request} {network : Network}

theorem deleteWork_of_error (h : client.Searches consumer search) {failure : Failure}
    (hread : summaryIn consumer name (network.send search).1 = .error failure) :
    client.deleteWork consumer name network = (.error failure, (network.send search).2) := by
  have hsummary := getSummary_asks h name network
  rw [hread] at hsummary
  exact bind_of_error hsummary

theorem deleteWork_of_unaddressed (h : client.Searches consumer search) {work : Summary}
    (hread : summaryIn consumer name (network.send search).1 = .ok work) {error : Net.UrlError}
    (hurl : client.url (bundlesPath ++ '/' :: work.id.toList) none = .error error) :
    client.deleteWork consumer name network =
      (.error (.invalidUrl error), (network.send search).2) := by
  have hsummary := getSummary_asks h name network
  rw [hread] at hsummary
  unfold deleteWork
  rw [bind_of_ok hsummary]
  exact bind_of_error (request_refuses hurl _ _)

theorem deleteWork_of_found (h : client.Searches consumer search) {work : Summary}
    (hread : summaryIn consumer name (network.send search).1 = .ok work) {request : Request}
    (hdeletes : client.Deletes work.id request) :
    client.deleteWork consumer name network =
      ((document ("delete resource bundle " ++ work.id)
          ((network.send search).2.send request).1).map fun _ => work,
        ((network.send search).2.send request).2) := by
  have hsummary := getSummary_asks h name network
  rw [hread] at hsummary
  unfold deleteWork
  rw [bind_of_ok hsummary, bind_apply, hdeletes.asks]
  cases document ("delete resource bundle " ++ work.id)
    ((network.send search).2.send request).1 <;> rfl

end

/-- How the deletion of a work can go. -/
inductive DeletesWork (client : Client) (consumer name : String) (network : Network) :
    Except Failure Summary × Network → Prop
  | refused {failure : Failure}
      (refuses : Exchange.Refuses (client.searchBundles consumer) failure) :
      DeletesWork client consumer name network (.error failure, network)
  | unfound {search : Request} {failure : Failure} (searches : client.Searches consumer search)
      (read : summaryIn consumer name (network.send search).1 = .error failure) :
      DeletesWork client consumer name network (.error failure, (network.send search).2)
  | unaddressed {search : Request} {bundle : Json} {error : Net.UrlError}
      (searches : client.Searches consumer search)
      (finds : (network.send search).1.Finds name bundle)
      (url : client.url (bundlesPath ++ '/' :: (bundle.textOf "id").toList) none = .error error) :
      DeletesWork client consumer name network
        (.error (.invalidUrl error), (network.send search).2)
  | sent {search request : Request} {bundle : Json} {work : Summary}
      (searches : client.Searches consumer search)
      (finds : (network.send search).1.Finds name bundle)
      (read : Summary.ofBundle consumer bundle = .ok work)
      (deletes : client.Deletes (bundle.textOf "id") request) :
      DeletesWork client consumer name network
        ((document ("delete resource bundle " ++ bundle.textOf "id")
          ((network.send search).2.send request).1).map fun _ => work,
        ((network.send search).2.send request).2)

theorem deleteWork_deletes (client : Client) (consumer name : String) (network : Network) :
    client.DeletesWork consumer name network (client.deleteWork consumer name network) := by
  rcases searches_or_refuses client consumer with ⟨search, hsearches⟩ | ⟨failure, hrefuses, -⟩
  · cases hread : summaryIn consumer name (network.send search).1 with
    | error failure =>
      rw [deleteWork_of_error hsearches hread]
      exact .unfound hsearches hread
    | ok work =>
      obtain ⟨bundle, hfinds, hbundle⟩ := summaryIn_eq_ok_iff.mp hread
      have hid := Summary.id_of_ofBundle hbundle
      cases hurl : client.url (bundlesPath ++ '/' :: work.id.toList) none with
      | error error =>
        rw [deleteWork_of_unaddressed hsearches hread hurl]
        rw [hid] at hurl
        exact .unaddressed hsearches hfinds hurl
      | ok url =>
        have hdeletes : client.Deletes work.id ⟨.delete, url, client.timeout⟩ := ⟨rfl, hurl, rfl⟩
        rw [deleteWork_of_found hsearches hread hdeletes]
        rw [hid] at hdeletes ⊢
        exact .sent hsearches hfinds hbundle hdeletes
  · have hsummary := getSummary_refuses hrefuses name network
    unfold deleteWork
    rw [bind_of_error hsummary]
    exact .refused hrefuses

theorem deleteWork_sends (client : Client) (consumer name : String) (network : Network) :
    ∃ sent, network.Sends (client.deleteWork consumer name network).2 sent := by
  have hdeletes := deleteWork_deletes client consumer name network
  generalize client.deleteWork consumer name network = result at hdeletes
  cases hdeletes with
  | refused hrefuses => exact ⟨[], .refl network⟩
  | unfound | unaddressed => exact ⟨_, Network.send_sends network _ _⟩
  | @sent search request =>
    exact ⟨_, (Network.send_sends network search _).trans
      (Network.send_sends (network.send search).2 request
        ((network.send search).2.send request).2.delays)⟩

/-! The address of a deletion. -/

theorem url_none (client : Client) (path : List Char) :
    client.url path none = (Net.Url.parse path).bind client.base.under := by
  unfold Client.url
  cases Net.Url.parse path with
  | error error => rfl
  | ok reference =>
    change (client.base.under reference).bind _ = client.base.under reference
    cases client.base.under reference <;> rfl

theorem url_none_of_some {client : Client} {path query : List Char} {url : Net.Url}
    (h : client.url path (some query) = .ok url) : ∃ url, client.url path none = .ok url := by
  rw [url_none]
  unfold Client.url at h
  cases hparse : Net.Url.parse path with
  | error error =>
    rw [hparse] at h
    cases h
  | ok reference =>
    rw [hparse] at h
    change (client.base.under reference).bind _ = .ok url at h
    change ∃ url, client.base.under reference = .ok url
    cases hunder : client.base.under reference with
    | error error =>
      rw [hunder] at h
      cases h
    | ok found => exact ⟨found, rfl⟩

/-- A path that is written plainly is put behind the path of the base as it stands. What follows it
is cut where a query or a fragment begins. -/
theorem builds_of_url {client : Client} (hbase : '?' ∉ client.base.target) {c : Char}
    (hc : c ≠ '/') {root : List Char} (hroot : ∀ d ∈ '/' :: c :: root, Net.isPathChar d = true)
    {tail : List Char} {url : Net.Url}
    (h : client.url (('/' :: c :: root) ++ tail) none = .ok url) :
    url.Builds client.base.scheme client.base.authority
      (client.base.target ++ c :: (root ++ Net.escaped Net.isPathChar (Net.pathPart tail)))
      ((Net.queryPart tail).map (Net.quote Net.isQueryChar)) client.base.fragment := by
  have hplain : ∀ d ∈ '/' :: c :: root, Net.endsPath d = false := by
    intro d hd
    rw [Net.endsPath_eq_false_iff]
    constructor
    · rintro rfl
      exact absurd (hroot '?' hd) (by decide)
    · rintro rfl
      exact absurd (hroot '#' hd) (by decide)
  rw [url_none] at h
  cases hparse : Net.Url.parse (('/' :: c :: root) ++ tail) with
  | error error =>
    rw [hparse] at h
    cases h
  | ok reference =>
    rw [hparse] at h
    obtain ⟨hpath, hquery⟩ := Net.Url.parse_rooted hc hparse
    change reference.path = Net.escaped Net.isPathChar
      (Net.pathPart (('/' :: c :: root) ++ tail)) at hpath
    change reference.query = (Net.queryPart (('/' :: c :: root) ++ tail)).map _ at hquery
    rw [Net.pathPart_append hplain, Net.escaped_append, Net.escaped_eq_self hroot] at hpath
    rw [Net.queryPart_append hplain] at hquery
    rw [← hquery]
    apply Net.Url.builds_of_under hc hbase hpath _ h
    rw [hpath, List.mem_append, not_or]
    constructor
    · intro hmem
      exact absurd (hroot '?' hmem) (by decide)
    · intro hmem
      exact absurd (Net.isPathChar_of_mem_escaped hmem) (by decide)

theorem bundlesPath_eq :
    bundlesPath = '/' :: 'a' :: "pi/maestro/v1/resource-bundles".toList := by decide

/-- The URL that is made for a bundle is that of an item of the collection exactly if the identifier
can stand as a segment. -/
theorem isItem_url_iff {client : Client} (hscheme : client.base.scheme ≠ [])
    (hbase : '?' ∉ client.base.target) {id : List Char} {collection url : Net.Url}
    (hcollection : client.url bundlesPath none = .ok collection)
    (hurl : client.url (bundlesPath ++ '/' :: id) none = .ok url) :
    collection.IsItem url id ↔ Net.IsSegment id := by
  have hplain : ∀ d ∈ '/' :: 'a' :: "pi/maestro/v1/resource-bundles".toList,
      Net.isPathChar d = true := List.all_eq_true.mp (by decide)
  have hroot : Net.resolved
      (client.base.target ++ 'a' :: "pi/maestro/v1/resource-bundles".toList) ≠ [] := by
    have hlast : client.base.target ++ 'a' :: "pi/maestro/v1/resource-bundles".toList =
        (client.base.target ++ "api/maestro/v1".toList) ++ '/' :: "resource-bundles".toList := by
      rw [List.append_assoc]
      rfl
    rw [hlast, Net.resolved_segment _ (by decide) (by decide) (by decide)]
    exact List.append_ne_nil_of_right_ne_nil _ (List.cons_ne_nil _ _)
  rw [bundlesPath_eq] at hcollection hurl
  have hbuilds := builds_of_url hbase (by decide) hplain hurl
  rw [← List.append_nil ('/' :: 'a' :: _)] at hcollection
  have hbuildsRoot := builds_of_url hbase (by decide) hplain hcollection
  have hslash : ∀ d ∈ ['/'], Net.endsPath d = false :=
    List.forall_mem_singleton.mpr (by decide)
  have hpath := Net.pathPart_append hslash id
  have hquery := Net.queryPart_append hslash id
  rw [List.singleton_append] at hpath hquery
  rw [hpath, hquery] at hbuilds
  have hitem : url.Builds client.base.scheme client.base.authority
      ((client.base.target ++ 'a' :: "pi/maestro/v1/resource-bundles".toList) ++
        '/' :: Net.escaped Net.isPathChar (Net.pathPart id))
      ((Net.queryPart id).map (Net.quote Net.isQueryChar)) client.base.fragment := by
    rw [List.append_assoc]
    exact hbuilds
  constructor
  · exact Net.Url.isSegment_of_isItem hscheme hroot hbuildsRoot hitem
  · exact Net.Url.isItem_of_isSegment hscheme hroot hbuildsRoot hitem

/-- A deletion addresses one bundle exactly if the identifier of the bundle that was found can stand
as a segment of a path. -/
theorem deleteWork_isItem_iff {client : Client} (hscheme : client.base.scheme ≠ [])
    (hbase : '?' ∉ client.base.target) {consumer name : String} {network : Network}
    {sent : List Request} {request : Request}
    (hsent : network.Sends (client.deleteWork consumer name network).2 sent)
    (hmem : request ∈ sent) (hdelete : request.method = .delete) :
    ∃ search bundle collection,
      client.Searches consumer search ∧ sent = [search, request] ∧
      (network.send search).1.Finds name bundle ∧
      client.url bundlesPath none = .ok collection ∧
      client.url (bundlesPath ++ '/' :: (bundle.textOf "id").toList) none = .ok request.url ∧
      (collection.IsItem request.url (bundle.textOf "id").toList ↔
        Net.IsSegment (bundle.textOf "id").toList) := by
  have hdeletes := deleteWork_deletes client consumer name network
  generalize client.deleteWork consumer name network = result at hsent hdeletes
  cases hdeletes with
  | refused hrefuses =>
    rw [hsent.unique (.refl network)] at hmem
    cases hmem
  | unfound hsearches hread | unaddressed hsearches hfinds hurl =>
    rw [hsent.unique (Network.send_sends network _ _)] at hmem
    rw [List.mem_singleton.mp hmem, hsearches.method] at hdelete
    cases hdelete
  | @sent search deletion bundle work hsearches hfinds hread hdeletes =>
    have hboth : network.Sends ((network.send search).2.send deletion).2 [search, deletion] :=
      (Network.send_sends network search _).trans
        (Network.send_sends (network.send search).2 deletion _)
    rw [hsent.unique hboth] at hmem ⊢
    rcases List.mem_pair.mp hmem with rfl | rfl
    · rw [hsearches.method] at hdelete
      cases hdelete
    · obtain ⟨collection, hcollection⟩ := url_none_of_some hsearches.url
      exact ⟨search, bundle, collection, hsearches, rfl, hfinds, hcollection, hdeletes.url,
        isItem_url_iff hscheme hbase hcollection hdeletes.url⟩

/-- The identifier of the bundle stands as a segment. -/
theorem deleteWork_isItem_iff_web :
    ∃ (client : Client) (network : Network) (sent : List Request) (request : Request),
      client.base.scheme ≠ [] ∧ '?' ∉ client.base.target ∧
      network.Sends (client.deleteWork "cluster1" "web" network).2 sent ∧
      request ∈ sent ∧ request.method = .delete ∧
      ∃ search bundle collection,
        client.Searches "cluster1" search ∧ sent = [search, request] ∧
        (network.send search).1.Finds "web" bundle ∧
        client.url bundlesPath none = .ok collection ∧
        client.url (bundlesPath ++ '/' :: (bundle.textOf "id").toList) none = .ok request.url ∧
        (collection.IsItem request.url (bundle.textOf "id").toList ↔
          Net.IsSegment (bundle.textOf "id").toList) := by
  let client : Client :=
    ⟨⟨"http".toList, [], "localhost".toList, some 8000, ['/'], none, none⟩, 30⟩
  let network : Network := .start (Recording.server (.obj [("bundles", .arr [
    .obj [("json", .obj [("items", .arr [.obj [("id", .str "b-1"),
      ("metadata", .obj [("name", .str "web")])]])])]])]))
  have hdeletes : (client.deleteWork "cluster1" "web" network).2.requests.any
      (·.method = .delete) = true := by decide +kernel
  obtain ⟨request, hmem, hdelete⟩ := List.any_eq_true.mp hdeletes
  obtain ⟨sent, hsent⟩ := deleteWork_sends client "cluster1" "web" network
  rw [hsent.requests] at hmem
  have hscheme : client.base.scheme ≠ [] := by decide
  have hbase : '?' ∉ client.base.target := by decide
  exact ⟨client, network, sent, request, hscheme, hbase, hsent, hmem, of_decide_eq_true hdelete,
    deleteWork_isItem_iff hscheme hbase hsent hmem (of_decide_eq_true hdelete)⟩

/-- A bundle without an identifier makes a deletion address the collection, and one may lead out of
it. -/
theorem deleteWork_leaves_collection :
    ∃ (client : Client) (collection : Net.Url), client.url bundlesPath none = .ok collection ∧
      ∀ (id path : String),
        (id, path) ∈ [("", "/api/maestro/v1/resource-bundles/"),
          ("../consumers", "/api/maestro/v1/consumers")] →
        ∃ (network : Network) (sent : List Request) (request : Request),
          network.Sends (client.deleteWork "cluster1" "web" network).2 sent ∧
          request ∈ sent ∧ request.method = .delete ∧
          request.url.path = path.toList ∧ ∀ name, ¬ collection.IsItem request.url name := by
  let base : Net.Url := ⟨"http".toList, [], "localhost".toList, some 8000, ['/'], none, none⟩
  let client : Client := ⟨base, 30⟩
  let collection : Net.Url := { base with path := bundlesPath }
  let network (id : String) : Network := .start (Recording.server (.obj [("bundles", .arr [
    .obj [("json", .obj [("items", .arr [.obj [("id", .str id),
      ("metadata", .obj [("name", .str "web")])]])])]])]))
  have hdeletes : ∀ case ∈ [("", "/api/maestro/v1/resource-bundles/"),
      ("../consumers", "/api/maestro/v1/consumers")],
      ((client.deleteWork "cluster1" "web" (network case.1)).2.requests.any fun request =>
        request.method = .delete && request.url.path = case.2.toList) = true ∧
      case.2.toList.length ≤ collection.path.length + 1 := by decide +kernel
  have hurl : client.url bundlesPath none = .ok collection := by decide +kernel
  have hstart (id : String) : (network id).requests = [] := rfl
  clear_value client collection network
  refine ⟨client, collection, hurl, ?_⟩
  intro id path hcase
  obtain ⟨hany, hshort⟩ := hdeletes (id, path) hcase
  obtain ⟨request, hmem, hrequest⟩ := List.any_eq_true.mp hany
  rw [Bool.and_eq_true, decide_eq_true_eq, decide_eq_true_eq] at hrequest
  obtain ⟨sent, hsent⟩ := deleteWork_sends client "cluster1" "web" (network id)
  rw [hsent.requests, hstart, List.nil_append] at hmem
  refine ⟨network id, sent, request, hsent, hmem, hrequest.1, hrequest.2, ?_⟩
  intro name hitem
  have hlong := hitem.length_lt
  rw [hrequest.2] at hlong
  exact absurd hlong (Nat.not_lt.mpr hshort)

end Client

end WorkWatch
