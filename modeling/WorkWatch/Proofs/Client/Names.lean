import WorkWatch.Proofs.Client.Deletion

/-! Lists and look-ups of works. A list names a bundle without a name of its own by its identifier,
and a look-up only compares names; so the name of a listed work may find nothing, or the bundle of
another work. -/

namespace WorkWatch

/-- The name under which a bundle is listed. -/
def listedName (bundle : Json) : String :=
  if (bundleName bundle).isEmpty then bundle.textOf "id" else bundleName bundle

theorem listedName_of_named {bundle : Json} (h : bundleName bundle ≠ "") :
    listedName bundle = bundleName bundle := by
  refine if_neg fun hempty => h ?_
  exact String.isEmpty_iff.mp hempty

theorem listedName_of_nameless {bundle : Json} (h : bundleName bundle = "") :
    listedName bundle = bundle.textOf "id" := by
  refine if_pos ?_
  rw [h]
  rfl

theorem Summary.name_of_ofBundle {consumer : String} {bundle : Json} {work : Summary}
    (h : Summary.ofBundle consumer bundle = .ok work) : work.name = listedName bundle := by
  obtain ⟨version, -, h⟩ := bind_eq_ok_iff.mp h
  cases h
  rfl

/-- A successful answer and its bundles. -/
inductive Reply.Carries : Reply → List Json → Prop
  | intro {status : Nat} {body : List UInt8} {payload : Json}
      (success : Net.isSuccess status = true) (said : Says body payload) :
      Carries (.response status body) (Client.items payload)

namespace Client

/-- A look-up of a name gives a bundle that is listed under this name. -/
def Agrees (consumer name : String) (found : Except Failure Json) : Prop :=
  ∃ bundle work, found = .ok bundle ∧ Summary.ofBundle consumer bundle = .ok work ∧
    work.name = name

/-- What makes the listed name of a bundle lead to a bundle of this name: a name of its own, or an
identifier that is the name of another bundle. If it has neither name nor identifier, the first
bundle without a name must have no identifier either. -/
inductive Findable (bundles : List Json) (bundle : Json) : Prop
  | named (h : bundleName bundle ≠ "")
  | borrowed {other : Json} (mem : other ∈ bundles) (nonempty : bundle.textOf "id" ≠ "")
      (name : bundleName other = bundle.textOf "id")
  | blank {first : Json} (empty : bundle.textOf "id" = "")
      (nameless : (bundles.find? fun bundle => bundleName bundle == "") = some first)
      (id : first.textOf "id" = "")

variable {bundles : List Json} {bundle : Json}

theorem bundleName_of_find? {name : String} {found : Json}
    (h : (bundles.find? fun bundle => bundleName bundle == name) = some found) :
    bundleName found = name := by
  simpa using List.find?_some h

/-- A name that some bundle has leads to a bundle that is listed under it. -/
theorem exists_find?_of_name {other : Json} {name : String} (hmem : other ∈ bundles)
    (hnonempty : name ≠ "") (hname : bundleName other = name) :
    ∃ found, (bundles.find? fun bundle => bundleName bundle == name) = some found ∧
      listedName found = name := by
  have hsome : (bundles.find? fun bundle => bundleName bundle == name).isSome := by
    rw [List.find?_isSome]
    exact ⟨other, hmem, by rw [hname]; exact beq_self_eq_true name⟩
  obtain ⟨found, hfound⟩ := Option.isSome_iff_exists.mp hsome
  have hfoundName := bundleName_of_find? hfound
  refine ⟨found, hfound, ?_⟩
  rw [listedName_of_named (hfoundName ▸ hnonempty), hfoundName]

/-- A listed name leads to a bundle that is listed under it if and only if its own is findable. -/
theorem find?_listedName_iff (hmem : bundle ∈ bundles) :
    (∃ found, (bundles.find? fun other => bundleName other == listedName bundle) = some found ∧
      listedName found = listedName bundle) ↔ Findable bundles bundle := by
  -- A bundle with a name of its own is always found; all turns on those without one.
  constructor
  · rintro ⟨found, hfound, hlisted⟩
    by_cases hname : bundleName bundle = ""
    · -- The identifier is looked up as if it were a name; an empty one finds what has no name.
      rw [listedName_of_nameless hname] at hfound hlisted
      have hfoundName := bundleName_of_find? hfound
      by_cases hid : bundle.textOf "id" = ""
      · rw [hid] at hfound hfoundName hlisted
        rw [listedName_of_nameless hfoundName] at hlisted
        exact .blank hid hfound hlisted
      · exact .borrowed (List.mem_of_find?_eq_some hfound) hid hfoundName
    · exact .named hname
  · intro h
    by_cases hname : bundleName bundle = ""
    · rw [listedName_of_nameless hname]
      cases h with
      | named h => exact absurd hname h
      | borrowed hother hid hotherName => exact exists_find?_of_name hother hid hotherName
      | @blank first hid hfirst hfirstId =>
        rw [hid]
        refine ⟨first, hfirst, ?_⟩
        rw [listedName_of_nameless (bundleName_of_find? hfirst), hfirstId]
    · rw [listedName_of_named hname]
      exact exists_find?_of_name hmem hname rfl

theorem agrees_bundleOf_iff {consumer name : String} {payload : Json}
    (hread : ∀ bundle ∈ items payload, ∃ work, Summary.ofBundle consumer bundle = .ok work) :
    Agrees consumer name (bundleOf consumer name payload) ↔
      ∃ found, ((items payload).find? fun bundle => bundleName bundle == name) = some found ∧
        listedName found = name := by
  constructor
  · rintro ⟨found, work, hfound, hwork, hname⟩
    rw [Summary.name_of_ofBundle hwork] at hname
    exact ⟨found, bundleOf_eq_ok_iff.mp hfound, hname⟩
  · rintro ⟨found, hfound, hname⟩
    obtain ⟨work, hwork⟩ := hread found (List.mem_of_find?_eq_some hfound)
    exact ⟨found, work, bundleOf_eq_ok_iff.mpr hfound, hwork,
      (Summary.name_of_ofBundle hwork).trans hname⟩

/-- Whenever a list succeeds, a look-up of a listed name that gets the same reply gives a bundle
that is listed under this name, if and only if the bundle that the name comes from is findable. -/
theorem listWorks_getBundle_iff {client : Client} {consumer : String} {network : Network}
    {works : List Summary} (hworks : (client.listWorks consumer network).1 = .ok works) :
    ∃ request bundles, client.Searches consumer request ∧
      (network.send request).1.Carries bundles ∧
      List.Forall₂ (fun bundle work => Summary.ofBundle consumer bundle = .ok work ∧
        ∀ later : Network, (later.send request).1 = (network.send request).1 →
          (Agrees consumer work.name (client.getBundle consumer work.name later).1 ↔
            Findable bundles bundle)) bundles works := by
  rcases searches_or_refuses client consumer with ⟨request, hsearch⟩ | ⟨failure, hrefuses, -⟩
  · rw [listWorks_asks hsearch] at hworks
    obtain ⟨bundles, hbundles, hlisted⟩ := bind_eq_ok_iff.mp hworks
    obtain ⟨payload, hdocument, rfl⟩ := map_eq_ok_iff.mp hbundles
    have hsummaries : List.Forall₂ (fun bundle work => Summary.ofBundle consumer bundle = .ok work)
        (items payload) works :=
      (mapM_eq_ok_iff.mp hlisted).imp fun _ _ h => mapError_eq_ok_iff.mp h
    have hread (bundle : Json) (hmem : bundle ∈ items payload) :
        ∃ work, Summary.ofBundle consumer bundle = .ok work := by
      obtain ⟨work, -, hwork⟩ := exists_of_forall₂ hsummaries hmem
      exact ⟨work, hwork⟩
    have hcarries : (network.send request).1.Carries (items payload) := by
      obtain ⟨status, body, hreply, hsuccess, hsaid⟩ := document_eq_ok hdocument
      rw [hreply]
      exact .intro hsuccess hsaid
    refine ⟨request, items payload, hsearch, hcarries, ?_⟩
    refine ((List.forall₂_and_left _ _).mpr ⟨fun _ hmem => hmem, hsummaries⟩).imp ?_
    rintro bundle work ⟨hmem, hwork⟩
    refine ⟨hwork, fun later hsame => ?_⟩
    rw [getBundle_asks hsearch, hsame, bundleIn, hdocument, Summary.name_of_ofBundle hwork]
    exact (agrees_bundleOf_iff hread).trans (find?_listedName_iff hmem)
  · rw [listWorks_refuses hrefuses] at hworks
    cases hworks

/-- A bundle with a name of its own, after one that is listed by its identifier. -/
theorem listWorks_getBundle_iff_web :
    ∃ (client : Client) (network : Network) (works : List Summary),
      (client.listWorks "cluster1" network).1 = .ok works ∧
      works.map (·.name) = ["b-1", "web"] ∧
      ∃ work ∈ works, work.id = "b-2" ∧
        Agrees "cluster1" work.name (client.getBundle "cluster1" work.name network).1 := by
  let client : Client :=
    ⟨⟨"http".toList, [], "localhost".toList, some 8000, ['/'], none, none⟩, 30⟩
  let network : Network := .start (Recording.server (.obj [("bundles", .arr [
    .obj [("json", .obj [("items", .arr [.obj [("id", .str "b-1")],
      .obj [("id", .str "b-2"), ("metadata", .obj [("name", .str "web")])]])])]])]))
  let first : Summary := ⟨"b-1", "b-1", "cluster1", 0, "", "", [], []⟩
  let second : Summary := ⟨"b-2", "web", "cluster1", 0, "", "", [], []⟩
  have hworks : (client.listWorks "cluster1" network).1 = .ok [first, second] := by
    decide +kernel
  refine ⟨client, network, [first, second], hworks, rfl, second, by simp, rfl, ?_⟩
  clear_value client network
  obtain ⟨request, bundles, -, -, hlisted⟩ := listWorks_getBundle_iff hworks
  cases hlisted with
  | cons _ hlisted =>
    cases hlisted with
    | @cons bundle _ _ _ hsecond _ =>
      refine (hsecond.2 network rfl).mpr (.named fun hname => ?_)
      have hlistedName := Summary.name_of_ofBundle hsecond.1
      rw [listedName_of_nameless hname, ← Summary.id_of_ofBundle hsecond.1] at hlistedName
      exact absurd hlistedName (by decide)

/-- The only bundle has no name: it is listed by its identifier, which no look-up finds. -/
theorem getBundle_misses_listed :
    ∃ (client : Client) (network : Network) (work : Summary),
      (client.listWorks "cluster1" network).1 = .ok [work] ∧
      (client.getBundle "cluster1" work.name network).1 =
        .error (.workMissing work.name "cluster1") := by
  let client : Client :=
    ⟨⟨"http".toList, [], "localhost".toList, some 8000, ['/'], none, none⟩, 30⟩
  let network : Network := .start (Recording.server (.obj [("bundles", .arr [
    .obj [("json", .obj [("items", .arr [.obj [("id", .str "b-1")]])])]])]))
  let work : Summary := ⟨"b-1", "b-1", "cluster1", 0, "", "", [], []⟩
  have hlist : (client.listWorks "cluster1" network).1 = .ok [work] := by decide +kernel
  have hmissing : (client.getBundle "cluster1" work.name network).1.map Json.isObject =
      .error (.workMissing work.name "cluster1") := by decide +kernel
  exact ⟨client, network, work, hlist, map_eq_error_iff.mp hmissing⟩

end Client

end WorkWatch
