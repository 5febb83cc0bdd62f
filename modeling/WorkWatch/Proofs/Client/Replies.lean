import WorkWatch.Failure.Reason
import WorkWatch.Proofs.Client.Traffic
import WorkWatch.Proofs.Except

/-! What the reply to a search tells about one work of the consumer. It shows a snapshot, or it tells
that the work is gone, or it tells neither. -/

namespace WorkWatch

/-- What stands in the body of a successful answer: a document, or nothing, which counts as null. -/
inductive Says : List UInt8 → Json → Prop
  | nothing : Says [] .null
  | document {body : List UInt8} {payload : Json} (read : Json.ofBytes body = .ok payload) :
      Says body payload

/-- A name is found where it stands as a string; only the empty one is found also where there is no
string. -/
theorem bundleName_eq_iff {bundle : Json} {name : String} (h : name ≠ "") :
    bundleName bundle = name ↔ (bundle.get "metadata").get "name" = .str name := by
  unfold bundleName Json.textOf
  generalize (bundle.get "metadata").get "name" = value
  cases value <;> simp [Json.str?, eq_comm, h]

theorem Snapshot.name_of_ofBundle {consumer : String} {bundle : Json} {snapshot : Snapshot}
    (h : Snapshot.ofBundle consumer bundle = .ok snapshot) : snapshot.name = bundleName bundle := by
  obtain ⟨version, -, h⟩ := bind_eq_ok_iff.mp h
  obtain ⟨resources, -, h⟩ := bind_eq_ok_iff.mp h
  cases h
  rfl

namespace Failure

/-- The message of a failure holds words that tell that something does not exist. -/
def IsWorded (failure : Failure) : Prop := (Reason.gonePattern? failure.message).isSome = true

theorem isWorded_of_ofMessage {failure : Failure} {status : Option Nat}
    (h : (Reason.ofMessage failure.message status).isGone = true) : failure.IsWorded := by
  unfold IsWorded
  unfold Reason.ofMessage at h
  cases hpattern : Reason.gonePattern? failure.message with
  | none =>
    rw [hpattern] at h
    cases h
  | some pattern => rfl

/-- A request that failed tells that something is gone by the status 404 or by its words. -/
theorem isWorded_of_api {text : String} {status : Option Nat} (hstatus : status ≠ some 404)
    (h : (Failure.api text status).reason.isGone = true) : (Failure.api text status).IsWorded := by
  change (if status = some 404 then Reason.status404 else _).isGone = true at h
  rw [if_neg hstatus] at h
  exact isWorded_of_ofMessage h

theorem isWorded_of_other {kind text : String}
    (h : (Failure.other kind text).reason.isGone = true) : (Failure.other kind text).IsWorded := by
  change (Reason.ofMessage (Failure.other kind text).message none).isGone = true at h
  exact isWorded_of_ofMessage h

/-- The characters hold the words of one of the patterns. -/
def wordsAmong (s : List Char) : Bool :=
  Text.holds ['n', 'o', 't', ' ', 'f', 'o', 'u', 'n', 'd'] (Text.lowerAfter [] s) ||
    Text.holds ['d', 'o', 'e', 's', ' ', 'n', 'o', 't', ' ', 'e', 'x', 'i', 's', 't']
      (Text.lowerAfter [] s)

theorem not_isWorded_of_text {failure : Failure} {s : List Char} (htext : failure.text.toList = s)
    (hsome : s ≠ []) (hwords : wordsAmong s = false) : ¬ failure.IsWorded := by
  have hmessage : failure.message = failure.text := by
    refine if_neg fun hempty => hsome ?_
    rw [← htext, String.isEmpty_iff.mp hempty]
    rfl
  obtain ⟨hfound, hexists⟩ := Bool.or_eq_false_iff.mp hwords
  unfold IsWorded Reason.gonePattern? Reason.gonePatterns Text.lower
  rw [hmessage, htext, String.toList_ofList, List.find?_cons_of_neg (Bool.eq_false_iff.mp ?_),
    List.find?_cons_of_neg (Bool.eq_false_iff.mp ?_)]
  · nofun
  · rw [String.toList_ofList]
    exact hexists
  · rw [String.toList_ofList]
    exact hfound

theorem not_isWorded_of_append {failure : Failure} {s t u : List Char}
    (htext : failure.text = String.ofList s ++ String.ofList t ++ String.ofList u)
    (hsome : s ++ t ++ u ≠ []) (hwords : wordsAmong (s ++ t ++ u) = false) :
    ¬ failure.IsWorded := by
  apply not_isWorded_of_text _ hsome hwords
  rw [htext, String.toList_append, String.toList_append, String.toList_ofList,
    String.toList_ofList, String.toList_ofList]

theorem not_isWorded_unreadable (problem : BundleProblem) :
    ¬ (Failure.unreadable problem).IsWorded := by
  rcases problem with (_ | _) | (_ | _)
  · exact not_isWorded_of_text String.toList_ofList (by decide) (by decide)
  · exact not_isWorded_of_text String.toList_ofList (by decide) (by decide)
  · exact not_isWorded_of_append rfl (by decide) (by decide)
  · exact not_isWorded_of_append rfl (by decide) (by decide)

theorem not_isGone_unreadable (problem : BundleProblem) :
    (Failure.unreadable problem).reason.isGone = false := by
  rw [Bool.eq_false_iff]
  intro hgone
  change (Reason.ofMessage (Failure.unreadable problem).message none).isGone = true at hgone
  exact not_isWorded_unreadable problem (isWorded_of_ofMessage hgone)

end Failure

namespace Reply

/-- A successful answer whose first bundle with the name of a work is read as a snapshot. -/
inductive Shows (consumer name : String) : Reply → Snapshot → Prop
  | intro {status : Nat} {body : List UInt8} {payload bundle : Json} {snapshot : Snapshot}
      (success : Net.isSuccess status = true) (read : Json.ofBytes body = .ok payload)
      (first : ((Client.items payload).find? fun bundle => bundleName bundle == name) =
        some bundle)
      (bundled : Snapshot.ofBundle consumer bundle = .ok snapshot) :
      Shows consumer name (.response status body) snapshot

theorem Shows.name {consumer name : String} {reply : Reply} {snapshot : Snapshot}
    (h : reply.Shows consumer name snapshot) : snapshot.name = name := by
  obtain ⟨-, -, hfirst, hbundled⟩ := h
  rw [Snapshot.name_of_ofBundle hbundled]
  simpa using List.find?_some hfirst

/-- The status 404, a successful answer without a bundle of the name, or no success and words that
tell that something does not exist. -/
inductive TellsGone (name : String) : Reply → Prop
  | missing {body : List UInt8} : TellsGone name (.response 404 body)
  | absent {status : Nat} {body : List UInt8} {payload : Json}
      (success : Net.isSuccess status = true) (said : Says body payload)
      (none : ∀ bundle ∈ Client.items payload, bundleName bundle ≠ name) :
      TellsGone name (.response status body)
  | worded {reply : Reply} {failure : Failure}
      (noSuccess : ∀ status body, reply = .response status body → Net.isSuccess status = false)
      (failed : Client.document "search resource bundles" reply = .error failure)
      (words : failure.IsWorded) : TellsGone name reply

end Reply

namespace Client

/-- What an answer says: a document that succeeds, or one of three failures. -/
theorem document_response (action : String) (status : Nat) (body : List UInt8) :
    (∃ payload, document action (.response status body) = .ok payload ∧
      Net.isSuccess status = true ∧ Says body payload) ∨
    (∃ container,
      document action (.response status body) = .error (.unreadable (.tooDeep container))) ∨
    (Net.isSuccess status = false ∧ ∃ text,
      document action (.response status body) = .error (.api text (some status))) ∨
    (Net.isSuccess status = true ∧ document action (.response status body) =
      .error (.api ("failed to " ++ action ++ ": invalid JSON response") (some status))) := by
  rw [document]
  cases Net.isSuccess status with
  | false =>
    rcases Json.ofBytes body with (_ | _ | container) | payload
    · exact Or.inr (Or.inr (Or.inl ⟨rfl, _, rfl⟩))
    · exact Or.inr (Or.inr (Or.inl ⟨rfl, _, rfl⟩))
    · exact Or.inr (Or.inl ⟨container, rfl⟩)
    · exact Or.inr (Or.inr (Or.inl ⟨rfl, _, rfl⟩))
  | true =>
    cases body with
    | nil => exact Or.inl ⟨_, rfl, rfl, .nothing⟩
    | cons byte rest =>
      rcases hread : Json.ofBytes (byte :: rest) with (_ | _ | container) | payload
      · exact Or.inr (Or.inr (Or.inr ⟨rfl, rfl⟩))
      · exact Or.inr (Or.inr (Or.inr ⟨rfl, rfl⟩))
      · exact Or.inr (Or.inl ⟨container, rfl⟩)
      · exact Or.inl ⟨payload, rfl, rfl, .document hread⟩

theorem document_eq_ok {action : String} {reply : Reply} {payload : Json}
    (h : document action reply = .ok payload) :
    ∃ status body, reply = .response status body ∧ Net.isSuccess status = true ∧
      Says body payload := by
  cases reply with
  | timeout => cases h
  | broken message => cases h
  | refused kind message => cases h
  | response status body =>
    rcases document_response action status body with ⟨found, hfound, hsuccess, hsays⟩ |
      ⟨container, hdeep⟩ | ⟨-, text, hfailed⟩ | ⟨-, hinvalid⟩
    · rw [hfound] at h
      cases h
      exact ⟨status, body, rfl, hsuccess, hsays⟩
    · rw [hdeep] at h
      cases h
    · rw [hfailed] at h
      cases h
    · rw [hinvalid] at h
      cases h

theorem document_of_success {action : String} {status : Nat} {body : List UInt8} {payload : Json}
    (hsuccess : Net.isSuccess status = true) (hread : Json.ofBytes body = .ok payload) :
    document action (.response status body) = .ok payload := by
  rw [document, hsuccess, hread]
  cases body with
  | nil => cases hread
  | cons byte rest => rfl

/-- The bundle that a look-up takes from the document that it gets. -/
def bundleOf (consumer name : String) (payload : Json) : Except Failure Json :=
  match (items payload).find? fun bundle => bundleName bundle == name with
  | none => .error (.workMissing name consumer)
  | some bundle => .ok bundle

theorem bundleOf_eq_ok_iff {consumer name : String} {payload bundle : Json} :
    bundleOf consumer name payload = .ok bundle ↔
      ((items payload).find? fun bundle => bundleName bundle == name) = some bundle := by
  unfold bundleOf
  cases (items payload).find? fun bundle => bundleName bundle == name with
  | none => exact ⟨nofun, nofun⟩
  | some found => simp

theorem bundleOf_eq_error_iff {consumer name : String} {payload : Json} {failure : Failure} :
    bundleOf consumer name payload = .error failure ↔
      (∀ bundle ∈ items payload, bundleName bundle ≠ name) ∧
        failure = .workMissing name consumer := by
  unfold bundleOf
  cases hfirst : (items payload).find? fun bundle => bundleName bundle == name with
  | none =>
    constructor
    · rintro ⟨⟩
      exact ⟨by simpa using hfirst, rfl⟩
    · rintro ⟨-, rfl⟩
      rfl
  | some bundle =>
    refine ⟨nofun, ?_⟩
    rintro ⟨hnone, -⟩
    have hname : bundleName bundle = name := by simpa using List.find?_some hfirst
    exact absurd hname (hnone bundle (List.mem_of_find?_eq_some hfirst))

/-- What a look-up makes of the document that it gets. -/
def snapshotOf (consumer name : String) (payload : Json) : Except Failure Snapshot :=
  (bundleOf consumer name payload).bind fun bundle =>
    (Snapshot.ofBundle consumer bundle).mapError .unreadable

/-- What a look-up makes of the reply to its search. -/
def snapshotIn (consumer name : String) (reply : Reply) : Except Failure Snapshot :=
  match document "search resource bundles" reply with
  | .ok payload => snapshotOf consumer name payload
  | .error failure => .error failure

theorem getBundle_eq {client : Client} {consumer : String} {request : Request}
    (h : client.Searches consumer request) (name : String) (network : Network) :
    client.getBundle consumer name network =
      ((document "search resource bundles" (network.send request).1).bind
        (bundleOf consumer name), (network.send request).2) := by
  unfold getBundle
  rw [bind_apply, searchBundles_eq h]
  cases document "search resource bundles" (network.send request).1 with
  | error failure => rfl
  | ok payload =>
    dsimp only [Except.map, Except.bind]
    unfold bundleOf
    cases (items payload).find? fun bundle => bundleName bundle == name <;> rfl

/-- A look-up of a work is one search. -/
theorem getSnapshot_eq {client : Client} {consumer : String} {request : Request}
    (h : client.Searches consumer request) (name : String) (network : Network) :
    client.getSnapshot consumer name network =
      (snapshotIn consumer name (network.send request).1, (network.send request).2) := by
  unfold getSnapshot snapshotIn
  rw [bind_apply, getBundle_eq h]
  cases document "search resource bundles" (network.send request).1 with
  | error failure => rfl
  | ok payload =>
    dsimp only [Except.bind]
    unfold snapshotOf
    cases bundleOf consumer name payload with
    | error failure => rfl
    | ok bundle =>
      dsimp only [Except.bind]
      cases Snapshot.ofBundle consumer bundle <;> rfl

theorem snapshotOf_eq_ok_iff {consumer name : String} {payload : Json} {snapshot : Snapshot} :
    snapshotOf consumer name payload = .ok snapshot ↔
      ∃ bundle, ((items payload).find? fun bundle => bundleName bundle == name) = some bundle ∧
        Snapshot.ofBundle consumer bundle = .ok snapshot := by
  refine bind_eq_ok_iff.trans (exists_congr fun bundle => ?_)
  rw [bundleOf_eq_ok_iff, mapError_eq_ok_iff]

/-- A document without a bundle of the name is the only one that tells that the work is gone. -/
theorem absent_of_snapshotOf {consumer name : String} {payload : Json} {failure : Failure}
    (h : snapshotOf consumer name payload = .error failure)
    (hgone : failure.reason.isGone = true) :
    ∀ bundle ∈ items payload, bundleName bundle ≠ name := by
  rcases bind_eq_error_iff.mp h with hmissing | ⟨bundle, -, hfails⟩
  · exact (bundleOf_eq_error_iff.mp hmissing).1
  · obtain ⟨problem, -, rfl⟩ := mapError_eq_error_iff.mp hfails
    rw [Failure.not_isGone_unreadable] at hgone
    cases hgone

theorem snapshotIn_eq_ok_iff {consumer name : String} {reply : Reply} {snapshot : Snapshot} :
    snapshotIn consumer name reply = .ok snapshot ↔ reply.Shows consumer name snapshot := by
  unfold snapshotIn
  constructor
  · intro h
    cases hdocument : document "search resource bundles" reply with
    | error failure =>
      rw [hdocument] at h
      cases h
    | ok payload =>
      rw [hdocument] at h
      obtain ⟨status, body, rfl, hsuccess, hsays⟩ := document_eq_ok hdocument
      obtain ⟨bundle, hfirst, hbundled⟩ := snapshotOf_eq_ok_iff.mp h
      cases hsays with
      | nothing => cases hfirst
      | document hread => exact .intro hsuccess hread hfirst hbundled
  · rintro ⟨hsuccess, hread, hfirst, hbundled⟩
    rw [document_of_success hsuccess hread]
    exact snapshotOf_eq_ok_iff.mpr ⟨_, hfirst, hbundled⟩

/-- An answer without a document tells that the work is gone by the status 404 or by its words. -/
theorem tellsGone_of_response {name : String} {status : Nat} {body : List UInt8}
    {failure : Failure}
    (h : document "search resource bundles" (.response status body) = .error failure)
    (hgone : failure.reason.isGone = true) : (Reply.response status body).TellsGone name := by
  rcases document_response "search resource bundles" status body with ⟨payload, hfound, -, -⟩ |
    ⟨container, hdeep⟩ | ⟨hstatus, text, hfailed⟩ | ⟨hsuccess, hinvalid⟩
  · rw [hfound] at h
    cases h
  · rw [hdeep] at h
    cases h
    rw [Failure.not_isGone_unreadable] at hgone
    cases hgone
  · by_cases hmissing : status = 404
    · subst hmissing
      exact .missing
    · rw [hfailed] at h
      cases h
      have hwords := Failure.isWorded_of_api (mt Option.some.inj hmissing) hgone
      refine .worded ?_ hfailed hwords
      rintro _ _ ⟨⟩
      exact hstatus
  · -- Neither the status nor the words of this failure can tell that anything is gone.
    rw [hinvalid] at h
    cases h
    have hother : status ≠ 404 := by
      rintro rfl
      cases hsuccess
    have hwords := Failure.isWorded_of_api (mt Option.some.inj hother) hgone
    have htext : (Failure.api
        "failed to search resource bundles: invalid JSON response" none).text.toList = _ :=
      String.toList_ofList
    exact absurd hwords (Failure.not_isWorded_of_text htext (by decide) (by decide))

theorem tellsGone_of_document {name : String} {reply : Reply} {failure : Failure}
    (h : document "search resource bundles" reply = .error failure)
    (hgone : failure.reason.isGone = true) : reply.TellsGone name := by
  cases reply with
  | timeout =>
    cases h
    have hstatus : (none : Option Nat) ≠ some 404 := nofun
    have hwords := Failure.isWorded_of_api hstatus hgone
    exact absurd hwords (Failure.not_isWorded_of_append rfl (by decide) (by decide))
  | broken message =>
    have hwords : failure.IsWorded := by
      cases h
      exact Failure.isWorded_of_api nofun hgone
    exact .worded nofun h hwords
  | refused kind message =>
    have hwords : failure.IsWorded := by
      cases h
      exact Failure.isWorded_of_other hgone
    exact .worded nofun h hwords
  | response status body => exact tellsGone_of_response h hgone

theorem tellsGone_of_isGone {consumer name : String} {reply : Reply} {failure : Failure}
    (h : snapshotIn consumer name reply = .error failure) (hgone : failure.reason.isGone = true) :
    reply.TellsGone name := by
  unfold snapshotIn at h
  cases hdocument : document "search resource bundles" reply with
  | ok payload =>
    rw [hdocument] at h
    obtain ⟨status, body, rfl, hsuccess, hsays⟩ := document_eq_ok hdocument
    exact .absent hsuccess hsays (absent_of_snapshotOf h hgone)
  | error problem =>
    rw [hdocument] at h
    cases h
    exact tellsGone_of_document hdocument hgone

end Client

end WorkWatch
