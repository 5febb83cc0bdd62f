import Mathlib.Data.List.Induction
import WorkWatch.Proofs.Except
import WorkWatch.Proofs.Text.Split
import WorkWatch.Work.Resource

/-! Feedback by name and by path. The entries of a list of feedback are gathered one after the other:
a name keeps the place of the first entry that reports something under it, and has the value of the
last one. A path leads from such a value through the members of objects. -/

namespace WorkWatch

namespace FeedbackValue

/-- An entry of a list of feedback reports a value under a name. -/
structure Reports (entry : Json) (name : String) (value : FeedbackValue) : Prop where
  named : entry.get "name" = .str name
  isObject : (entry.get "fieldValue").isObject = true
  decoded : ofField (entry.get "fieldValue") = .ok (some value)

/-- The first report under one name stands before every report under another. -/
def Precedes (entries : List Json) (name other : String) : Prop :=
  name ≠ other ∧ ∃ before entry after value, entries = before ++ entry :: after ∧
    Reports entry name value ∧ ∀ earlier ∈ before, ∀ value, ¬ Reports earlier other value

/-- The last report under a name is of this value. -/
def IsLatest (entries : List Json) (name : String) (value : FeedbackValue) : Prop :=
  ∃ before entry after, entries = before ++ entry :: after ∧ Reports entry name value ∧
    ∀ later ∈ after, ∀ value, ¬ Reports later name value

/-- The feedback tells what the entries report: the names under which something is reported, in the
order of their first reports, with the values of their last ones. -/
structure Gathers (entries : List Json) (feedback : Fields FeedbackValue) : Prop where
  mem_names_iff : ∀ name, name ∈ feedback.names ↔ ∃ entry ∈ entries, ∃ value, Reports entry name value
  ordered : feedback.names.Pairwise (Precedes entries)
  get?_eq_some_iff : ∀ name value, feedback.get? name = some value ↔ IsLatest entries name value

section Entries

variable {entries : List Json} {entry : Json} {name other : String} {value : FeedbackValue}
  {feedback next : Fields FeedbackValue}

theorem Reports.unique {value' : FeedbackValue} (h : Reports entry name value)
    (h' : Reports entry other value') : name = other ∧ value = value' := by
  have hname := h.named.symm.trans h'.named
  have hvalue := h.decoded.symm.trans h'.decoded
  cases hname
  cases hvalue
  exact ⟨rfl, rfl⟩

/-- An entry that is stored reports what is put under its name, or reports nothing. -/
theorem store_eq_ok (h : store feedback entry = .ok next) :
    (∃ name value, Reports entry name value ∧ next = feedback.put name value) ∨
      (∀ name value, ¬ Reports entry name value) ∧ next = feedback := by
  unfold store at h
  split at h
  · rename_i name members hname hmembers
    obtain ⟨decoded, hdecoded, h⟩ := bind_eq_ok_iff.mp h
    rw [← hmembers] at hdecoded
    cases decoded with
    | some value =>
      cases h
      exact .inl ⟨name, value, ⟨hname, by rw [hmembers]; rfl, hdecoded⟩, rfl⟩
    | none =>
      cases h
      refine .inr ⟨fun name value hreports => ?_, rfl⟩
      have := hdecoded.symm.trans hreports.decoded
      cases this
  · rename_i hneither
    cases h
    refine .inr ⟨fun name value hreports => ?_, rfl⟩
    obtain ⟨members, hmembers⟩ := Json.exists_of_isObject hreports.isObject
    exact hneither name members hreports.named hmembers

theorem exists_reports_concat_iff :
    (∃ report ∈ entries ++ [entry], ∃ value, Reports report name value) ↔
      (∃ report ∈ entries, ∃ value, Reports report name value) ∨ ∃ value, Reports entry name value := by
  simp only [List.mem_append, List.mem_singleton, or_and_right, exists_or, exists_eq_left]

theorem Precedes.concat (h : Precedes entries name other) (entry : Json) :
    Precedes (entries ++ [entry]) name other := by
  obtain ⟨hne, before, report, after, value, rfl, hreport, hbefore⟩ := h
  exact ⟨hne, before, report, after ++ [entry], value, by simp, hreport, hbefore⟩

theorem precedes_of_new (hnamed : ∃ report ∈ entries, ∃ value, Reports report name value)
    (hnew : ∀ report ∈ entries, ∀ value, ¬ Reports report other value) (entry : Json) :
    Precedes (entries ++ [entry]) name other := by
  obtain ⟨report, hmem, value, hreport⟩ := hnamed
  have hne : name ≠ other := by
    rintro rfl
    exact hnew report hmem value hreport
  obtain ⟨before, after, rfl⟩ := List.append_of_mem hmem
  refine Precedes.concat ⟨hne, before, report, after, value, rfl, hreport, fun earlier hearlier => ?_⟩ entry
  exact hnew earlier (List.mem_append_left _ hearlier)

theorem isLatest_concat_iff :
    IsLatest (entries ++ [entry]) name value ↔
      Reports entry name value ∨
        (∀ value, ¬ Reports entry name value) ∧ IsLatest entries name value := by
  constructor
  · rintro ⟨before, report, after, hsplit, hreport, hafter⟩
    rcases List.eq_nil_or_concat after with rfl | ⟨init, last, rfl⟩
    · obtain ⟨-, hlast⟩ := List.append_inj' hsplit rfl
      cases hlast
      exact .inl hreport
    · rw [List.concat_eq_append] at hsplit hafter
      rw [← List.cons_append, ← List.append_assoc] at hsplit
      obtain ⟨rfl, hlast⟩ := List.append_inj' hsplit rfl
      cases hlast
      refine .inr ⟨hafter _ (List.mem_append_right _ (List.mem_singleton_self _)), ?_⟩
      exact ⟨before, report, init, rfl, hreport, fun later hlater =>
        hafter later (List.mem_append_left _ hlater)⟩
  · rintro (hreport | ⟨hentry, before, report, after, rfl, hreport, hafter⟩)
    · exact ⟨entries, entry, [], rfl, hreport, by simp⟩
    · refine ⟨before, report, after ++ [entry], by simp, hreport, fun later hlater => ?_⟩
      rcases List.mem_append.mp hlater with hlater | hlater
      · exact hafter later hlater
      · rw [List.mem_singleton.mp hlater]
        exact hentry

theorem gathers_nil : Gathers [] [] where
  mem_names_iff name := by simp [Fields.names]
  ordered := .nil
  get?_eq_some_iff name value := by
    constructor
    · intro hget
      cases hget
    · rintro ⟨before, entry, after, hsplit, -⟩
      cases before <;> cases hsplit

/-- An entry that reports something: its name comes last if it is new, and its value counts. -/
theorem Gathers.put (h : Gathers entries feedback) (hreports : Reports entry name value) :
    Gathers (entries ++ [entry]) (feedback.put name value) where
  mem_names_iff other := by
    have hentry : (∃ value, Reports entry other value) ↔ other = name :=
      ⟨fun ⟨_, hother⟩ => (hother.unique hreports).1, fun hother => ⟨value, hother ▸ hreports⟩⟩
    rw [exists_reports_concat_iff, hentry, ← h.mem_names_iff, Fields.names_put]
    split
    · rename_i hmem
      exact ⟨Or.inl, fun hother => hother.elim id fun hother => hother ▸ hmem⟩
    · rw [List.mem_append, List.mem_singleton]
  ordered := by
    have hordered := h.ordered.imp fun hprecedes => Precedes.concat hprecedes entry
    rw [Fields.names_put]
    split
    · exact hordered
    · rename_i hnew
      -- Nothing was reported so far under a name that is put behind the others.
      refine List.pairwise_append.mpr ⟨hordered, List.pairwise_singleton _ _, ?_⟩
      intro other hother last hlast
      rw [List.mem_singleton.mp hlast]
      refine precedes_of_new ((h.mem_names_iff other).mp hother) (fun report hmem value hname => ?_) entry
      exact hnew ((h.mem_names_iff name).mpr ⟨report, hmem, value, hname⟩)
  get?_eq_some_iff other found := by
    rw [isLatest_concat_iff]
    by_cases hname : name = other
    · subst hname
      rw [Fields.get?_put_self, Option.some_inj]
      constructor
      · rintro rfl
        exact .inl hreports
      · rintro (hfound | ⟨hentry, -⟩)
        · exact (hreports.unique hfound).2
        · exact absurd hreports (hentry value)
    · have hentry : ∀ found, ¬ Reports entry other found :=
        fun found hfound => hname (hreports.unique hfound).1
      rw [Fields.get?_put_of_ne hname, h.get?_eq_some_iff]
      exact ⟨fun hlatest => .inr ⟨hentry, hlatest⟩,
        fun hlatest => hlatest.elim (fun hfound => absurd hfound (hentry found)) And.right⟩

theorem Gathers.skip (h : Gathers entries feedback)
    (hnothing : ∀ name value, ¬ Reports entry name value) :
    Gathers (entries ++ [entry]) feedback where
  mem_names_iff other := by
    rw [exists_reports_concat_iff, ← h.mem_names_iff]
    exact (or_iff_left fun ⟨value, hreports⟩ => hnothing other value hreports).symm
  ordered := h.ordered.imp fun hprecedes => Precedes.concat hprecedes entry
  get?_eq_some_iff other found := by
    rw [isLatest_concat_iff, h.get?_eq_some_iff]
    exact ⟨fun hlatest => .inr ⟨hnothing other, hlatest⟩,
      fun hlatest => hlatest.elim (fun hfound => absurd hfound (hnothing other found)) And.right⟩

theorem Gathers.store (h : Gathers entries feedback) (hstore : store feedback entry = .ok next) :
    Gathers (entries ++ [entry]) next := by
  rcases store_eq_ok hstore with ⟨name, value, hreports, rfl⟩ | ⟨hnothing, rfl⟩
  · exact h.put hreports
  · exact h.skip hnothing

theorem gathers_of_foldlM (h : entries.foldlM store [] = .ok feedback) : Gathers entries feedback := by
  induction entries using List.reverseRecOn generalizing feedback with
  | nil =>
    cases h
    exact gathers_nil
  | append_singleton entries entry ih =>
    rw [List.foldlM_append] at h
    obtain ⟨before, hbefore, hentry⟩ := bind_eq_ok_iff.mp h
    simp only [List.foldlM_cons, List.foldlM_nil, bind_pure] at hentry
    exact (ih hbefore).store hentry

end Entries

end FeedbackValue

open FeedbackValue

namespace ResourceStatus

/-- Where a path of names leads from a value: to null where a name is missing or the value that it
is looked up in is no object. -/
inductive Leads : Json → List String → Json → Prop
  | here (value : Json) : Leads value [] value
  | member {members : List (String × Json)} {name : String} {rest : List String}
      {value result : Json} (found : Fields.get? name members = some value)
      (leads : Leads value rest result) : Leads (.obj members) (name :: rest) result
  | missing {members : List (String × Json)} {name : String} {rest : List String}
      (missing : Fields.get? name members = none) : Leads (.obj members) (name :: rest) .null
  | noObject {value : Json} {name : String} {rest : List String}
      (noObject : value.isObject = false) : Leads value (name :: rest) .null

theorem descend_null (path : List String) : descend .null path = .null := by
  induction path with
  | nil => rfl
  | cons name rest ih => exact ih

theorem Leads.descend_eq {value result : Json} {path : List String} (h : Leads value path result) :
    descend value path = result := by
  induction h with
  | here value => rfl
  | @member members name rest value result found _ ih =>
    change descend (((Json.obj members).get? name).getD .null) rest = result
    rw [Json.get?, found]
    exact ih
  | @missing members name rest missing =>
    change descend (((Json.obj members).get? name).getD .null) rest = .null
    rw [Json.get?, missing]
    exact descend_null rest
  | @noObject value name rest noObject =>
    change descend (value.get name) rest = .null
    rw [Json.get_of_not_isObject noObject]
    exact descend_null rest

theorem leads_descend (value : Json) (path : List String) : Leads value path (descend value path) := by
  induction path generalizing value with
  | nil => exact .here value
  | cons name rest ih =>
    cases value with
    | obj members =>
      change Leads _ _ (descend (((Json.obj members).get? name).getD .null) rest)
      rw [Json.get?]
      cases hfound : Fields.get? name members with
      | some value => exact .member hfound (ih value)
      | none =>
        rw [Option.getD_none, descend_null]
        exact .missing hfound
    | _ =>
      change Leads _ _ (descend .null rest)
      rw [descend_null]
      exact .noObject rfl

theorem descend_eq_iff {value result : Json} {path : List String} :
    descend value path = result ↔ Leads value path result :=
  ⟨fun h => h ▸ leads_descend value path, Leads.descend_eq⟩

theorem segments_intercalate {parts : List String} (hne : parts ≠ [])
    (h : ∀ part ∈ parts, '.' ∉ part.toList) : segments (".".intercalate parts) = parts := by
  unfold segments
  rw [Text.pieces_intercalate rfl hne h, List.map_map]
  exact List.map_id'' (fun _ => String.ofList_toList) parts

/-- The entries of the list of feedback in the report about a resource. -/
def entriesOf (report : Json) : List Json :=
  ((report.get "statusFeedback").get "values").itemsOrNone

theorem gathers_of_ofJson {report : Json} {resource : ResourceStatus}
    (h : ofJson report = .ok resource) : Gathers (entriesOf report) resource.feedback := by
  obtain ⟨feedback, hfeedback, hresource⟩ := bind_eq_ok_iff.mp h
  cases hresource
  exact gathers_of_foldlM hfeedback

/-- The feedback of a resource that can be read has the names that are reported, each at the place
of its first report and with the value of its last one. A path of names without points leads from
the value of the first name as the other names say, and to null if nothing is reported under the
first one. -/
theorem feedback_of_ofJson {report : Json} {resource : ResourceStatus}
    (h : ofJson report = .ok resource) :
    Gathers (entriesOf report) resource.feedback ∧
      ∀ first rest, (∀ name ∈ first :: rest, '.' ∉ name.toList) →
        (∀ value result, IsLatest (entriesOf report) first value →
          (resource.resolve (".".intercalate (first :: rest)) = result ↔
            Leads value.toJson rest result)) ∧
        ((∀ entry ∈ entriesOf report, ∀ value, ¬ Reports entry first value) →
          resource.resolve (".".intercalate (first :: rest)) = .null) := by
  have hgathers := gathers_of_ofJson h
  refine ⟨hgathers, fun first rest hnames => ?_⟩
  unfold resolve
  rw [segments_intercalate (List.cons_ne_nil first rest) hnames]
  dsimp only
  constructor
  · intro value result hlatest
    rw [(hgathers.get?_eq_some_iff first value).mpr hlatest]
    exact descend_eq_iff
  · intro hnothing
    rw [Fields.get?_of_not_mem]
    intro hmem
    obtain ⟨entry, hentry, value, hreports⟩ := (hgathers.mem_names_iff first).mp hmem
    exact hnothing entry hentry value hreports

/-- A name that is reported three times, the last time without a value. -/
theorem feedback_of_ofJson_repeated :
    let entry (name : String) (field : List (String × Json)) : Json :=
      .obj [("name", .str name), ("fieldValue", .obj field)]
    let report : Json := .obj [("statusFeedback", .obj [("values", .arr [
      entry "doc" [("integer", .int 1)], entry "state" [("string", .str "up")],
      entry "doc" [("jsonRaw", .str "\x7b\"a\":5\x7d")], entry "doc" []])])]
    ∃ resource, ofJson report = .ok resource ∧ Gathers (entriesOf report) resource.feedback ∧
      resource.feedback.names = ["doc", "state"] ∧ resource.resolve "doc.a" = .int 5 ∧
      resource.resolve "doc.a.b" = .null ∧ resource.resolve "ready.a" = .null := by
  intro entry report
  let document : FeedbackValue := .document (.obj [("a", .int 5)])
  let given := entry "doc" [("jsonRaw", .str "\x7b\"a\":5\x7d")]
  have hdecoded : ofField (given.get "fieldValue") = .ok (some document) := by
    have hparse : Json.parse "\x7b\"a\":5\x7d" = .ok (.obj [("a", .int 5)]) := by
      rw [Json.parse, (by decide : "\x7b\"a\":5\x7d".toList = ['{', '"', 'a', '"', ':', '5', '}'])]
      rfl
    change (ofRaw "\x7b\"a\":5\x7d").map some = .ok (some document)
    rw [ofRaw, hparse]
    rfl
  have hstore : store [("doc", .integer 1), ("state", .text "up")] given =
      .ok [("doc", document), ("state", .text "up")] := by
    change (ofField (given.get "fieldValue") >>= _) = _
    rw [hdecoded]
    rfl
  have hgathered : (entriesOf report).foldlM store [] =
      .ok [("doc", document), ("state", .text "up")] := by
    have hentries : entriesOf report = [entry "doc" [("integer", .int 1)],
      entry "state" [("string", .str "up")]] ++ [given, entry "doc" []] := rfl
    have hbefore : [entry "doc" [("integer", .int 1)], entry "state" [("string", .str "up")]].foldlM
        store [] = .ok [("doc", .integer 1), ("state", .text "up")] := rfl
    rw [hentries, List.foldlM_append]
    refine bind_eq_ok_iff.mpr ⟨_, hbefore, ?_⟩
    rw [List.foldlM_cons]
    exact bind_eq_ok_iff.mpr ⟨_, hstore, rfl⟩
  have hread : ofJson report = .ok
      ⟨"", "", "", "", "", "", [], [("doc", document), ("state", .text "up")]⟩ :=
    bind_eq_ok_iff.mpr ⟨_, hgathered, rfl⟩
  obtain ⟨hgathers, hpaths⟩ := feedback_of_ofJson hread
  have hlatest : IsLatest (entriesOf report) "doc" document := by
    refine ⟨[_, _], given, [_], rfl, ⟨rfl, rfl, hdecoded⟩, ?_⟩
    intro later hlater value hreports
    rw [List.mem_singleton.mp hlater] at hreports
    cases hreports.decoded
  refine ⟨_, hread, hgathers, rfl, ?_, ?_, ?_⟩
  · exact ((hpaths "doc" ["a"] (by decide)).1 document _ hlatest).mpr (.member rfl (.here _))
  · exact ((hpaths "doc" ["a", "b"] (by decide)).1 document _ hlatest).mpr
      (.member rfl (.noObject rfl))
  · refine (hpaths "ready" ["a"] (by decide)).2 fun entry hentry value hreports => ?_
    have hmem := (hgathers.mem_names_iff "ready").mpr ⟨entry, hentry, value, hreports⟩
    exact absurd hmem (by simp [Fields.names])

end ResourceStatus

end WorkWatch
