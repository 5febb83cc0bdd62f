import Mathlib.Data.List.Induction
import Mathlib.Data.List.SplitBy
import WorkWatch.Recording
import WorkWatch.Proofs.Text.Split

/-! Which snapshots of a watched work are printed. A snapshot is printed if its version or the text of
its states is not that of the one before. So only changes are printed; but a change is overlooked
where two different lists of states have one text, because a name looks like a separator, or because
states move between neighbouring resources of the same kind and name. -/

namespace WorkWatch

namespace Report

/-- A function that tells apart what has some property tells apart lists of it. -/
theorem map_inj_of_forall {α β : Type} {f : α → β} {P : α → Prop}
    (hf : ∀ a b, P a → P b → f a = f b → a = b) {as bs : List α} (has : ∀ a ∈ as, P a)
    (hbs : ∀ b ∈ bs, P b) (h : as.map f = bs.map f) : as = bs := by
  induction as generalizing bs with
  | nil => exact (List.map_eq_nil_iff.mp h.symm).symm
  | cons a as ih =>
    cases bs with
    | nil => cases h
    | cons b bs =>
      obtain ⟨ha, has⟩ := List.forall_mem_cons.mp has
      obtain ⟨hb, hbs⟩ := List.forall_mem_cons.mp hbs
      obtain ⟨hhead, htail⟩ := List.cons.inj h
      rw [hf a b ha hb hhead, ih has hbs htail]

section Groups

variable {κ α : Type}

def members (group : κ × List α) : List (κ × α) := group.2.map (Prod.mk group.1)

/-- A list in which every group has become its members. -/
def ungroup (groups : List (κ × List α)) : List (κ × α) := groups.flatMap members

theorem map_snd_members (group : κ × List α) : (members group).map Prod.snd = group.2 := by
  unfold members
  rw [List.map_map]
  exact List.map_id _

theorem fst_of_mem_members {group : κ × List α} {member : κ × α} (h : member ∈ members group) :
    member.1 = group.1 := by
  obtain ⟨value, -, rfl⟩ := List.mem_map.mp h
  rfl

theorem members_inj {group group' : κ × List α} (hfilled : group.2 ≠ [])
    (h : members group = members group') : group = group' := by
  have hvalues := congrArg (List.map Prod.snd) h
  rw [map_snd_members, map_snd_members] at hvalues
  obtain ⟨key, values⟩ := group
  obtain ⟨key', values'⟩ := group'
  cases hvalues
  cases values with
  | nil => exact absurd rfl hfilled
  | cons first rest =>
    obtain ⟨hfirst, -⟩ := List.cons.inj h
    exact congrArg (fun key => (key, first :: rest)) (Prod.mk.inj hfirst).1

/-- Cutting the members where their key changes gives the groups back. -/
theorem splitBy_ungroup [DecidableEq κ] {groups : List (κ × List α)}
    (hfilled : ∀ group ∈ groups, group.2 ≠ []) (hapart : groups.IsChain fun a b => a.1 ≠ b.1) :
    (ungroup groups).splitBy (fun a b => a.1 == b.1) = groups.map members := by
  have hmembers : ∀ group ∈ groups, members group ≠ [] := fun group hgroup hnil =>
    hfilled group hgroup (List.map_eq_nil_iff.mp hnil)
  unfold ungroup
  rw [List.flatMap_def]
  refine List.splitBy_flatten ?_ ?_ ?_
  · intro hempty
    obtain ⟨group, hgroup, hnil⟩ := List.mem_map.mp hempty
    exact hmembers group hgroup hnil
  · intro row hrow
    obtain ⟨group, -, rfl⟩ := List.mem_map.mp hrow
    unfold members
    rw [List.isChain_map]
    exact (List.pairwise_of_forall fun _ _ => beq_self_eq_true group.1).isChain
  · rw [List.isChain_map]
    refine hapart.imp_of_mem_imp fun a b ha hb hne => ⟨hmembers a ha, hmembers b hb, ?_⟩
    rw [fst_of_mem_members (List.getLast_mem (hmembers a ha)),
      fst_of_mem_members (List.head_mem (hmembers b hb))]
    exact beq_eq_false_iff_ne.mpr hne

/-- Groups that are not empty, with another key next to each, are told by the list of all members. -/
theorem ungroup_inj [DecidableEq κ] {groups groups' : List (κ × List α)}
    (hfilled : ∀ group ∈ groups, group.2 ≠ []) (hapart : groups.IsChain fun a b => a.1 ≠ b.1)
    (hfilled' : ∀ group ∈ groups', group.2 ≠ []) (hapart' : groups'.IsChain fun a b => a.1 ≠ b.1)
    (h : ungroup groups = ungroup groups') : groups = groups' := by
  have hmembers : groups.map members = groups'.map members := by
    rw [← splitBy_ungroup hfilled hapart, h, splitBy_ungroup hfilled' hapart']
  exact map_inj_of_forall (fun _ _ hfilled _ => members_inj hfilled) hfilled hfilled' hmembers

end Groups

/-- The state of one condition: of which resource, if it is not one of the work itself, its type and
its status. -/
structure State where
  owner : Option (String × String)
  type : String
  status : ConditionStatus

namespace State

def text (state : State) : String :=
  match state.owner with
  | none => state.type ++ "=" ++ state.status.text
  | some (kind, name) => kind ++ "/" ++ name ++ ":" ++ (state.type ++ "=" ++ state.status.text)

/-- The names in the text do not look like its separators. -/
structure IsLegible (state : State) : Prop where
  type : ',' ∉ state.type.toList ∧ ':' ∉ state.type.toList
  owner : ∀ kind name, state.owner = some (kind, name) →
    ',' ∉ kind.toList ∧ '/' ∉ kind.toList ∧ ',' ∉ name.toList

theorem equals_not_mem_text (status : ConditionStatus) : '=' ∉ status.text.toList := by
  cases status <;> decide

theorem comma_not_mem_text (status : ConditionStatus) : ',' ∉ status.text.toList := by
  cases status <;> decide

theorem statusText_inj {status status' : ConditionStatus}
    (h : status.text.toList = status'.text.toList) : status = status' := by
  cases status <;> cases status' <;> first | rfl | exact absurd h (by decide)

def subject (state : State) : List Char :=
  match state.owner with
  | none => state.type.toList
  | some (kind, name) => kind.toList ++ '/' :: name.toList ++ ':' :: state.type.toList

theorem toList_text (state : State) :
    state.text.toList = state.subject ++ '=' :: state.status.text.toList := by
  obtain ⟨owner, type, status⟩ := state
  cases owner with
  | none => simp [text, subject, String.toList_append]
  | some owner => simp [text, subject, String.toList_append]

variable {state other : State}

theorem IsLegible.comma_not_mem (h : state.IsLegible) : ',' ∉ state.text.toList := by
  rw [toList_text, List.mem_append, List.mem_cons, not_or, not_or]
  refine ⟨?_, by decide, comma_not_mem_text state.status⟩
  obtain ⟨owner, type, status⟩ := state
  cases owner with
  | none => exact h.type.1
  | some owner =>
    obtain ⟨hkind, -, hname⟩ := h.owner owner.1 owner.2 rfl
    simp [subject, hkind, hname, h.type.1]

/-- Before the status stands the type, behind the last colon if there is one; before that the kind
ends at the first slash. -/
theorem IsLegible.subject_inj (h : state.IsLegible) (h' : other.IsLegible)
    (heq : state.subject = other.subject) :
    state.owner = other.owner ∧ state.type = other.type := by
  have hcolon : ':' ∉ state.type.toList ∧ ':' ∉ other.type.toList := ⟨h.type.2, h'.type.2⟩
  obtain ⟨owner, type, status⟩ := state
  obtain ⟨owner', type', status'⟩ := other
  cases owner with
  | none =>
    cases owner' with
    | none => exact ⟨rfl, String.toList_inj.mp heq⟩
    | some owner' =>
      -- The colon behind an owner would stand in the type of a condition without one.
      refine absurd ?_ hcolon.1
      change ':' ∈ subject ⟨none, type, status⟩
      rw [heq]
      simp [subject]
  | some owner =>
    cases owner' with
    | none =>
      refine absurd ?_ hcolon.2
      change ':' ∈ subject ⟨none, type', status'⟩
      rw [← heq]
      simp [subject]
    | some owner' =>
      obtain ⟨hdisplay, htype⟩ := Text.append_sep_inj_right hcolon.1 hcolon.2 heq
      obtain ⟨-, hkind, -⟩ := h.owner owner.1 owner.2 rfl
      obtain ⟨-, hkind', -⟩ := h'.owner owner'.1 owner'.2 rfl
      obtain ⟨hkinds, hnames⟩ := Text.append_sep_inj hkind hkind' hdisplay
      exact ⟨congrArg some (Prod.ext (String.toList_inj.mp hkinds) (String.toList_inj.mp hnames)),
        String.toList_inj.mp htype⟩

theorem IsLegible.text_inj (h : state.IsLegible) (h' : other.IsLegible)
    (heq : state.text = other.text) : state = other := by
  have htexts := congrArg String.toList heq
  rw [toList_text, toList_text] at htexts
  obtain ⟨hsubject, hstatus⟩ := Text.append_sep_inj_right (equals_not_mem_text state.status)
    (equals_not_mem_text other.status) htexts
  obtain ⟨howner, htype⟩ := h.subject_inj h' hsubject
  have hstatus := statusText_inj hstatus
  cases state
  cases other
  cases howner
  cases htype
  cases hstatus
  rfl

theorem text_ne_empty (state : State) : state.text ≠ "" := by
  intro hempty
  have htext := state.toList_text
  rw [hempty] at htext
  exact List.append_ne_nil_of_right_ne_nil _ (List.cons_ne_nil _ _) htext.symm

/-- Legible states are read back, as texts, from the text that they make together. -/
theorem pieces_intercalate_text {states : List State} (hne : states ≠ [])
    (h : ∀ state ∈ states, state.IsLegible) :
    Text.pieces ',' (",".intercalate (states.map text)).toList =
      states.map fun state => state.text.toList := by
  rw [Text.pieces_intercalate rfl (fun hnil => hne (List.map_eq_nil_iff.mp hnil)), List.map_map]
  · rfl
  · intro part hpart
    obtain ⟨state, hstate, rfl⟩ := List.mem_map.mp hpart
    exact (h state hstate).comma_not_mem

theorem intercalate_text_eq_empty_iff {states : List State}
    (h : ∀ state ∈ states, state.IsLegible) :
    ",".intercalate (states.map text) = "" ↔ states = [] := by
  constructor
  · intro hempty
    by_contra hne
    -- The one piece of the empty text would be the text of a state.
    have hpieces := pieces_intercalate_text hne h
    rw [hempty] at hpieces
    cases states with
    | nil => exact hne rfl
    | cons state states =>
      have htext : state.text.toList = [] := (List.cons.inj hpieces).1.symm
      exact text_ne_empty state (String.toList_inj.mp htext)
  · rintro rfl
    rfl

theorem intercalate_text_inj {states states' : List State} (h : ∀ state ∈ states, state.IsLegible)
    (h' : ∀ state ∈ states', state.IsLegible)
    (heq : ",".intercalate (states.map text) = ",".intercalate (states'.map text)) :
    states = states' := by
  by_cases hnil : states = []
  · rw [(intercalate_text_eq_empty_iff h).mpr hnil, eq_comm, intercalate_text_eq_empty_iff h'] at heq
    rw [hnil, heq]
  · have hnil' : states' ≠ [] := by
      intro hempty
      rw [hempty] at heq
      exact hnil ((intercalate_text_eq_empty_iff h).mp heq)
    have htexts : (states.map fun state => state.text.toList) =
        states'.map fun state => state.text.toList := by
      rw [← pieces_intercalate_text hnil h, ← pieces_intercalate_text hnil' h', heq]
    exact map_inj_of_forall (fun _ _ h h' htext => h.text_inj h' (String.toList_inj.mp htext)) h h'
      htexts

end State

def statesOf (conditions : List Condition) : List (String × ConditionStatus) :=
  conditions.map fun condition => (condition.type, condition.status)

/-- The resources that have conditions, each by kind and name, with the states of these. -/
def resourceStates (snapshot : Snapshot) : List ((String × String) × List (String × ConditionStatus)) :=
  (snapshot.resources.filter fun resource => !resource.conditions.isEmpty).map fun resource =>
    ((resource.kind, resource.name), statesOf resource.conditions)

/-- A snapshot differs from the one before in what a watch is to tell. -/
inductive Differs (before now : Snapshot) : Prop
  | version (h : now.version ≠ before.version)
  | conditions (h : statesOf now.conditions ≠ statesOf before.conditions)
  | resources (h : resourceStates now ≠ resourceStates before)

theorem not_differs_iff {before now : Snapshot} :
    ¬ Differs before now ↔ now.version = before.version ∧
      statesOf now.conditions = statesOf before.conditions ∧ resourceStates now = resourceStates before := by
  constructor
  · intro h
    exact ⟨by_contra fun hne => h (.version hne), by_contra fun hne => h (.conditions hne),
      by_contra fun hne => h (.resources hne)⟩
  · rintro ⟨hversion, hconditions, hresources⟩ (h | h | h)
    · exact h hversion
    · exact h hconditions
    · exact h hresources

/-- The states of the conditions of a work itself. -/
def ownStates (snapshot : Snapshot) : List State :=
  (statesOf snapshot.conditions).map fun state => ⟨none, state.1, state.2⟩

/-- The states of the conditions of its resources, one resource after the other. -/
def reportedStates (snapshot : Snapshot) : List State :=
  (ungroup (resourceStates snapshot)).map fun state => ⟨some state.1, state.2.1, state.2.2⟩

def allStates (snapshot : Snapshot) : List State := ownStates snapshot ++ reportedStates snapshot

theorem reportedStates_eq (snapshot : Snapshot) :
    reportedStates snapshot = snapshot.resources.flatMap fun resource =>
      resource.conditions.map fun condition =>
        ⟨some (resource.kind, resource.name), condition.type, condition.status⟩ := by
  unfold reportedStates resourceStates
  induction snapshot.resources with
  | nil => rfl
  | cons resource resources ih =>
    rw [List.flatMap_cons, ← ih, List.filter_cons]
    -- A resource without conditions, which is filtered out, has no states to add.
    cases hconditions : resource.conditions with
    | nil => rfl
    | cons first rest =>
      simp [ungroup, members, statesOf, hconditions]

theorem states_of (snapshot : Snapshot) :
    (WatchKey.of snapshot).states = ",".intercalate ((allStates snapshot).map State.text) := by
  unfold WatchKey.of allStates
  dsimp only
  rw [List.map_append, reportedStates_eq, List.map_flatMap]
  congr 2
  · unfold ownStates statesOf
    rw [List.map_map, List.map_map]
    rfl
  · refine List.flatMap_congr fun resource _ => ?_
    rw [List.map_map]
    rfl

theorem filter_allStates (snapshot : Snapshot) :
    (allStates snapshot).filter (·.owner.isNone) = ownStates snapshot ∧
      (allStates snapshot).filter (·.owner.isSome) = reportedStates snapshot := by
  simp [allStates, ownStates, reportedStates, List.filter_map, Function.comp_def]

theorem ownStates_inj {before now : Snapshot} (h : ownStates now = ownStates before) :
    statesOf now.conditions = statesOf before.conditions := by
  refine List.map_injective_iff.mpr (fun state state' hstate => ?_) h
  obtain ⟨-, htype, hstatus⟩ := State.mk.inj hstate
  exact Prod.ext htype hstatus

theorem reportedStates_inj {before now : Snapshot} (h : reportedStates now = reportedStates before) :
    ungroup (resourceStates now) = ungroup (resourceStates before) := by
  refine List.map_injective_iff.mpr (fun state state' hstate => ?_) h
  obtain ⟨howner, htype, hstatus⟩ := State.mk.inj hstate
  exact Prod.ext (Option.some.inj howner) (Prod.ext htype hstatus)

theorem allStates_inj {before now : Snapshot} (h : allStates now = allStates before) :
    statesOf now.conditions = statesOf before.conditions ∧
      ungroup (resourceStates now) = ungroup (resourceStates before) := by
  obtain ⟨hown, hreported⟩ := filter_allStates now
  rw [h] at hown hreported
  obtain ⟨hown', hreported'⟩ := filter_allStates before
  exact ⟨ownStates_inj (hown.symm.trans hown'), reportedStates_inj (hreported.symm.trans hreported')⟩

/-- The names in the states of a snapshot do not look like the separators between them. -/
def IsLegible (snapshot : Snapshot) : Prop := ∀ state ∈ allStates snapshot, state.IsLegible

/-- Next to a resource with conditions stands one of another kind or name. -/
def IsApart (snapshot : Snapshot) : Prop := (resourceStates snapshot).IsChain fun a b => a.1 ≠ b.1

theorem key_congr {before now : Snapshot} (hversion : now.version = before.version)
    (hconditions : statesOf now.conditions = statesOf before.conditions)
    (hresources : ungroup (resourceStates now) = ungroup (resourceStates before)) :
    WatchKey.of now = WatchKey.of before := by
  have hstates : (WatchKey.of now).states = (WatchKey.of before).states := by
    rw [states_of, states_of, allStates, allStates, ownStates, ownStates, reportedStates,
      reportedStates, hconditions, hresources]
  unfold WatchKey.of at hstates ⊢
  rw [hversion, WatchKey.mk.injEq]
  exact ⟨rfl, hstates⟩

theorem differs_of_key_ne {before now : Snapshot} (h : WatchKey.of now ≠ WatchKey.of before) :
    Differs before now := by
  by_contra hsame
  obtain ⟨hversion, hconditions, hresources⟩ := not_differs_iff.mp hsame
  exact h (key_congr hversion hconditions (congrArg ungroup hresources))

/-- Of legible snapshots the keys tell everything but where the states of one resource end and those
of the next one begin. -/
theorem key_eq_iff {before now : Snapshot} (hbefore : IsLegible before) (hnow : IsLegible now) :
    WatchKey.of now = WatchKey.of before ↔ now.version = before.version ∧
      statesOf now.conditions = statesOf before.conditions ∧
      ungroup (resourceStates now) = ungroup (resourceStates before) := by
  constructor
  · intro h
    have hstates := congrArg WatchKey.states h
    rw [states_of, states_of] at hstates
    exact ⟨congrArg WatchKey.version h, allStates_inj (State.intercalate_text_inj hnow hbefore hstates)⟩
  · rintro ⟨hversion, hconditions, hresources⟩
    exact key_congr hversion hconditions hresources

theorem resourceStates_ne_nil (snapshot : Snapshot) :
    ∀ group ∈ resourceStates snapshot, group.2 ≠ [] := by
  intro group hgroup
  obtain ⟨resource, hresource, rfl⟩ := List.mem_map.mp hgroup
  have hconditions := (List.mem_filter.mp hresource).2
  intro hnil
  rw [List.map_eq_nil_iff.mp hnil] at hconditions
  cases hconditions

theorem key_ne_iff_differs {before now : Snapshot} (hbefore : IsLegible before)
    (hnow : IsLegible now) (hapart : IsApart before) (hapart' : IsApart now) :
    WatchKey.of now ≠ WatchKey.of before ↔ Differs before now := by
  refine ⟨differs_of_key_ne, fun hdiffers hkey => ?_⟩
  obtain ⟨hversion, hconditions, hmembers⟩ := (key_eq_iff hbefore hnow).mp hkey
  have hresources := ungroup_inj (resourceStates_ne_nil now) hapart' (resourceStates_ne_nil before)
    hapart hmembers
  exact not_differs_iff.mpr ⟨hversion, hconditions, hresources⟩ hdiffers

structure Sighting where
  now : Float
  snapshot : Snapshot
  met : Bool

end Report

namespace Session

open Report

def sight (session : Session) (sighting : Sighting) : Session :=
  (session.printChange sighting.now sighting.snapshot sighting.met).2

/-- The session after snapshots that are handed over one after the other. -/
def watched (session : Session) (sightings : List Sighting) : Session :=
  sightings.foldl sight session

def Prints (session : Session) (sighting : Sighting) : Prop :=
  (session.sight sighting).printed = session.printed ++ [Text.withoutControl
    (watchLine (.ofSeconds (session.wallSeconds sighting.now)) sighting.snapshot)]

theorem sight_of_news {session : Session} {sighting : Sighting}
    (h : session.seen ≠ some (WatchKey.of sighting.snapshot)) :
    session.Prints sighting ∧
      (session.sight sighting).seen = some (WatchKey.of sighting.snapshot) := by
  have hnews : isNews session.seen sighting.snapshot = true := bne_iff_ne.mpr h
  unfold Prints sight printChange
  rw [if_pos hnews]
  exact ⟨rfl, rfl⟩

theorem sight_of_seen {session : Session} {sighting : Sighting}
    (h : session.seen = some (WatchKey.of sighting.snapshot)) : session.sight sighting = session := by
  have hnews : ¬ isNews session.seen sighting.snapshot = true := fun hne => bne_iff_ne.mp hne h
  unfold sight printChange
  rw [if_neg hnews]

theorem prints_iff (session : Session) (sighting : Sighting) :
    session.Prints sighting ↔ session.seen ≠ some (WatchKey.of sighting.snapshot) := by
  refine ⟨fun hprints hseen => ?_, fun h => (sight_of_news h).1⟩
  unfold Prints at hprints
  rw [sight_of_seen hseen] at hprints
  cases List.self_eq_append_right.mp hprints

theorem seen_sight (session : Session) (sighting : Sighting) :
    (session.sight sighting).seen = some (WatchKey.of sighting.snapshot) := by
  by_cases h : session.seen = some (WatchKey.of sighting.snapshot)
  · rw [sight_of_seen h, h]
  · exact (sight_of_news h).2

/-- What was handed over last is what was seen, printed or not. -/
theorem seen_watched {session : Session} (hfresh : session.seen = none)
    (sightings : List Sighting) : (session.watched sightings).seen =
      sightings.getLast?.map fun last => WatchKey.of last.snapshot := by
  rcases List.eq_nil_or_concat sightings with rfl | ⟨earlier, last, rfl⟩
  · exact hfresh
  · rw [List.concat_eq_append, List.getLast?_append_cons]
    unfold watched
    rw [List.foldl_append]
    exact seen_sight _ last

theorem watched_prints_iff {session : Session} (hfresh : session.seen = none)
    (earlier : List Sighting) (now : Sighting) :
    (session.watched earlier).Prints now ↔
      ∀ last ∈ earlier.getLast?, WatchKey.of now.snapshot ≠ WatchKey.of last.snapshot := by
  rw [prints_iff, seen_watched hfresh]
  cases earlier.getLast? with
  | none => simp
  | some last => simp [eq_comm]

/-- Every snapshot is printed or passed over. What is printed differs from the one before. Of legible
snapshots exactly those are printed that differ, but for states that move between neighbours of one
kind and name; so where there are no such neighbours, exactly those that differ. -/
theorem watched_prints_iff_differs {session : Session} (hfresh : session.seen = none)
    (earlier : List Sighting) (now : Sighting) :
    ((session.watched earlier).Prints now ∨
      (session.watched earlier).sight now = session.watched earlier) ∧
    ((session.watched earlier).Prints now →
      ∀ last ∈ earlier.getLast?, Differs last.snapshot now.snapshot) ∧
    ((∀ last ∈ earlier.getLast?, IsLegible last.snapshot ∧ IsLegible now.snapshot) →
      ((session.watched earlier).Prints now ↔ ∀ last ∈ earlier.getLast?,
        now.snapshot.version ≠ last.snapshot.version ∨
        statesOf now.snapshot.conditions ≠ statesOf last.snapshot.conditions ∨
        ungroup (resourceStates now.snapshot) ≠ ungroup (resourceStates last.snapshot))) ∧
    ((∀ last ∈ earlier.getLast?, IsLegible last.snapshot ∧ IsLegible now.snapshot ∧
        IsApart last.snapshot ∧ IsApart now.snapshot) →
      ((session.watched earlier).Prints now ↔
        ∀ last ∈ earlier.getLast?, Differs last.snapshot now.snapshot)) := by
  have hprints := watched_prints_iff hfresh earlier now
  refine ⟨?_, ?_, ?_, ?_⟩
  · by_cases h : (session.watched earlier).seen = some (WatchKey.of now.snapshot)
    · exact Or.inr (sight_of_seen h)
    · exact Or.inl (sight_of_news h).1
  · intro h last hlast
    exact differs_of_key_ne (hprints.mp h last hlast)
  · intro hlegible
    rw [hprints]
    refine forall₂_congr fun last hlast => ?_
    obtain ⟨hbefore, hnow⟩ := hlegible last hlast
    rw [ne_eq, key_eq_iff hbefore hnow, not_and_or, not_and_or]
  · intro hclear
    rw [hprints]
    refine forall₂_congr fun last hlast => ?_
    obtain ⟨hbefore, hnow, hapart, hapart'⟩ := hclear last hlast
    exact key_ne_iff_differs hbefore hnow hapart hapart'

/-- A condition of a resource changes and is printed; the same snapshot once more is not. -/
theorem watched_prints_iff_differs_job :
    let session := Recording.session [] 0 (.obj [])
    let job (status : ConditionStatus) : Snapshot :=
      { id := "b-1", name := "web", consumer := "cluster1", version := 1, created := "",
        updated := "", manifests := [], conditions := [⟨"Applied", .yes, "", "", ""⟩],
        resources := [⟨"Job", "pi", "", "", "", "", [⟨"Complete", status, "", "", ""⟩], []⟩],
        deleteOption := "" }
    let before : Sighting := ⟨0, job .no, false⟩
    let after : Sighting := ⟨1, job .yes, true⟩
    (session.watched [before]).Prints after ∧ ¬ (session.watched [before, after]).Prints after := by
  intro session job before after
  have hlegible (status : ConditionStatus) : IsLegible (job status) := by
    intro state hstate
    rcases List.mem_cons.mp hstate with rfl | hstate
    · exact ⟨by decide, fun _ _ howner => by cases howner⟩
    · obtain rfl := List.mem_singleton.mp hstate
      have htype : ',' ∉ "Complete".toList ∧ ':' ∉ "Complete".toList := by decide
      have howner : ',' ∉ "Job".toList ∧ '/' ∉ "Job".toList ∧ ',' ∉ "pi".toList := by decide
      exact ⟨htype, fun _ _ h => by cases h; exact howner⟩
  have hapart (status : ConditionStatus) : IsApart (job status) := List.isChain_singleton _
  have hfresh : session.seen = none := rfl
  obtain ⟨-, -, -, hfirst⟩ := watched_prints_iff_differs hfresh [before] after
  obtain ⟨-, hagain, -, -⟩ := watched_prints_iff_differs hfresh [before, after] after
  constructor
  · refine (hfirst ?_).mpr ?_
    · rintro last ⟨⟩
      exact ⟨hlegible .no, hlegible .yes, hapart .no, hapart .yes⟩
    · rintro last ⟨⟩
      exact .resources (by decide)
  · intro hprints
    exact not_differs_iff.mpr ⟨rfl, rfl, rfl⟩ (hagain hprints after rfl)

/-- A type with a comma, a kind and name in a type, a condition that moves to a resource of the same
kind and name in another namespace: the snapshots differ, and nothing is printed. -/
theorem watched_overlooks :
    let session := Recording.session [] 0 (.obj [])
    let holds (type : String) : Condition := ⟨type, .yes, "", "", ""⟩
    let job (space : String) (types : List String) : ResourceStatus :=
      ⟨"Job", "pi", space, "", "", "", types.map holds, []⟩
    let snapshot (types : List String) (resources : List ResourceStatus) : Snapshot :=
      { id := "b-1", name := "web", consumer := "cluster1", version := 1, created := "",
        updated := "", manifests := [], conditions := types.map holds, resources,
        deleteOption := "" }
    let Overlooks (before now : Snapshot) : Prop :=
      Differs before now ∧ ¬ (session.watched [⟨0, before, false⟩]).Prints ⟨1, now, false⟩
    Overlooks (snapshot ["a", "b"] []) (snapshot ["a=True,b"] []) ∧
      Overlooks (snapshot [] [job "default" ["Complete"]]) (snapshot ["Job/pi:Complete"] []) ∧
      Overlooks (snapshot [] [job "default" ["a"], job "ops" ["b", "c"]])
        (snapshot [] [job "default" ["a", "b"], job "ops" ["c"]]) := by
  intro session holds job snapshot Overlooks
  have hfresh : session.seen = none := rfl
  have hoverlooks {before now : Snapshot} (hdiffers : Differs before now)
      (hkey : WatchKey.of now = WatchKey.of before) : Overlooks before now := by
    refine ⟨hdiffers, fun hprints => ?_⟩
    exact (watched_prints_iff hfresh _ _).mp hprints _ rfl hkey
  exact ⟨hoverlooks (.conditions (by decide)) (by decide), hoverlooks (.conditions (by decide))
    (by decide), hoverlooks (.resources (by decide)) (by decide)⟩

end Session

end WorkWatch
