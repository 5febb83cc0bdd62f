import Mathlib.Data.List.Sort
import WorkWatch.Json.Writer

/-! Documents with the members of every object in the order of their names. Sorting gives such a
document, leaves one alone, and does not see in which order the members stood before. -/

namespace WorkWatch.Json

/-- The order of members by their names. -/
def ByName (a b : String × Json) : Prop := a.1 ≤ b.1

instance : DecidableRel ByName := fun a b => inferInstanceAs (Decidable (a.1 ≤ b.1))

instance : Std.Total ByName := ⟨fun a b => String.le_total a.1 b.1⟩

instance : IsTrans (String × Json) ByName := ⟨fun _ _ _ => String.le_trans⟩

theorem insertMember_eq (entry : String × Json) (members : List (String × Json)) :
    insertMember entry members = members.orderedInsert ByName entry := by
  induction members with
  | nil => rfl
  | cons first rest ih =>
    rw [insertMember, List.orderedInsert_cons, ih]
    rfl

def sortedMember (member : String × Json) : String × Json := (member.1, member.2.sorted)

theorem sortedItems_eq (items : List Json) : sortedItems items = items.map sorted := by
  induction items with
  | nil => rfl
  | cons first rest ih => rw [sortedItems, ih, List.map_cons]

theorem sortedMembers_eq (members : List (String × Json)) :
    sortedMembers members = (members.map sortedMember).insertionSort ByName := by
  induction members with
  | nil => rfl
  | cons first rest ih =>
    rw [sortedMembers, insertMember_eq, ih, List.map_cons, List.insertionSort_cons]
    rfl

theorem names_map_sortedMember (members : List (String × Json)) :
    Fields.names (members.map sortedMember) = Fields.names members := by
  unfold Fields.names
  rw [List.map_map]
  rfl

/-- Members with different names have one order by names. -/
theorem insertionSort_eq_of_perm {members members' : List (String × Json)}
    (hnames : (Fields.names members).Nodup) (hperm : members.Perm members') :
    members.insertionSort ByName = members'.insertionSort ByName := by
  have hsorted := List.perm_insertionSort ByName members
  have hsorted' := List.perm_insertionSort ByName members'
  refine (hsorted.trans (hperm.trans hsorted'.symm)).eq_of_pairwise ?_
    (List.pairwise_insertionSort ByName _) (List.pairwise_insertionSort ByName _)
  intro a b ha hb hab hba
  exact List.inj_on_of_nodup_map hnames (hsorted.subset ha) (hperm.symm.subset (hsorted'.subset hb))
    (String.le_antisymm hab hba)

mutual
/-- The values differ at most in the order of the members of objects, at any depth. An object that
is reordered has each of its names once. -/
inductive Reordered : Json → Json → Prop
  | refl (value : Json) : Reordered value value
  | arr {items items' : List Json} : ReorderedItems items items' →
      Reordered (.arr items) (.arr items')
  | obj {members between members' : List (String × Json)} : (Fields.names members).Nodup →
      ReorderedMembers members between → between.Perm members' →
      Reordered (.obj members) (.obj members')

/-- Item by item the values differ at most in the order of members. -/
inductive ReorderedItems : List Json → List Json → Prop
  | nil : ReorderedItems [] []
  | cons {first first' : Json} {rest rest' : List Json} : Reordered first first' →
      ReorderedItems rest rest' → ReorderedItems (first :: rest) (first' :: rest')

/-- Member by member the names are the same, and the values differ at most in the order of
members. -/
inductive ReorderedMembers : List (String × Json) → List (String × Json) → Prop
  | nil : ReorderedMembers [] []
  | cons {name : String} {first first' : Json} {rest rest' : List (String × Json)} :
      Reordered first first' → ReorderedMembers rest rest' →
      ReorderedMembers ((name, first) :: rest) ((name, first') :: rest')
end

mutual
theorem Reordered.sorted_eq {v w : Json} : Reordered v w → v.sorted = w.sorted
  | .refl _ => rfl
  | .arr hitems => by rw [sorted, sorted, hitems.sortedItems_eq]
  | @Reordered.obj _ between _ hnames hmembers hperm => by
    have hsame := hmembers.map_sortedMember_eq
    have hbetween : (Fields.names (between.map sortedMember)).Nodup := by
      rwa [← hsame, names_map_sortedMember]
    rw [sorted, sorted, sortedMembers_eq, sortedMembers_eq, hsame,
      insertionSort_eq_of_perm hbetween (hperm.map sortedMember)]

theorem ReorderedItems.sortedItems_eq {items items' : List Json} :
    ReorderedItems items items' → sortedItems items = sortedItems items'
  | .nil => rfl
  | .cons hfirst hrest => by
    rw [sortedItems, sortedItems, hfirst.sorted_eq, hrest.sortedItems_eq]

theorem ReorderedMembers.map_sortedMember_eq {members members' : List (String × Json)} :
    ReorderedMembers members members' → members.map sortedMember = members'.map sortedMember
  | .nil => rfl
  | .cons hfirst hrest => by
    rw [List.map_cons, List.map_cons, hrest.map_sortedMember_eq, sortedMember, hfirst.sorted_eq]
    rfl
end

mutual
/-- In every object inside the value the members stand in the order of their names. -/
def InOrder : Json → Prop
  | .arr items => ItemsInOrder items
  | .obj members => members.Pairwise ByName ∧ MembersInOrder members
  | _ => True

def ItemsInOrder : List Json → Prop
  | [] => True
  | first :: rest => first.InOrder ∧ ItemsInOrder rest

def MembersInOrder : List (String × Json) → Prop
  | [] => True
  | (_, first) :: rest => first.InOrder ∧ MembersInOrder rest
end

mutual
theorem sorted_of_inOrder : ∀ {value : Json}, value.InOrder → value.sorted = value
  | .null, _ => rfl
  | .bool _, _ => rfl
  | .int _, _ => rfl
  | .float _, _ => rfl
  | .str _, _ => rfl
  | .arr items, h => by rw [sorted, sortedItems_of_inOrder h]
  | .obj members, ⟨hnames, hmembers⟩ => by
    rw [sorted, sortedMembers_eq, map_sortedMember_of_inOrder hmembers, hnames.insertionSort_eq]

theorem sortedItems_of_inOrder : ∀ {items : List Json}, ItemsInOrder items →
    sortedItems items = items
  | [], _ => rfl
  | _ :: _, ⟨hfirst, hrest⟩ => by
    rw [sortedItems, sorted_of_inOrder hfirst, sortedItems_of_inOrder hrest]

theorem map_sortedMember_of_inOrder : ∀ {members : List (String × Json)}, MembersInOrder members →
    members.map sortedMember = members
  | [], _ => rfl
  | (_, _) :: _, ⟨hfirst, hrest⟩ => by
    rw [List.map_cons, sortedMember, sorted_of_inOrder hfirst, map_sortedMember_of_inOrder hrest]
end

end WorkWatch.Json
