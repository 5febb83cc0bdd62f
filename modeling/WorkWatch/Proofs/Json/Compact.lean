import WorkWatch.Proofs.Json.Sorted
import WorkWatch.Proofs.Json.Strings

/-! JSON text without blanks. Sorting the members of a document does not change the length of its
text, and it changes the text itself unless the members are in order already. -/

namespace WorkWatch.Json

/-- The characters of a value without blanks. -/
def text (value : Json) : List Char := Writer.value ⟨[], []⟩ value

def itemText (item : Json) : List Char := ',' :: item.text

def memberText (member : String × Json) : List Char :=
  ',' :: (Writer.string member.1 ++ ':' :: member.2.text)

theorem items_eq (items : List Json) : Writer.items ⟨[], []⟩ items = items.flatMap itemText := by
  induction items with
  | nil => rfl
  | cons first rest ih =>
    rw [Writer.items, ih]
    rfl

theorem members_eq (members : List (String × Json)) :
    Writer.members ⟨[], []⟩ members = members.flatMap memberText := by
  induction members with
  | nil => rfl
  | cons first rest ih =>
    rw [Writer.members, ih]
    simp [memberText, text]

theorem text_arr (items : List Json) :
    (Json.arr items).text = '[' :: ((items.flatMap itemText).tail ++ [']']) := by
  unfold text
  cases items with
  | nil => rfl
  | cons first rest =>
    rw [Writer.value, items_eq]
    simp [itemText, text]

theorem text_obj (members : List (String × Json)) :
    (Json.obj members).text = '\x7b' :: ((members.flatMap memberText).tail ++ ['\x7d']) := by
  unfold text
  cases members with
  | nil => rfl
  | cons first rest =>
    rw [Writer.value, members_eq]
    simp [memberText, text]

theorem flatMap_memberText_eq {members : List (String × Json)} (h : members ≠ []) :
    members.flatMap memberText = ',' :: (members.flatMap memberText).tail := by
  cases members with
  | nil => exact absurd rfl h
  | cons first rest => rfl

theorem length_flatMap_insertionSort (members : List (String × Json)) :
    ((members.insertionSort ByName).flatMap memberText).length =
      (members.flatMap memberText).length :=
  ((List.perm_insertionSort ByName members).flatMap_right memberText).length_eq

mutual
theorem length_text_sorted : ∀ value : Json, value.sorted.text.length = value.text.length
  | .null => rfl
  | .bool _ => rfl
  | .int _ => rfl
  | .float _ => rfl
  | .str _ => rfl
  | .arr items => by
    have hitems := length_items_sorted items
    rw [sorted, text_arr, text_arr]
    simp only [List.length_cons, List.length_append, List.length_tail, hitems]
  | .obj members => by
    have hmembers := length_members_sorted members
    rw [sorted, sortedMembers_eq, text_obj, text_obj]
    simp only [List.length_cons, List.length_append, List.length_tail, length_flatMap_insertionSort,
      hmembers]

theorem length_items_sorted : ∀ items : List Json,
    ((sortedItems items).flatMap itemText).length = (items.flatMap itemText).length
  | [] => rfl
  | first :: rest => by
    have hfirst := length_text_sorted first
    have hrest := length_items_sorted rest
    rw [sortedItems]
    simp only [List.flatMap_cons, List.length_append, itemText, List.length_cons, hfirst, hrest]

theorem length_members_sorted : ∀ members : List (String × Json),
    ((members.map sortedMember).flatMap memberText).length = (members.flatMap memberText).length
  | [] => rfl
  | (name, first) :: rest => by
    have hfirst := length_text_sorted first
    have hrest := length_members_sorted rest
    rw [List.map_cons]
    simp only [List.flatMap_cons, List.length_append, memberText, sortedMember, List.length_cons,
      hfirst, hrest]
end

theorem memberText_append_inj {a b : String × Json} {front back : List Char}
    (h : memberText a ++ front = memberText b ++ back) :
    a.1 = b.1 ∧ a.2.text ++ front = b.2.text ++ back := by
  unfold memberText at h
  rw [List.cons_append, List.cons_append, List.append_assoc, List.append_assoc] at h
  obtain ⟨hname, hrest⟩ := string_append_inj (List.cons.inj h).2
  exact ⟨hname, (List.cons.inj hrest).2⟩

theorem orderedInsert_eq_cons {entry : String × Json} {members : List (String × Json)}
    (h : ∀ member ∈ members, ByName entry member) :
    members.orderedInsert ByName entry = entry :: members := by
  cases members with
  | nil => rfl
  | cons first rest =>
    exact List.orderedInsert_cons_of_le ByName rest (h first List.mem_cons_self)

/-- If the text of sorted members begins with the text of the first member, that member has the
least name. -/
theorem insertionSort_eq_cons {entry : String × Json} {rest : List (String × Json)}
    (member : String × Json) {after : List Char} (hname : entry.1 = member.1)
    (h : ((entry :: rest).insertionSort ByName).flatMap memberText = memberText member ++ after) :
    (entry :: rest).insertionSort ByName = entry :: rest.insertionSort ByName := by
  have hperm := List.perm_insertionSort ByName (entry :: rest)
  have hsorted := List.pairwise_insertionSort ByName (entry :: rest)
  refine orderedInsert_eq_cons fun other hother => ?_
  have hmem : other ∈ (entry :: rest).insertionSort ByName :=
    hperm.symm.subset
      (List.mem_cons_of_mem entry ((List.perm_insertionSort ByName rest).subset hother))
  -- The text of the first sorted member begins with a name, and it is the name of the entry.
  cases hlist : (entry :: rest).insertionSort ByName with
  | nil =>
    rw [hlist] at hmem
    cases hmem
  | cons first later =>
    rw [hlist, List.flatMap_cons] at h
    rw [hlist] at hmem hsorted
    have hfirst : first.1 = entry.1 := (memberText_append_inj h).1.trans hname.symm
    unfold ByName
    rw [← hfirst]
    rcases List.mem_cons.mp hmem with rfl | hlater
    · exact String.le_refl _
    · exact List.rel_of_pairwise_cons hsorted hlater

mutual
theorem inOrder_of_text_eq : ∀ {value : Json}, value.sorted.text = value.text → value.InOrder
  | .null, _ => trivial
  | .bool _, _ => trivial
  | .int _, _ => trivial
  | .float _, _ => trivial
  | .str _, _ => trivial
  | .arr items, h => by
    rw [sorted, text_arr, text_arr] at h
    have htail := List.append_cancel_right (List.cons.inj h).2
    refine itemsInOrder_of_text_eq ?_
    cases items with
    | nil => rfl
    | cons first rest => exact congrArg (',' :: ·) htail
  | .obj members, h => by
    rw [sorted, sortedMembers_eq, text_obj, text_obj] at h
    have htail := List.append_cancel_right (List.cons.inj h).2
    refine membersInOrder_of_text_eq ?_
    cases members with
    | nil => rfl
    | cons first rest =>
      have hne : ((first :: rest).map sortedMember).insertionSort ByName ≠ [] := by
        intro hnil
        have hperm := List.perm_insertionSort ByName ((first :: rest).map sortedMember)
        rw [hnil] at hperm
        cases hperm.nil_eq
      rw [flatMap_memberText_eq hne, flatMap_memberText_eq (List.cons_ne_nil first rest), htail]

theorem itemsInOrder_of_text_eq : ∀ {items : List Json},
    (sortedItems items).flatMap itemText = items.flatMap itemText → ItemsInOrder items
  | [], _ => trivial
  | first :: rest, h => by
    rw [sortedItems, List.flatMap_cons, List.flatMap_cons] at h
    obtain ⟨hfirst, hrest⟩ := List.append_inj (List.cons.inj h).2 (length_text_sorted first)
    exact ⟨inOrder_of_text_eq hfirst, itemsInOrder_of_text_eq hrest⟩

theorem membersInOrder_of_text_eq : ∀ {members : List (String × Json)},
    ((members.map sortedMember).insertionSort ByName).flatMap memberText =
      members.flatMap memberText → members.Pairwise ByName ∧ MembersInOrder members
  | [], _ => ⟨List.Pairwise.nil, trivial⟩
  | (name, first) :: rest, h => by
    have hcons : (sortedMember (name, first) :: rest.map sortedMember).insertionSort ByName =
        sortedMember (name, first) :: (rest.map sortedMember).insertionSort ByName :=
      insertionSort_eq_cons (name, first) rfl h
    rw [List.map_cons, hcons, List.flatMap_cons, List.flatMap_cons] at h
    obtain ⟨-, hvalues⟩ := memberText_append_inj h
    obtain ⟨hfirst, hrest⟩ := List.append_inj hvalues (length_text_sorted first)
    obtain ⟨hnames, hmembers⟩ := membersInOrder_of_text_eq hrest
    have hsorted := List.pairwise_insertionSort ByName
      (sortedMember (name, first) :: rest.map sortedMember)
    rw [hcons] at hsorted
    refine ⟨List.pairwise_cons.mpr ⟨fun member hmember => ?_, hnames⟩,
      inOrder_of_text_eq hfirst, hmembers⟩
    have hlater := (List.perm_insertionSort ByName (rest.map sortedMember)).symm.subset
      (List.mem_map_of_mem hmember)
    exact (List.rel_of_pairwise_cons hsorted hlater :)
end

/-- A document is written with its members in order exactly if they are in order. -/
theorem compact_sorted_eq_iff {value : Json} : value.sorted.compact = value.compact ↔ value.InOrder := by
  constructor
  · exact fun h => inOrder_of_text_eq (String.ofList_injective h)
  · exact fun h => by rw [sorted_of_inOrder h]

end WorkWatch.Json
