import Mathlib.Data.List.Forall2

/-! Computations that may fail: what is known of the steps when a sequence of them succeeds or
fails. A traversal fails as its first item does that has a problem. Steps may also keep a state, in
which what was done before an error stays done. -/

namespace WorkWatch

section Steps

variable {α β ε ε' : Type} {x : Except ε α} {f : α → Except ε β} {problem : ε}

theorem exists_ok_iff : (∃ a, x = .ok a) ↔ ∀ error, x ≠ .error error := by
  cases x with
  | ok a => exact ⟨fun _ => nofun, fun _ => ⟨a, rfl⟩⟩
  | error error => exact ⟨nofun, fun h => absurd rfl (h error)⟩

theorem bind_eq_ok_iff {b : β} : (x >>= f) = .ok b ↔ ∃ a, x = .ok a ∧ f a = .ok b := by
  cases x with
  | error error => exact ⟨nofun, fun ⟨_, h, _⟩ => nomatch h⟩
  | ok a =>
    constructor
    · intro h
      exact ⟨a, rfl, h⟩
    · rintro ⟨_, ⟨⟩, h⟩
      exact h

theorem bind_eq_error_iff :
    (x >>= f) = .error problem ↔ x = .error problem ∨ ∃ a, x = .ok a ∧ f a = .error problem := by
  cases x with
  | error error =>
    constructor
    · rintro ⟨⟩
      exact Or.inl rfl
    · rintro (⟨⟨⟩⟩ | ⟨_, ⟨⟩, _⟩)
      rfl
  | ok a =>
    constructor
    · intro h
      exact Or.inr ⟨a, rfl, h⟩
    · rintro (⟨⟨⟩⟩ | ⟨_, ⟨⟩, h⟩)
      exact h

theorem check_bind_eq_ok_iff {check : Except ε Unit} {f : Unit → Except ε α} {a : α} :
    (check >>= f) = .ok a ↔ check = .ok () ∧ f () = .ok a := by
  rw [bind_eq_ok_iff]
  exact ⟨fun ⟨_, h, hf⟩ => ⟨h, hf⟩, fun ⟨h, hf⟩ => ⟨(), h, hf⟩⟩

theorem step_bind_eq_error_iff {rest : Prop}
    (hf : ∀ a, x = .ok a → (f a = .error problem ↔ rest)) :
    (x >>= f) = .error problem ↔
      x = .error problem ∨ (∀ other, x ≠ .error other) ∧ rest := by
  rw [bind_eq_error_iff, ← exists_ok_iff]
  apply or_congr_right
  constructor
  · rintro ⟨a, ha, hrest⟩
    exact ⟨⟨a, ha⟩, (hf a ha).mp hrest⟩
  · rintro ⟨⟨a, ha⟩, hrest⟩
    exact ⟨a, ha, (hf a ha).mpr hrest⟩

theorem bind_eq_error_iff_of_ok (hf : ∀ a, ∃ b, f a = .ok b) :
    (x >>= f) = .error problem ↔ x = .error problem := by
  rw [bind_eq_error_iff]
  apply or_iff_left
  rintro ⟨a, -, hfails⟩
  obtain ⟨b, hb⟩ := hf a
  rw [hb] at hfails
  cases hfails

theorem map_eq_ok_iff {g : α → β} {b : β} : x.map g = .ok b ↔ ∃ a, x = .ok a ∧ g a = b := by
  cases x with
  | error error => exact ⟨nofun, fun ⟨_, h, _⟩ => nomatch h⟩
  | ok a =>
    constructor
    · rintro ⟨⟩
      exact ⟨a, rfl, rfl⟩
    · rintro ⟨_, ⟨⟩, rfl⟩
      rfl

theorem map_eq_error_iff {g : α → β} : x.map g = .error problem ↔ x = .error problem :=
  bind_eq_error_iff_of_ok fun a => ⟨g a, rfl⟩

theorem mapError_eq_ok_iff {g : ε → ε'} {a : α} : x.mapError g = .ok a ↔ x = .ok a := by
  cases x with
  | error error => exact ⟨nofun, nofun⟩
  | ok value =>
    constructor
    · rintro ⟨⟩
      rfl
    · rintro ⟨⟩
      rfl

theorem mapError_eq_error_iff {g : ε → ε'} {error : ε'} :
    x.mapError g = .error error ↔ ∃ cause, x = .error cause ∧ g cause = error := by
  cases x with
  | error cause =>
    constructor
    · rintro ⟨⟩
      exact ⟨cause, rfl, rfl⟩
    · rintro ⟨_, ⟨⟩, rfl⟩
      rfl
  | ok value => exact ⟨nofun, fun ⟨_, h, _⟩ => nomatch h⟩

end Steps

/-- A traversal that succeeds gives the results of the items one by one. -/
theorem mapM_eq_ok_iff {α β ε : Type} {f : α → Except ε β} {items : List α} {results : List β} :
    items.mapM f = .ok results ↔
      List.Forall₂ (fun item result => f item = .ok result) items results := by
  induction items generalizing results with
  | nil =>
    rw [List.forall₂_nil_left_iff]
    exact ⟨fun h => (Except.ok.inj h).symm, fun h => h ▸ rfl⟩
  | cons item items ih =>
    rw [List.mapM_cons, bind_eq_ok_iff]
    constructor
    · rintro ⟨result, hresult, hrest⟩
      obtain ⟨rest, hitems, h⟩ := bind_eq_ok_iff.mp hrest
      cases h
      exact .cons hresult (ih.mp hitems)
    · intro h
      cases h with
      | cons hresult hitems =>
        exact ⟨_, hresult, bind_eq_ok_iff.mpr ⟨_, ih.mpr hitems, rfl⟩⟩

theorem exists_of_forall₂ {α β : Type} {r : α → β → Prop} {items : List α} {results : List β}
    (h : List.Forall₂ r items results) {item : α} (hitem : item ∈ items) :
    ∃ result ∈ results, r item result := by
  induction h with
  | nil => cases hitem
  | cons hhead _ ih =>
    rcases List.mem_cons.mp hitem with rfl | hitem
    · exact ⟨_, List.mem_cons_self, hhead⟩
    · obtain ⟨result, hresult, hr⟩ := ih hitem
      exact ⟨result, List.mem_cons_of_mem _ hresult, hr⟩

/-- The first of some items that has a problem has this one. -/
inductive First {α ε : Type} (has : α → ε → Prop) : List α → ε → Prop
  | here {item : α} {rest : List α} {problem : ε} (h : has item problem) :
      First has (item :: rest) problem
  | later {item : α} {rest : List α} {problem : ε} (sound : ∀ other, ¬ has item other)
      (h : First has rest problem) : First has (item :: rest) problem

section First

variable {α β ε : Type} {has : α → ε → Prop} {problem : ε}

theorem First.exists_mem {items : List α} (h : First has items problem) :
    ∃ item ∈ items, has item problem := by
  induction h with
  | @here item rest problem h => exact ⟨item, List.mem_cons_self, h⟩
  | later _ _ ih =>
    obtain ⟨item, hmem, h⟩ := ih
    exact ⟨item, List.mem_cons_of_mem _ hmem, h⟩

theorem first_cons_iff {item : α} {rest : List α} :
    First has (item :: rest) problem ↔
      has item problem ∨ (∀ other, ¬ has item other) ∧ First has rest problem := by
  constructor
  · intro h
    cases h with
    | here h => exact .inl h
    | later sound h => exact .inr ⟨sound, h⟩
  · rintro (h | ⟨sound, h⟩)
    · exact .here h
    · exact .later sound h

theorem mapM_eq_error_iff {f : α → Except ε β}
    (hf : ∀ a problem, f a = .error problem ↔ has a problem) (items : List α) :
    items.mapM f = .error problem ↔ First has items problem := by
  induction items with
  | nil => exact ⟨nofun, nofun⟩
  | cons a items ih =>
    rw [List.mapM_cons, first_cons_iff]
    simp only [← hf a]
    apply step_bind_eq_error_iff
    intro b _
    exact (bind_eq_error_iff_of_ok fun rest => ⟨b :: rest, rfl⟩).trans ih

theorem foldlM_eq_error_iff {f : β → α → Except ε β}
    (hf : ∀ b a problem, f b a = .error problem ↔ has a problem) (items : List α) :
    ∀ b, items.foldlM f b = .error problem ↔ First has items problem := by
  induction items with
  | nil => exact fun b => ⟨nofun, nofun⟩
  | cons a items ih =>
    intro b
    rw [List.foldlM_cons, first_cons_iff]
    simp only [← hf b a]
    exact step_bind_eq_error_iff fun next _ => ih next

end First

section States

variable {ε σ α β : Type} {x : ExceptT ε (StateM σ) α} {f : α → ExceptT ε (StateM σ) β}
  {s later last : σ}

/-- What comes after a step sees its value and its state; after an error there is nothing more. -/
theorem bind_apply (x : ExceptT ε (StateM σ) α) (f : α → ExceptT ε (StateM σ) β) (s : σ) :
    (x >>= f) s =
      match x s with
      | (.ok a, later) => f a later
      | (.error e, later) => (.error e, later) := by
  change ExceptT.bindCont f (x s).1 (x s).2 = _
  rcases x s with ⟨_ | _, _⟩ <;> rfl

theorem bind_of_ok {a : α} (h : x s = (.ok a, later)) : (x >>= f) s = f a later := by
  rw [bind_apply, h]

theorem bind_of_error {e : ε} (h : x s = (.error e, later)) : (x >>= f) s = (.error e, later) := by
  rw [bind_apply, h]

theorem bind_eq_ok {b : β} (h : (x >>= f) s = (.ok b, last)) :
    ∃ a later, x s = (.ok a, later) ∧ f a later = (.ok b, last) := by
  rw [bind_apply] at h
  rcases hx : x s with ⟨_ | a, later⟩
  · rw [hx] at h
    cases h
  · rw [hx] at h
    exact ⟨a, later, rfl, h⟩

end States

end WorkWatch
