/-!
Named values in order: a look-up takes the first entry of a name, and storing under a name that is
present replaces the value where it stands.
-/

namespace WorkWatch

abbrev Fields (α : Type) := List (String × α)

namespace Fields

variable {α β : Type}

def get? (name : String) : Fields α → Option α
  | [] => none
  | (key, value) :: rest => if key = name then some value else get? name rest

/-- Stores a value: in place when the name is present, at the end otherwise. -/
def put (name : String) (value : α) : Fields α → Fields α
  | [] => [(name, value)]
  | (key, old) :: rest =>
    if key = name then (key, value) :: rest else (key, old) :: put name value rest

/-- Fields in which every name stands once, at its first place and with its last value. -/
def ofList (entries : List (String × α)) : Fields α :=
  entries.foldl (fun fields entry => fields.put entry.1 entry.2) []

def names (fields : Fields α) : List String := fields.map (·.1)

@[simp] theorem get?_nil (name : String) : get? name ([] : Fields α) = none := rfl

theorem get?_of_not_mem {name : String} {fields : Fields α} (h : name ∉ fields.names) :
    fields.get? name = none := by
  induction fields with
  | nil => rfl
  | cons entry rest ih =>
    obtain ⟨key, value⟩ := entry
    simp only [names, List.map_cons, List.mem_cons, not_or] at h
    rw [get?, if_neg (Ne.symm h.1)]
    exact ih h.2

@[simp] theorem get?_put_self (name : String) (value : α) (fields : Fields α) :
    (fields.put name value).get? name = some value := by
  induction fields with
  | nil => simp [put, get?]
  | cons entry rest ih =>
    by_cases h : entry.1 = name
    · simp [put, get?, h]
    · simp [put, get?, h, ih]

theorem get?_put_of_ne {name other : String} (h : name ≠ other) (value : α) (fields : Fields α) :
    (fields.put name value).get? other = fields.get? other := by
  induction fields with
  | nil => simp [put, get?, h]
  | cons entry rest ih =>
    by_cases hn : entry.1 = name
    · have : entry.1 ≠ other := fun e => h (hn ▸ e)
      simp [put, get?, hn, h]
    · simp [put, get?, hn, ih]

theorem names_put (name : String) (value : α) (fields : Fields α) :
    (fields.put name value).names =
      if name ∈ fields.names then fields.names else fields.names ++ [name] := by
  induction fields with
  | nil => simp [put, names]
  | cons entry rest ih =>
    by_cases hn : entry.1 = name
    · simp [put, names, hn]
    · have hne : name ≠ entry.1 := fun e => hn e.symm
      simp only [names] at ih
      by_cases hm : name ∈ rest.map (·.1) <;> simp [put, names, hn, hne, ih, hm]

end Fields

end WorkWatch
