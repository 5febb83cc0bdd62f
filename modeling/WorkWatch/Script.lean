/-!
Scripts: what happens at the first, second, … time, the last entry holding from then on.
-/

namespace WorkWatch

/-- A list of at least one entry. -/
structure Script (α : Type) where
  next : α
  rest : List α

namespace Script

variable {α : Type}

/-- The next entry, and the script after it. -/
def advance (script : Script α) : α × Script α :=
  match script.rest with
  | [] => (script.next, script)
  | following :: rest => (script.next, ⟨following, rest⟩)

/-- The script of a list, with a default for the empty one. -/
def ofList (default : α) : List α → Script α
  | [] => ⟨default, []⟩
  | first :: rest => ⟨first, rest⟩

@[simp] theorem advance_last (next : α) : (mk next []).advance = (next, mk next []) := rfl

@[simp] theorem advance_next (next following : α) (rest : List α) :
    (mk next (following :: rest)).advance = (next, mk following rest) := rfl

end Script

end WorkWatch
