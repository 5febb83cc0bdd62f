/-!
Cutting texts at a separator.
-/

namespace WorkWatch.Text

/-- The text before and after the first place where `sep` stands. -/
def cut? (sep : List Char) : List Char → Option (List Char × List Char)
  | [] => if sep.isEmpty then some ([], []) else none
  | c :: rest =>
    if sep.isPrefixOf (c :: rest) then some ([], (c :: rest).drop sep.length)
    else (cut? sep rest).map fun (before, after) => (c :: before, after)

/-- The text holds `part` somewhere. -/
def holds (part s : List Char) : Bool := (cut? part s).isSome

/-- The pieces between the places where `sep` stands; there is always at least one. -/
def pieces (sep : Char) : List Char → List (List Char)
  | [] => [[]]
  | c :: rest =>
    if c = sep then [] :: pieces sep rest
    else
      match pieces sep rest with
      | first :: more => (c :: first) :: more
      | [] => [[c]]

def joined (sep : List Char) : List (List Char) → List Char
  | [] => []
  | [only] => only
  | first :: rest => first ++ sep ++ joined sep rest

theorem pieces_ne_nil (sep : Char) (s : List Char) : pieces sep s ≠ [] := by
  induction s with
  | nil => simp [pieces]
  | cons c rest ih =>
    simp only [pieces]
    split
    · simp
    · split <;> simp

theorem joined_pieces (sep : Char) (s : List Char) : joined [sep] (pieces sep s) = s := by
  induction s with
  | nil => rfl
  | cons c rest ih =>
    by_cases h : c = sep
    · subst h
      have := pieces_ne_nil c rest
      cases hp : pieces c rest with
      | nil => exact absurd hp this
      | cons first more => simp [pieces, joined, hp, hp ▸ ih]
    · have := pieces_ne_nil sep rest
      cases hp : pieces sep rest with
      | nil => exact absurd hp this
      | cons first more =>
        cases more with
        | nil => simp_all [pieces, joined]
        | cons second more => simp_all [pieces, joined]

end WorkWatch.Text
