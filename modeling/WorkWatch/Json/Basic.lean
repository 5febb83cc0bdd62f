import WorkWatch.Fields

/-!
JSON values. Integers and doubles are kept apart, integers are unbounded, and an object is its
members in order.
-/

namespace WorkWatch

inductive Json where
  | null
  | bool (value : Bool)
  | int (value : Int)
  | float (value : Float)
  | str (value : String)
  | arr (items : List Json)
  | obj (members : List (String × Json))

namespace Json

instance : Inhabited Json := ⟨.null⟩

/-- The value of a member; values other than objects have none. -/
def get? (name : String) : Json → Option Json
  | .obj members => Fields.get? name members
  | _ => none

/-- The value of a member, null when it is missing. -/
def get (name : String) (value : Json) : Json := (value.get? name).getD .null

def str? : Json → Option String
  | .str value => some value
  | _ => none

def items? : Json → Option (List Json)
  | .arr items => some items
  | _ => none

def members? : Json → Option (List (String × Json))
  | .obj members => some members
  | _ => none

/-- The members of an object, none for other values. -/
def membersOrNone (value : Json) : List (String × Json) := value.members?.getD []

/-- The items of an array, none for other values. -/
def itemsOrNone (value : Json) : List Json := value.items?.getD []

def isObject (value : Json) : Bool := value.members?.isSome

theorem exists_of_isObject {value : Json} (h : value.isObject = true) :
    ∃ members, value = .obj members := by
  cases value with
  | obj members => exact ⟨members, rfl⟩
  | _ => cases h

theorem get_of_not_isObject {value : Json} (h : value.isObject = false) (name : String) :
    value.get name = .null := by
  cases value with
  | obj members => cases h
  | _ => rfl

end Json

end WorkWatch
