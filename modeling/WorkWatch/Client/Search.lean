import WorkWatch.Text.Quoted

/-!
Search queries for the works of a consumer. Only names that cannot be mistaken for anything else
are put into a query.
-/

namespace WorkWatch

open Text

inductive SearchProblem where
  | character (c : Char)
  | empty
  | tooLong (length : Nat)
  deriving DecidableEq, Repr

namespace Search

def nameLimit : Nat := 253

def isNameChar (c : Char) : Bool :=
  isDigit c || ('a' ≤ c && c ≤ 'z') || ('A' ≤ c && c ≤ 'Z') || c = '-' || c = '_' || c = '.'

/-- Checks a name: its characters first, then its length. -/
def check (name : String) : Except SearchProblem Unit :=
  match name.toList.find? (!isNameChar ·) with
  | some c => .error (.character c)
  | none =>
    if name.isEmpty then .error .empty
    else if nameLimit < name.length then .error (.tooLong name.length)
    else .ok ()

def query (consumer : String) : String := "consumer_name = '" ++ consumer ++ "'"

end Search

def SearchProblem.message : SearchProblem → String
  | .character c => "invalid character " ++ quoted (String.singleton c) ++
      " in search query, only alphanumeric, hyphens, underscores, and dots allowed"
  | .empty => "search query cannot be empty"
  | .tooLong length => "search query too long: " ++ natText length ++ " characters (max " ++
      natText Search.nameLimit ++ ")"

end WorkWatch
