import WorkWatch.Text.CaseTable

/-!
Lower case and case folding. Two texts that differ only in case have the same folding, which is
how kinds, names and condition types are compared; lower case serves for searching inside names.
-/

namespace WorkWatch.Text

/-- What a table makes of one character beyond ASCII. -/
def mapCase (runs : List CaseTable.Run) (expansions : List (Nat × List Nat)) (c : Char) :
    List Char :=
  match expansions.lookup c.toNat with
  | some several => several.map Char.ofNat
  | none =>
    match runs.find? (·.contains c.toNat) with
    | some run => [Char.ofNat (c.toNat + run.shift).toNat]
    | none => [c]

def foldChar (c : Char) : List Char :=
  if c.toNat < 128 then [c.toLower] else mapCase CaseTable.fold CaseTable.foldExpansions c

def foldCase (s : String) : String := String.ofList (s.toList.flatMap foldChar)

/-- Two texts are equal up to case. -/
def sameFolded (s t : String) : Bool := foldCase s == foldCase t

/-- The lower case of one character, a sigma apart. -/
def lowerChar (c : Char) : List Char :=
  if c.toNat < 128 then [c.toLower] else mapCase CaseTable.lower CaseTable.lowerExpansions c

def inRanges (ranges : List (Nat × Nat)) (c : Char) : Bool :=
  ranges.any fun (first, last) => first ≤ c.toNat && c.toNat ≤ last

/-- The first character that is not case-ignorable is cased. -/
def startsCased (s : List Char) : Bool :=
  match s.dropWhile (inRanges CaseTable.caseIgnorable) with
  | [] => false
  | c :: _ => inRanges CaseTable.cased c

/-- Lower case of what follows `before`, which is kept in reverse. -/
def lowerAfter (before : List Char) : List Char → List Char
  | [] => []
  | c :: rest =>
    -- A capital sigma has its final form at the end of a word: after a cased character and not
    -- before one.
    let here :=
      if c = 'Σ' then [if startsCased before && !startsCased rest then 'ς' else 'σ']
      else lowerChar c
    here ++ lowerAfter (c :: before) rest

def lower (s : String) : String := String.ofList (lowerAfter [] s.toList)

end WorkWatch.Text
