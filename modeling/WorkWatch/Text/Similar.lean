/-!
Names that are similar to a misspelt one. Two texts are as similar as the share of their characters
that lies in common blocks: the longest block first, then what is before and after it.
-/

namespace WorkWatch.Text

/-- Where two texts have a block in common, and its length. -/
structure Block where
  first : Nat
  second : Nat
  length : Nat
  deriving DecidableEq, Repr

namespace Similar

/-- The length of the common beginning. -/
def commonStart : List Char → List Char → Nat
  | a :: s, b :: t => if a = b then commonStart s t + 1 else 0
  | _, _ => 0

/-- The longer one of two blocks, the earlier one if they are equally long. -/
def longer (earlier later : Block) : Block :=
  if earlier.length < later.length then later else earlier

/-- The longest common block, the first one of those. -/
def longestBlock (s t : List Char) : Block :=
  let starts := (List.range s.length).flatMap fun i => (List.range t.length).map fun j => (i, j)
  starts.foldl (fun best (i, j) => longer best ⟨i, j, commonStart (s.drop i) (t.drop j)⟩) ⟨0, 0, 0⟩

/-- The number of characters in common blocks, divided at most `fuel` times. -/
def commonWithin : Nat → List Char → List Char → Nat
  | 0, _, _ => 0
  | fuel + 1, s, t =>
    let block := longestBlock s t
    if block.length = 0 then 0
    else
      block.length + commonWithin fuel (s.take block.first) (t.take block.second) +
        commonWithin fuel (s.drop (block.first + block.length))
          (t.drop (block.second + block.length))

/-- The number of characters in common blocks; every division takes a character at least. -/
def common (s t : List Char) : Nat := commonWithin s.length s t

/-- A name with the characters it has in common, out of those of both texts. -/
structure Candidate where
  name : String
  common : Nat
  total : Nat

def candidate (word name : String) : Candidate :=
  ⟨name, common name.toList word.toList, name.length + word.length⟩

/-- Three fifths of the characters are in common blocks, counted in both texts. -/
def Candidate.isClose (c : Candidate) : Bool := 3 * c.total ≤ 10 * c.common

/-- The first candidate is the better one; of equally good ones the last in the alphabet is. -/
def Candidate.isBetter (c d : Candidate) : Bool :=
  d.common * c.total < c.common * d.total ||
    (d.common * c.total == c.common * d.total && d.name < c.name)

def limit : Nat := 3

end Similar

/-- The names most similar to a word, in the order of the alphabet. -/
def similarNames (word : String) (names : List String) : List String :=
  let close := (names.map (Similar.candidate word)).filter Similar.Candidate.isClose
  let best := (close.mergeSort Similar.Candidate.isBetter).take Similar.limit
  (best.map Similar.Candidate.name).mergeSort (· ≤ ·)

end WorkWatch.Text
