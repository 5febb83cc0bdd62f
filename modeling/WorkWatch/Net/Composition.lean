import WorkWatch.Net.CompositionTable

/-!
Letters and their marks in one agreed form: marks on one letter are ordered by their classes, and a
letter and a mark that make one character are written as that character. `composed` brings a text
into this form; it knows the characters that may stand in a host name.
-/

namespace WorkWatch.Net.Composition

/-- The class of a mark, zero for a character that is written by itself. -/
def combiningClass (c : Char) : Nat :=
  match CompositionTable.classes.find? fun run => run.first ≤ c.toNat && c.toNat ≤ run.last with
  | some run => run.combiningClass
  | none => 0

/-- The two characters that make a character. -/
def parts? (c : Char) : Option (Char × Char) :=
  (CompositionTable.pairs.find? (·.whole = c.toNat)).map fun pair =>
    (Char.ofNat pair.first, Char.ofNat pair.second)

/-- The character that two characters make. -/
def whole? (a b : Char) : Option Char :=
  (CompositionTable.pairs.find? fun pair => pair.first = a.toNat && pair.second = b.toNat).map
    fun pair => Char.ofNat pair.whole

/-- A character taken apart: of the two that make it, the first may be taken apart again, at most
`depth` times in all. -/
def decomposedWithin : Nat → Char → List Char
  | 0, c => [c]
  | depth + 1, c =>
    match parts? c with
    | some (first, second) => decomposedWithin depth first ++ [second]
    | none => [c]

/-- No character of the table has to be taken apart more than three times. -/
def decomposed (c : Char) : List Char := decomposedWithin 3 c

/-- Puts a character before a text in order: a mark goes behind the marks of lower classes. -/
def insert (c : Char) : List Char → List Char
  | [] => [c]
  | d :: rest =>
    if combiningClass c = 0 || combiningClass d = 0 || combiningClass c ≤ combiningClass d then
      c :: d :: rest
    else d :: insert c rest

/-- The marks of each letter by their classes; marks of one class stay as they are. -/
def ordered (s : List Char) : List Char := s.foldr insert []

/-- Joins a letter with what follows it, and every later letter likewise. The marks that stay on
their own are kept in reverse; one of them hides the letter from marks of its class or a lower
one. -/
def joinedWith (letter : Char) (kept : List Char) : List Char → List Char
  | [] => letter :: kept.reverse
  | c :: rest =>
    let isHidden := kept.head?.any fun mark => combiningClass c ≤ combiningClass mark
    match if isHidden then none else whole? letter c with
    | some whole => joinedWith whole kept rest
    | none =>
      if combiningClass c = 0 then letter :: (kept.reverse ++ joinedWith c [] rest)
      else joinedWith letter (c :: kept) rest

/-- Joins the letters of an ordered text with their marks. -/
def joined : List Char → List Char
  | [] => []
  | c :: rest => if combiningClass c = 0 then joinedWith c [] rest else c :: joined rest

/-- The agreed form of a text. -/
def composed (s : List Char) : List Char := joined (ordered (s.flatMap decomposed))

end WorkWatch.Net.Composition
