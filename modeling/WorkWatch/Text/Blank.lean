/-!
Blank characters, and text without the blanks around it.
-/

namespace WorkWatch.Text

/-- Unicode white space, together with the four information separators. -/
def isBlank (c : Char) : Bool :=
  let n := c.toNat
  (9 ≤ n && n ≤ 13) || (28 ≤ n && n ≤ 32) || n == 0x85 || n == 0xa0 || n == 0x1680 ||
    (0x2000 ≤ n && n ≤ 0x200a) || n == 0x2028 || n == 0x2029 || n == 0x202f || n == 0x205f ||
    n == 0x3000

/-- Drops the characters of a class from the end. -/
def dropRight (p : Char → Bool) (s : List Char) : List Char :=
  (s.reverse.dropWhile p).reverse

/-- Drops the characters of a class from both ends. -/
def trim (p : Char → Bool) (s : List Char) : List Char :=
  dropRight p (s.dropWhile p)

/-- Text without the blanks around it. -/
def strip (s : List Char) : List Char := trim isBlank s

/-- A string without the blanks around it. -/
def stripped (s : String) : String := String.ofList (strip s.toList)

@[simp] theorem dropRight_nil (p : Char → Bool) : dropRight p [] = [] := rfl

theorem dropRight_append (p : Char → Bool) (s : List Char) (c : Char) :
    dropRight p (s ++ [c]) = if p c then dropRight p s else s ++ [c] := by
  by_cases h : p c <;> simp [dropRight, h]

@[simp] theorem strip_nil : strip [] = [] := rfl

@[simp] theorem toList_stripped (s : String) : (stripped s).toList = strip s.toList :=
  String.toList_ofList

end WorkWatch.Text
