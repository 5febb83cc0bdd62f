import WorkWatch.Text.DigitTable

/-!
Decimal digits: the value of a digit, the number that a row of digits denotes, and the digits of a
number.
-/

namespace WorkWatch.Text

def isDigit (c : Char) : Bool := '0' ≤ c && c ≤ '9'

def digitValue (c : Char) : Nat := c.toNat - '0'.toNat

/-- The value of a decimal digit of any script. -/
def anyDigitValue? (c : Char) : Option Nat :=
  if isDigit c then some (digitValue c)
  else if c.toNat < 128 then none
  else
    (DigitTable.zeros.find? fun first => first ≤ c.toNat && c.toNat < first + 10).map (c.toNat - ·)

def isAnyDigit (c : Char) : Bool := (anyDigitValue? c).isSome

def digitChar (n : Nat) : Char := Char.ofNat ('0'.toNat + n)

/-- The number that a row of ASCII digits denotes. -/
def ofDigits (s : List Char) : Nat := s.foldl (fun n c => 10 * n + digitValue c) 0

/-- The decimal digits of a number, without leading zeros. -/
def digitsOf (n : Nat) : List Char := Nat.toDigits 10 n

/-- The digits of a number, with zeros in front up to a width. -/
def padded (width n : Nat) : List Char :=
  let digits := digitsOf n
  List.replicate (width - digits.length) '0' ++ digits

def intText : Int → String
  | .ofNat n => String.ofList (digitsOf n)
  | .negSucc n => String.ofList ('-' :: digitsOf (n + 1))

def natText (n : Nat) : String := String.ofList (digitsOf n)

/-- Lower-case hexadecimal digits of a number, with zeros in front up to a width. -/
def hexPadded (width n : Nat) : List Char :=
  let digits := Nat.toDigits 16 n
  List.replicate (width - digits.length) '0' ++ digits

/-- The value of a hexadecimal digit of either case. -/
def hexValue? (c : Char) : Option Nat :=
  if isDigit c then some (digitValue c)
  else if 'a' ≤ c && c ≤ 'f' then some (c.toNat - 'a'.toNat + 10)
  else if 'A' ≤ c && c ≤ 'F' then some (c.toNat - 'A'.toNat + 10)
  else none

end WorkWatch.Text
