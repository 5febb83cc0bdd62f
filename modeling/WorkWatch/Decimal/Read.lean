import WorkWatch.Decimal.Nearest
import WorkWatch.Text.Blank
import WorkWatch.Text.Digits

/-!
Reading numbers from free text: digits of any script, single underscores between digits, blanks
around the number, and the words for infinity and NaN.
-/

namespace WorkWatch.Decimal

open WorkWatch.Text

/-- Blanks that may stand around a number; the information separators are not among them. -/
def isOuterBlank (c : Char) : Bool := isBlank c && !(28 ≤ c.toNat && c.toNat ≤ 31)

/-- The text of a number in ASCII: every digit of another script becomes the digit of its value. -/
def normalized (s : String) : List Char :=
  (trim isOuterBlank s.toList).map fun c =>
    match anyDigitValue? c with
    | some value => digitChar value
    | none => c

/-- Removes the underscores of a number; each has to stand between two digits. -/
def withoutUnderscores (before : Char) : List Char → Option (List Char)
  | [] => if before = '_' then none else some []
  | '_' :: rest => if isDigit before then withoutUnderscores '_' rest else none
  | c :: rest =>
    if before = '_' && !isDigit c then none else (withoutUnderscores c rest).map (c :: ·)

def takeSign : List Char → Bool × List Char
  | '-' :: rest => (true, rest)
  | '+' :: rest => (false, rest)
  | s => (false, s)

/-- The exponent at the end of a number, empty text being exponent zero. -/
def readExponent : List Char → Option Int
  | [] => some 0
  | e :: rest =>
    let (negative, digits) := takeSign rest
    if (e = 'e' || e = 'E') && !digits.isEmpty && digits.all isDigit then
      some (if negative then -(ofDigits digits : Int) else ofDigits digits)
    else none

/-- An unsigned number: digits with an optional point, then an optional exponent. -/
def readUnsigned (negative : Bool) (s : List Char) : Option Float :=
  let whole := s.takeWhile isDigit
  let (fraction, rest) :=
    match s.dropWhile isDigit with
    | '.' :: rest => (rest.takeWhile isDigit, rest.dropWhile isDigit)
    | rest => ([], rest)
  if whole.isEmpty && fraction.isEmpty then none
  else
    (readExponent rest).map fun exponent =>
      ofDecimal negative (ofDigits (whole ++ fraction)) (exponent - fraction.length)

def nan : Float := .ofBits 0x7ff8000000000000

/-- The double that a text denotes, if it denotes one. -/
def readFloat? (s : String) : Option Float := do
  let text ← withoutUnderscores ' ' (normalized s)
  let (negative, body) := takeSign text
  let word := String.ofList (body.map Char.toLower)
  if word = "inf" || word = "infinity" then some (ofRank negative infiniteRank)
  else if word = "nan" then some nan
  else readUnsigned negative body

/-- Why a text denotes no integer. -/
inductive IntegerProblem where
  | malformed (text : String)
  | tooLong (digits : Nat)
  deriving DecidableEq

/-- The greatest number of digits an integer may be written with. -/
def digitLimit : Nat := 4300

/-- The integer that a text denotes. -/
def readInt (s : String) : Except IntegerProblem Int :=
  let (negative, body) := takeSign (normalized s)
  let run := body.takeWhile fun c => isDigit c || c = '_'
  match withoutUnderscores ' ' run with
  | none => .error (.malformed s)
  | some digits =>
    -- Too many digits are told of also where the text goes on with something else.
    if digitLimit < digits.length then .error (.tooLong digits.length)
    else if digits.isEmpty || run.length < body.length then .error (.malformed s)
    else .ok (if negative then -(ofDigits digits : Int) else ofDigits digits)

end WorkWatch.Decimal
