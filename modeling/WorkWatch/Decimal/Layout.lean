import WorkWatch.Decimal.Shortest
import WorkWatch.Text.Digits

/-!
The decimal text of doubles. A layout says where positional notation ends and how exponents look;
the digits come from the number.
-/

namespace WorkWatch.Decimal

open WorkWatch.Text

/-- How a number is laid out. The decimal exponent is that of the first digit. -/
structure Layout where
  /-- Least decimal exponent that is written positionally. -/
  least : Int
  /-- First decimal exponent that is written with an exponent again. -/
  limit : Int
  /-- Whole numbers in positional notation end in `.0`. -/
  marksWhole : Bool

/-- Numbers as they are shown in full: from 0.0001 to below 10^16 positionally, and always with a
point or an exponent. -/
def Layout.full : Layout := ⟨-4, 16, true⟩

/-- Numbers of six significant digits: from 0.0001 to below 10^6 positionally. -/
def Layout.brief : Layout := ⟨-4, 6, false⟩

def exponentText (exponent : Int) : List Char :=
  'e' :: (if exponent < 0 then '-' else '+') :: padded 2 exponent.natAbs

/-- Positional notation of `0.d₁d₂… * 10 ^ point`. -/
def positional (marksWhole : Bool) (digits : List Char) (point : Int) : List Char :=
  if point ≤ 0 then '0' :: '.' :: (List.replicate (-point).toNat '0' ++ digits)
  else
    let whole := digits.take point.toNat
    let fraction := digits.drop point.toNat
    let zeros := List.replicate (point.toNat - whole.length) '0'
    whole ++ zeros ++
      (if fraction.isEmpty then (if marksWhole then ['.', '0'] else []) else '.' :: fraction)

/-- Notation with an exponent: one digit before the point. -/
def exponential (digits : List Char) (point : Int) : List Char :=
  match digits with
  | [] => []
  | first :: rest =>
    first :: ((if rest.isEmpty then [] else '.' :: rest) ++ exponentText (point - 1))

def Layout.digits (layout : Layout) (d : Digits) : List Char :=
  let digits := digitsOf d.value
  if layout.least < d.point && d.point ≤ layout.limit
  then positional layout.marksWhole digits d.point
  else exponential digits d.point

/-- The text of a double whose digits are chosen by `choose`. -/
def Layout.write (layout : Layout) (choose : Nat → Int → Digits) : Binary → List Char
  | .nan => ['n', 'a', 'n']
  | .infinite negative => (if negative then ['-'] else []) ++ ['i', 'n', 'f']
  | .finite negative mantissa exponent =>
    (if negative then ['-'] else []) ++
      (if mantissa = 0 then '0' :: (if layout.marksWhole then ['.', '0'] else [])
      else layout.digits (choose mantissa exponent))

/-- The text of a double with the fewest digits that read back, such as `1.0`, `1e-05`, `inf`. -/
def fullText (x : Float) : String :=
  String.ofList (Layout.full.write shortest (.ofFloat x))

/-- The text of a double with at most six significant digits, such as `300`, `1e+06`. -/
def briefText (x : Float) : String :=
  String.ofList (Layout.brief.write (rounded 6) (.ofFloat x))

/-- The text of a double with one decimal place, such as `0.5`, `-0.0`. -/
def tenthsText (x : Float) : String :=
  String.ofList <|
    match Binary.ofFloat x with
    | .finite negative mantissa exponent =>
      let tenths := divNearest (mantissa * 10 * twoTo exponent.toNat) (twoTo (-exponent).toNat)
      (if negative then ['-'] else []) ++ digitsOf (tenths / 10) ++ '.' :: digitsOf (tenths % 10)
    | special => Layout.full.write shortest special

end WorkWatch.Decimal
