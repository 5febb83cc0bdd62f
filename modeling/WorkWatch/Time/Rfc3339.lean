import WorkWatch.Text.Blank
import WorkWatch.Text.Digits
import WorkWatch.Time.Calendar

/-!
Timestamps of RFC 3339 such as `2024-05-01T10:00:00Z`. The `T`, the seconds and an offset are
required. Fractions are cut to microseconds.
-/

namespace WorkWatch.Time

open WorkWatch.Text

/-- A date and time of day with its offset from UTC in minutes. -/
structure Timestamp where
  year : Nat
  month : Nat
  day : Nat
  hour : Nat
  minute : Nat
  second : Nat
  microsecond : Nat
  offset : Int
  deriving DecidableEq

/-- Microseconds since the beginning of 1970 in UTC. -/
def Timestamp.instant (t : Timestamp) : Int :=
  let minutes := (dayNumber t.year t.month t.day * 24 + t.hour) * 60 + t.minute - t.offset
  (minutes * 60 + t.second) * 1000000 + t.microsecond

/-- The first moment comes before the second, whatever their offsets. -/
def Timestamp.before (a b : Timestamp) : Bool := a.instant < b.instant

/-- The text `±hh:mm` of an offset. -/
def offsetText (offset : Int) : List Char :=
  (if offset < 0 then '-' else '+') :: (padded 2 (offset.natAbs / 60) ++
    ':' :: padded 2 (offset.natAbs % 60))

/-- The text of a timestamp; a fraction is written with six digits unless it is zero. -/
def Timestamp.text (t : Timestamp) : String :=
  String.ofList <|
    padded 4 t.year ++ '-' :: padded 2 t.month ++ '-' :: padded 2 t.day ++ 'T' ::
      padded 2 t.hour ++ ':' :: padded 2 t.minute ++ ':' :: padded 2 t.second ++
      (if t.microsecond = 0 then [] else '.' :: padded 6 t.microsecond) ++ offsetText t.offset

def two? (a b : Char) : Option Nat :=
  if isDigit a && isDigit b then some (ofDigits [a, b]) else none

def four? (a b c d : Char) : Option Nat :=
  if isDigit a && isDigit b && isDigit c && isDigit d then some (ofDigits [a, b, c, d]) else none

/-- The microseconds of a fraction: its first six digits, with zeros after them if there are
fewer. -/
def microseconds (digits : List Char) : Nat :=
  ofDigits ((digits ++ List.replicate 6 '0').take 6)

/-- The fraction of a second, if there is one, and the text after it. -/
def fraction? : List Char → Option (Nat × List Char)
  | '.' :: rest =>
    let digits := rest.takeWhile isDigit
    if digits.isEmpty then none else some (microseconds digits, rest.dropWhile isDigit)
  | rest => some (0, rest)

/-- An offset from UTC in minutes; it has to be less than a day. -/
def offset? : List Char → Option Int
  | ['Z'] => some 0
  | [sign, a, b, ':', c, d] => do
    let hours ← two? a b
    let minutes ← two? c d
    -- Only the sum is limited: the minutes may be 60 and more.
    let offset := hours * 60 + minutes
    if 24 * 60 ≤ offset then none
    else if sign = '+' then some offset
    else if sign = '-' then some (-offset)
    else none
  | _ => none

/-- The fields stand for a time of an existing day. -/
def Timestamp.isValid (t : Timestamp) : Bool :=
  isDate t.year t.month t.day && t.hour ≤ 23 && t.minute ≤ 59 && t.second ≤ 59

/-- The timestamp that a text without blanks around it denotes. -/
def timestamp? : List Char → Option Timestamp
  | y₁ :: y₂ :: y₃ :: y₄ :: '-' :: m₁ :: m₂ :: '-' :: d₁ :: d₂ :: 'T' ::
      h₁ :: h₂ :: ':' :: n₁ :: n₂ :: ':' :: s₁ :: s₂ :: rest => do
    let year ← four? y₁ y₂ y₃ y₄
    let month ← two? m₁ m₂
    let day ← two? d₁ d₂
    let hour ← two? h₁ h₂
    let minute ← two? n₁ n₂
    let second ← two? s₁ s₂
    let (microsecond, rest) ← fraction? rest
    let offset ← offset? rest
    let t : Timestamp := ⟨year, month, day, hour, minute, second, microsecond, offset⟩
    if t.isValid then some t else none
  | _ => none

/-- Reads a timestamp; blanks around it do not matter. -/
def Timestamp.parse? (s : String) : Option Timestamp := timestamp? (strip s.toList)

end WorkWatch.Time
