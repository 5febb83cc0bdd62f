import WorkWatch.Time.Rfc3339

/-!
Times of day and dates from a count of seconds.
-/

namespace WorkWatch.Time

open WorkWatch.Text

structure TimeOfDay where
  hour : Nat
  minute : Nat
  second : Nat
  deriving DecidableEq, Repr

def TimeOfDay.text (t : TimeOfDay) : String :=
  String.ofList (padded 2 t.hour ++ ':' :: padded 2 t.minute ++ ':' :: padded 2 t.second)

/-- The time of day after a number of seconds since midnight of some day. -/
def TimeOfDay.ofSeconds (seconds : Int) : TimeOfDay :=
  let inDay := (seconds % 86400).toNat
  ⟨inDay / 3600, inDay / 60 % 60, inDay % 60⟩

/-- Year, month and day of a day number. Years are taken to begin in March, so that a leap day comes
last; four hundred years have 146097 days. -/
def dateOf (day : Int) : Nat × Nat × Nat :=
  let shifted := day + 719468
  let era := shifted / 146097
  let dayOfEra := (shifted % 146097).toNat
  let yearOfEra :=
    (dayOfEra - dayOfEra / 1460 + dayOfEra / 36524 - dayOfEra / 146096) / 365
  let dayOfYear := dayOfEra - (365 * yearOfEra + yearOfEra / 4 - yearOfEra / 100)
  let shiftedMonth := (5 * dayOfYear + 2) / 153
  let dayOfMonth := dayOfYear - (153 * shiftedMonth + 2) / 5 + 1
  let month := if shiftedMonth < 10 then shiftedMonth + 3 else shiftedMonth - 9
  let year := (yearOfEra + era * 400).toNat + if month ≤ 2 then 1 else 0
  (year, month, dayOfMonth)

/-- The moment in UTC after a number of seconds since the beginning of 1970. -/
def Timestamp.ofSeconds (seconds : Int) : Timestamp :=
  let (year, month, day) := dateOf (seconds / 86400)
  let time := TimeOfDay.ofSeconds seconds
  ⟨year, month, day, time.hour, time.minute, time.second, 0, 0⟩

end WorkWatch.Time
