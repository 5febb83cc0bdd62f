import WorkWatch.Decimal.Layout
import WorkWatch.Decimal.Read
import WorkWatch.Text.Quoted

/-!
Durations such as `90`, `30s`, `1.5m` or `1h30m`, in seconds. A duration is positive and finite.
-/

namespace WorkWatch

open Text

/-- Why a value is no duration. The value is kept as it is shown. -/
inductive DurationError where
  | malformed (shown : String)
  | unusable (shown : String)
  deriving DecidableEq, Repr

def DurationError.message : DurationError → String
  | .malformed shown => shown ++ " is not a valid duration (for example 30s, 5m, 1h)."
  | .unusable shown => shown ++ " must be a positive, finite duration."

inductive TimeUnit where
  | milliseconds
  | seconds
  | minutes
  | hours
  deriving DecidableEq, Repr

def TimeUnit.inSeconds : TimeUnit → Float
  | .milliseconds => 0.001
  | .seconds => 1.0
  | .minutes => 60.0
  | .hours => 3600.0

def TimeUnit.text : TimeUnit → List Char
  | .milliseconds => ['m', 's']
  | .seconds => ['s']
  | .minutes => ['m']
  | .hours => ['h']

namespace Duration

/-- A unit at the beginning of a text, and the text after it. Milliseconds come before minutes. -/
def unit? : List Char → Option (TimeUnit × List Char)
  | 'm' :: 's' :: rest => some (.milliseconds, rest)
  | 's' :: rest => some (.seconds, rest)
  | 'm' :: rest => some (.minutes, rest)
  | 'h' :: rest => some (.hours, rest)
  | _ => none

/-- One part of a duration: a number as it is written, and its unit. -/
structure Part where
  number : List Char
  unit : TimeUnit
  deriving DecidableEq, Repr

def Part.text (part : Part) : List Char := part.number ++ part.unit.text

/-- Digits, and digits after a point if there are any, at the beginning of a text. -/
def number (s : List Char) : List Char × List Char :=
  let whole := s.takeWhile isAnyDigit
  let rest := s.dropWhile isAnyDigit
  match rest with
  | '.' :: after =>
    let fraction := after.takeWhile isAnyDigit
    if fraction.isEmpty then (whole, rest)
    else (whole ++ '.' :: fraction, after.dropWhile isAnyDigit)
  | _ => (whole, rest)

/-- A part at the beginning of a text, and the text after it. -/
def part? (s : List Char) : Option (Part × List Char) :=
  if (s.head?.any isAnyDigit) then
    let (number, rest) := number s
    (unit? rest).map fun (unit, rest) => (⟨number, unit⟩, rest)
  else none

/-- The parts that stand in a text, from left to right; what stands between them is skipped. So many
characters at the beginning still belong to the part before. -/
def partsAfter : Nat → List Char → List Part
  | _, [] => []
  | covered + 1, _ :: rest => partsAfter covered rest
  | 0, c :: rest =>
    match part? (c :: rest) with
    | some (part, _) => part :: partsAfter (part.text.length - 1) rest
    | none => partsAfter 0 rest

/-- The parts that stand in a text, if they are the whole text and there is one at least. -/
def parts? (s : List Char) : Option (List Part) :=
  let parts := partsAfter 0 s
  if parts.isEmpty || parts.flatMap Part.text != s then none else some parts

def Part.seconds (part : Part) : Float :=
  ((Decimal.readFloat? (String.ofList part.number)).getD 0) * part.unit.inSeconds

def total (parts : List Part) : Float := parts.foldl (fun sum part => sum + part.seconds) 0

/-- A number of seconds as a duration. -/
def ofSeconds (shown : String) (seconds : Float) : Except DurationError Float :=
  if Decimal.isFinite seconds && 0 < seconds then .ok seconds else .error (.unusable shown)

/-- Reads a duration: a number of seconds, or parts with units. -/
def parse (text : String) : Except DurationError Float :=
  let stripped := stripped text
  match Decimal.readFloat? stripped with
  | some seconds => ofSeconds (quoted text) seconds
  | none =>
    match parts? stripped.toList with
    | some parts => ofSeconds (quoted text) (total parts)
    | none => .error (.malformed (quoted text))

end Duration

end WorkWatch
