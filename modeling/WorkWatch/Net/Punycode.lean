import WorkWatch.Text.Digits

/-!
Punycode, a way to write any text in letters, digits and hyphens. The characters of ASCII stand in
front, with a hyphen behind them; the others follow as numbers, each of which tells how far the next
one, in the order of code points and then of places, is from the one before.
-/

namespace WorkWatch.Net.Punycode

open WorkWatch.Text

/-! ## Numbers -/

/-- The digit of a value below 36: letters first. -/
def digit (n : Nat) : Char := if n < 26 then Char.ofNat ('a'.toNat + n) else digitChar (n - 26)

/-- The value of a digit; capital letters count as small ones. -/
def value? (c : Char) : Option Nat :=
  if 'a' ≤ c && c ≤ 'z' then some (c.toNat - 'a'.toNat)
  else if 'A' ≤ c && c ≤ 'Z' then some (c.toNat - 'A'.toNat)
  else if isDigit c then some (digitValue c + 26)
  else none

/-- A digit is read as the value it is written for. -/
theorem value?_digit : ∀ n < 36, value? (digit n) = some n := by decide

/-- Divides by 35 until the value is at most 455, and counts the divisions; at most `fuel` are
made. -/
def flatten : Nat → Nat → Nat × Nat
  | 0, delta => (0, delta)
  | fuel + 1, delta =>
    if 455 < delta then
      let (count, rest) := flatten fuel (delta / 35)
      (count + 1, rest)
    else (0, delta)

/-- The bias after a delta among a number of characters. -/
def adapt (delta count : Nat) (first : Bool) : Nat :=
  let delta := if first then delta / 700 else delta / 2
  let delta := delta + delta / count
  let (divisions, rest) := flatten delta.log2 delta
  36 * divisions + 36 * rest / (rest + 38)

/-- The threshold of the digit at a place: a digit below it is the last one of its number. -/
def threshold (place bias : Nat) : Nat :=
  if place ≤ bias + 1 then 1 else min (place - bias) 26

/-- A number with digits of growing weight from a place on; at most `fuel` digits come before the
last one. -/
def digits (bias place : Nat) : Nat → Nat → List Char
  | 0, _ => []
  | fuel + 1, n =>
    let t := threshold place bias
    if n < t then [digit n]
    else digit (t + (n - t) % (36 - t)) :: digits bias (place + 36) fuel ((n - t) / (36 - t))

/-- Reads a number with digits from a place on, and gives what follows it. -/
def readNumber (bias place : Nat) : List Char → Option (Nat × List Char)
  | [] => none
  | c :: rest => do
    let value ← value? c
    let t := threshold place bias
    if value < t then return (value, rest)
    let (more, rest) ← readNumber bias (place + 36) rest
    return (value + (36 - t) * more, rest)

/-! ## Writing -/

/-- Where writing stands: the next code point, the distance gathered, the bias, the number of
characters dealt with, and the text so far. -/
structure State where
  next : Nat
  delta : Nat
  bias : Nat
  done : Nat
  text : List Char

/-- Deals with the occurrences of one code point in a text. -/
def encodePoint (s : List Char) (basic : Nat) (state : State) (point : Nat) : State :=
  let start := { state with
    delta := state.delta + (point - state.next) * (state.done + 1), next := point }
  let finish := s.foldl (fun (state : State) c =>
    if c.toNat < point then { state with delta := state.delta + 1 }
    else if c.toNat = point then
      { state with
        delta := 0
        bias := adapt state.delta (state.done + 1) (state.done == basic)
        done := state.done + 1
        text := state.text ++ digits state.bias 36 (state.delta + 1) state.delta }
    else state) start
  { finish with delta := finish.delta + 1, next := point + 1 }

/-- Inserts a number into increasing ones unless it is there. -/
def insertPoint (n : Nat) : List Nat → List Nat
  | [] => [n]
  | first :: rest =>
    if n < first then n :: first :: rest
    else if n = first then first :: rest
    else first :: insertPoint n rest

def encode (s : List Char) : List Char :=
  let basic := s.filter (·.toNat < 128)
  let points := (s.filter (128 ≤ ·.toNat)).foldr (fun c => insertPoint c.toNat) []
  let start : State :=
    ⟨128, 0, 72, basic.length, if basic.isEmpty then [] else basic ++ ['-']⟩
  (points.foldl (encodePoint s basic.length) start).text

/-! ## Reading -/

/-- Inserts the characters that numbers tell of into a text. The next of them has at least the code
point `next`, and at this one a place that is at least `place`; at most `fuel` are read. -/
def decodeWithin (next place bias : Nat) (first : Bool) (text : List Char) :
    Nat → List Char → Option (List Char)
  | _, [] => some text
  | 0, _ => none
  | fuel + 1, numbers => do
    let (delta, numbers) ← readNumber bias 36 numbers
    let count := text.length + 1
    let next := next + (place + delta) / count
    let place := (place + delta) % count
    if next.isValidChar then
      decodeWithin next (place + 1) (adapt delta count first) false
        (text.take place ++ Char.ofNat next :: text.drop place) fuel numbers
    else none

/-- Reads a text. What stands before the last hyphen is taken as it is. -/
def decode? (s : List Char) : Option (List Char) :=
  let numbers := (s.reverse.takeWhile (· != '-')).reverse
  let basic := s.take (s.length - numbers.length - 1)
  decodeWithin 128 0 72 true basic numbers.length numbers

end WorkWatch.Net.Punycode
