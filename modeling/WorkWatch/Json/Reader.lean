import WorkWatch.Decimal.Read
import WorkWatch.Json.Basic

/-!
Reading JSON text. Besides the standard the words `NaN`, `Infinity` and `-Infinity` are numbers. Of
members with the same name the last value stands at the first place. An integer of more than 4300
digits is refused, and so are arrays and objects that stand too deep inside one another.
-/

namespace WorkWatch.Json

open WorkWatch.Text

inductive Container where
  | array
  | object
  deriving DecidableEq, Repr

def Container.text : Container → String
  | .array => "array"
  | .object => "object"

inductive ReadError where
  | malformed
  | tooLong (digits : Nat)
  | tooDeep (container : Container)
  deriving DecidableEq, Repr

/-- The greatest number of arrays and objects inside one another. -/
def nestingLimit : Nat := 985

namespace Reader

def isSpace (c : Char) : Bool := c = ' ' || c = '\t' || c = '\n' || c = '\r'

def skip (s : List Char) : List Char := s.dropWhile isSpace

/-- The character that a one-letter escape stands for. -/
def escape? : Char → Option Char
  | '"' => some '"'
  | '\\' => some '\\'
  | '/' => some '/'
  | 'b' => some '\x08'
  | 'f' => some '\x0c'
  | 'n' => some '\n'
  | 'r' => some '\r'
  | 't' => some '\t'
  | _ => none

def hex4? (a b c d : Char) : Option Nat := do
  let a ← hexValue? a
  let b ← hexValue? b
  let c ← hexValue? c
  let d ← hexValue? d
  some (((a * 16 + b) * 16 + c) * 16 + d)

/-- The code points of a string after its opening quote, and the text after its closing one. An
escaped surrogate is a code point of its own here. -/
def codes : List Char → Option (List Nat × List Char)
  | [] => none
  | '"' :: rest => some ([], rest)
  | '\\' :: 'u' :: a :: b :: c :: d :: rest => do
    let n ← hex4? a b c d
    let (more, after) ← codes rest
    some (n :: more, after)
  | '\\' :: e :: rest => do
    let c ← escape? e
    let (more, after) ← codes rest
    some (c.toNat :: more, after)
  | c :: rest =>
    if c.toNat < 32 || c = '\\' then none
    else do
      let (more, after) ← codes rest
      some (c.toNat :: more, after)

/-- Joins surrogate pairs; a surrogate that stands alone becomes the replacement character. -/
def joined : List Nat → List Char
  | [] => []
  | high :: rest =>
    if 0xd800 ≤ high && high < 0xdc00 then
      match rest with
      | low :: rest' =>
        if 0xdc00 ≤ low && low < 0xe000 then
          Char.ofNat (0x10000 + (high - 0xd800) * 0x400 + (low - 0xdc00)) :: joined rest'
        else '\ufffd' :: joined (low :: rest')
      | [] => ['\ufffd']
    else if 0xdc00 ≤ high && high < 0xe000 then '\ufffd' :: joined rest
    else Char.ofNat high :: joined rest

def string (s : List Char) : Option (String × List Char) :=
  (codes s).map fun (points, rest) => (String.ofList (joined points), rest)

/-- Takes a part that starts with `mark` and has digits after it; without digits there is no such
part. -/
def digitsAfter (mark : List Char) (s : List Char) : List Char × List Char :=
  let digits := s.takeWhile isDigit
  if digits.isEmpty then ([], mark ++ s) else (digits, s.dropWhile isDigit)

/-- The fraction digits of a number and the text after them. -/
def fraction : List Char → List Char × List Char
  | '.' :: rest => digitsAfter ['.'] rest
  | s => ([], s)

/-- The exponent of a number, if it has one, and the text after it. -/
def exponent (s : List Char) : Option Int × List Char :=
  match s with
  | e :: rest =>
    if e = 'e' || e = 'E' then
      let (negative, mark) : Bool × List Char :=
        match rest with
        | '-' :: _ => (true, [e, '-'])
        | '+' :: _ => (false, [e, '+'])
        | _ => (false, [e])
      let (digits, after) := digitsAfter mark (rest.drop (mark.length - 1))
      if digits.isEmpty then (none, s)
      else (some (if negative then -(ofDigits digits : Int) else ofDigits digits), after)
    else (none, s)
  | [] => (none, [])

def orMalformed {α : Type} (found : Option α) : Except ReadError α :=
  match found with
  | some result => .ok result
  | none => .error .malformed

/-- A number after its sign. -/
def number (negative : Bool) (s : List Char) : Except ReadError (Json × List Char) :=
  let whole := match s with
    | '0' :: _ => ['0']
    | _ => s.takeWhile isDigit
  if whole.isEmpty then .error .malformed
  else
    let (places, rest) := fraction (s.drop whole.length)
    let (power, rest) := exponent rest
    match places, power with
    | [], none =>
      if Decimal.digitLimit < whole.length then .error (.tooLong whole.length)
      else .ok (.int (if negative then -(ofDigits whole : Int) else ofDigits whole), rest)
    | places, power =>
      .ok (.float (Decimal.ofDecimal negative (ofDigits (whole ++ places))
        (power.getD 0 - places.length)), rest)

def words : List (List Char × Json) := [
  (['n', 'u', 'l', 'l'], .null),
  (['t', 'r', 'u', 'e'], .bool true),
  (['f', 'a', 'l', 's', 'e'], .bool false),
  (['N', 'a', 'N'], .float Decimal.nan),
  (['I', 'n', 'f', 'i', 'n', 'i', 't', 'y'], .float (Decimal.ofRank false Decimal.infiniteRank)),
  (['-', 'I', 'n', 'f', 'i', 'n', 'i', 't', 'y'],
    .float (Decimal.ofRank true Decimal.infiniteRank))]

def word (s : List Char) : Option (Json × List Char) :=
  (words.find? fun (text, _) => text.isPrefixOf s).map fun (text, value) =>
    (value, s.drop text.length)

/-- A value that is neither a string, an array nor an object. -/
def scalar (s : List Char) : Except ReadError (Json × List Char) :=
  match word s with
  | some found => .ok found
  | none =>
    match s with
    | '-' :: rest => number true rest
    | s => number false s

mutual
/-- A value at the beginning of a text, and the text after it. Arrays and objects may be opened
`depth` times inside one another. -/
def value : Nat → Nat → List Char → Except ReadError (Json × List Char)
  | 0, _, _ => .error .malformed
  | _ + 1, _, '"' :: rest => (orMalformed (string rest)).map fun (text, rest) => (.str text, rest)
  | _ + 1, 0, '[' :: _ => .error (.tooDeep .array)
  | _ + 1, 0, '{' :: _ => .error (.tooDeep .object)
  | fuel + 1, depth + 1, '[' :: rest =>
    match skip rest with
    | ']' :: rest => .ok (.arr [], rest)
    | rest => (items fuel depth rest).map fun (values, rest) => (.arr values, rest)
  | fuel + 1, depth + 1, '{' :: rest =>
    match skip rest with
    | '}' :: rest => .ok (.obj [], rest)
    | rest =>
      (members fuel depth rest).map fun (entries, rest) => (.obj (Fields.ofList entries), rest)
  | _ + 1, _, s => scalar s

/-- The items of an array up to its closing bracket. -/
def items : Nat → Nat → List Char → Except ReadError (List Json × List Char)
  | 0, _, _ => .error .malformed
  | fuel + 1, depth, s => do
    let (first, rest) ← value fuel depth s
    match skip rest with
    | ']' :: rest => .ok ([first], rest)
    | ',' :: rest => do
      let (more, rest) ← items fuel depth (skip rest)
      .ok (first :: more, rest)
    | _ => .error .malformed

/-- The members of an object up to its closing brace. -/
def members : Nat → Nat → List Char → Except ReadError (List (String × Json) × List Char)
  | 0, _, _ => .error .malformed
  | _ + 1, _, [] => .error .malformed
  | fuel + 1, depth, c :: s =>
    if c = '"' then do
      let (name, rest) ← orMalformed (string s)
      match skip rest with
      | ':' :: rest => do
        let (first, rest) ← value fuel depth (skip rest)
        match skip rest with
        | '}' :: rest => .ok ([(name, first)], rest)
        | ',' :: rest => do
          let (more, rest) ← members fuel depth (skip rest)
          .ok ((name, first) :: more, rest)
        | _ => .error .malformed
      | _ => .error .malformed
    else .error .malformed
end

end Reader

/-- The value of a JSON text. -/
def read (s : List Char) : Except ReadError Json := do
  let start := Reader.skip s
  -- At least every other step of the reader takes a character, which bounds their number.
  let (value, rest) ← Reader.value (2 * start.length + 1) nestingLimit start
  if (Reader.skip rest).isEmpty then .ok value else .error .malformed

def parse (s : String) : Except ReadError Json := read s.toList

end WorkWatch.Json
