import WorkWatch.Decimal.Layout
import WorkWatch.Json.Basic

/-!
Writing JSON text in ASCII: on one line with given gaps, or indented by two blanks. A document can
be written with the members of every object in the order of their names.
-/

namespace WorkWatch.Json

open WorkWatch.Text

namespace Writer

/-- The escape of one UTF-16 unit. -/
def unit (n : Nat) : List Char := '\\' :: 'u' :: hexPadded 4 n

/-- One character of a string: what is not printable ASCII is escaped, beyond the first plane as
two units. -/
def character (c : Char) : List Char :=
  let n := c.toNat
  if c = '"' then ['\\', '"']
  else if c = '\\' then ['\\', '\\']
  else if c = '\n' then ['\\', 'n']
  else if c = '\r' then ['\\', 'r']
  else if c = '\t' then ['\\', 't']
  else if c = '\x08' then ['\\', 'b']
  else if c = '\x0c' then ['\\', 'f']
  else if 32 ≤ n && n < 127 then [c]
  else if n < 0x10000 then unit n
  else unit (0xd800 + (n - 0x10000) / 0x400) ++ unit (0xdc00 + (n - 0x10000) % 0x400)

def string (s : String) : List Char := '"' :: (s.toList.flatMap character ++ ['"'])

/-- A double; infinities and NaN are written as words. -/
def float (x : Float) : List Char :=
  match Decimal.Binary.ofFloat x with
  | .nan => "NaN".toList
  | .infinite negative => (if negative then ['-'] else []) ++ "Infinity".toList
  | _ => (Decimal.fullText x).toList

/-- A value without parts. -/
def scalar : Json → List Char
  | .null => "null".toList
  | .bool value => if value then "true".toList else "false".toList
  | .int value => (intText value).toList
  | .float value => float value
  | .str value => string value
  | .arr _ => ['[', ']']
  | .obj _ => ['\x7b', '\x7d']

/-- What stands between the parts of a document on one line. -/
structure Gaps where
  /-- After the comma between items or members. -/
  item : List Char
  /-- After the colon of a member. -/
  name : List Char

mutual
/-- A value on one line. -/
def value (gaps : Gaps) : Json → List Char
  | .arr (first :: rest) => '[' :: (value gaps first ++ (items gaps rest ++ [']']))
  | .obj ((name, first) :: rest) =>
    '\x7b' :: (string name ++ ':' :: gaps.name ++ value gaps first ++ members gaps rest ++ ['\x7d'])
  | plain => scalar plain

/-- Further items, each after a comma. -/
def items (gaps : Gaps) : List Json → List Char
  | [] => []
  | first :: rest => ',' :: (gaps.item ++ value gaps first ++ items gaps rest)

/-- Further members, each after a comma. -/
def members (gaps : Gaps) : List (String × Json) → List Char
  | [] => []
  | (name, first) :: rest =>
    ',' :: (gaps.item ++ string name ++ ':' :: gaps.name ++ value gaps first ++ members gaps rest)
end

def newline (depth : Nat) : List Char := '\n' :: List.replicate (2 * depth) ' '

mutual
/-- A value on several lines, `depth` levels deep. -/
def lines (depth : Nat) : Json → List Char
  | .arr (first :: rest) =>
    '[' :: (newline (depth + 1) ++ lines (depth + 1) first ++ moreItems (depth + 1) rest ++
      newline depth ++ [']'])
  | .obj ((name, first) :: rest) =>
    '\x7b' :: (newline (depth + 1) ++ string name ++ [':', ' '] ++ lines (depth + 1) first ++
      moreMembers (depth + 1) rest ++ newline depth ++ ['\x7d'])
  | plain => scalar plain

def moreItems (depth : Nat) : List Json → List Char
  | [] => []
  | first :: rest => ',' :: (newline depth ++ lines depth first ++ moreItems depth rest)

def moreMembers (depth : Nat) : List (String × Json) → List Char
  | [] => []
  | (name, first) :: rest =>
    ',' :: (newline depth ++ string name ++ [':', ' '] ++ lines depth first ++
      moreMembers depth rest)
end

end Writer

/-- JSON text without blanks. -/
def compact (document : Json) : String := String.ofList (Writer.value ⟨[], []⟩ document)

/-- JSON text on one line, with a blank after each comma and colon. -/
def spaced (document : Json) : String := String.ofList (Writer.value ⟨[' '], [' ']⟩ document)

def indented (document : Json) : String := String.ofList (Writer.lines 0 document)

/-- Inserts a member into members that are in the order of their names. -/
def insertMember (entry : String × Json) : List (String × Json) → List (String × Json)
  | [] => [entry]
  | first :: rest => if entry.1 ≤ first.1 then entry :: first :: rest
    else first :: insertMember entry rest

mutual
/-- The same document with the members of every object in the order of their names. -/
def sorted : Json → Json
  | .arr items => .arr (sortedItems items)
  | .obj members => .obj (sortedMembers members)
  | plain => plain

def sortedItems : List Json → List Json
  | [] => []
  | first :: rest => sorted first :: sortedItems rest

def sortedMembers : List (String × Json) → List (String × Json)
  | [] => []
  | (name, first) :: rest => insertMember (name, sorted first) (sortedMembers rest)
end

end WorkWatch.Json
