import WorkWatch.Json.Basic
import WorkWatch.Yaml.Scalar

/-!
JSON values as YAML documents in block style. Sequences stand under their key without further
indentation; members keep their order.
-/

namespace WorkWatch.Yaml

open WorkWatch.Text (intText)

/-- A value without parts, from `column` on. -/
def scalar (indent column : Nat) : Json → List Char
  | .null => ['n', 'u', 'l', 'l']
  | .bool value => if value then ['t', 'r', 'u', 'e'] else ['f', 'a', 'l', 's', 'e']
  | .int value => (intText value).toList
  | .float value => floatText value
  | .str value => text true indent column value.toList
  | .arr _ => ['[', ']']
  | .obj _ => ['\x7b', '\x7d']

/-- The greatest length of a key that is followed by its colon on the same line. -/
def keyLimit : Nat := 122

/-- The key may be followed by its colon on the same line. -/
def isSimpleKey (key : List Char) : Bool :=
  !key.isEmpty && !key.any isBreak && key.length ≤ keyLimit

/-- Where a value stands: after a key and its colon, which end before `column`, or after a dash or a
colon at the beginning of a line. -/
inductive Place where
  | key (column : Nat)
  | mark

namespace Place

def sequence (indent : Nat) : Place → Nat
  | key _ => indent
  | mark => indent + 2

/-- What comes before the first entry of a sequence or mapping with some indentation. -/
def lead (indent : Nat) : Place → List Char
  | key _ => newline indent
  | mark => [' ']

def column (indent : Nat) : Place → Nat
  | key column => column + 1
  | mark => indent + 2

def ofName (indent : Nat) (name : List Char) : Place :=
  if isSimpleKey name then key (indent + (text false indent indent name).length + 1) else mark

end Place

/-- A key with its colon. One that is not simple has a question mark before it, and its colon on
the next line. -/
def keyText (indent : Nat) (name : List Char) : List Char :=
  if isSimpleKey name then text false indent indent name ++ [':']
  else ['?', ' '] ++ text true (indent + 2) (indent + 2) name ++ newline indent ++ [':']

mutual
/-- A value inside a sequence or mapping with some indentation. -/
def value (place : Place) (indent : Nat) : Json → List Char
  | .arr (first :: rest) =>
    let inner := place.sequence indent
    place.lead inner ++ '-' :: (value .mark inner first ++ moreItems inner rest)
  | .obj ((name, first) :: rest) =>
    let inner := indent + 2
    place.lead inner ++ keyText inner name.toList ++
      value (.ofName inner name.toList) inner first ++ moreMembers inner rest
  | plain => ' ' :: scalar (indent + 2) (place.column indent) plain

/-- Further items of a sequence, each on a line of its own. -/
def moreItems (indent : Nat) : List Json → List Char
  | [] => []
  | first :: rest => newline indent ++ '-' :: (value .mark indent first ++ moreItems indent rest)

/-- Further members of a mapping, each on a line of its own. -/
def moreMembers (indent : Nat) : List (String × Json) → List Char
  | [] => []
  | (name, first) :: rest =>
    newline indent ++ keyText indent name.toList ++
      value (.ofName indent name.toList) indent first ++ moreMembers indent rest
end

/-- The value is written as a plain scalar. -/
def isPlainValue : Json → Bool
  | .str value => isPlain value.toList
  | .arr _ => false
  | .obj _ => false
  | _ => true

/-- A document without a line break at its end. A plain scalar alone is ended by dots. -/
def document : Json → String
  | .arr (first :: rest) => String.ofList ('-' :: (value .mark 0 first ++ moreItems 0 rest))
  | .obj ((name, first) :: rest) =>
    String.ofList (keyText 0 name.toList ++ value (.ofName 0 name.toList) 0 first ++
      moreMembers 0 rest)
  | plain =>
    String.ofList (scalar 2 0 plain ++ if isPlainValue plain then ['\n', '.', '.', '.'] else [])

end WorkWatch.Yaml
