/-!
Regular patterns of texts, matched by derivatives: the derivative by a character matches what may
follow that character.
-/

namespace WorkWatch.Text

inductive Pattern where
  | never
  | blank
  | one (accepts : Char → Bool)
  | both (first second : Pattern)
  | either (first second : Pattern)
  | many (item : Pattern)

namespace Pattern

/-- The pattern matches the empty text. -/
def acceptsNothing : Pattern → Bool
  | never => false
  | blank => true
  | one _ => false
  | both p q => p.acceptsNothing && q.acceptsNothing
  | either p q => p.acceptsNothing || q.acceptsNothing
  | many _ => true

/-- One pattern after the other, kept small. -/
def andThen : Pattern → Pattern → Pattern
  | never, _ => never
  | blank, q => q
  | p, q => both p q

/-- One of two patterns, kept small. -/
def orElse : Pattern → Pattern → Pattern
  | never, q => q
  | p, never => p
  | p, q => either p q

def derivative (c : Char) : Pattern → Pattern
  | never => never
  | blank => never
  | one accepts => if accepts c then blank else never
  | both p q =>
    let first := (p.derivative c).andThen q
    if p.acceptsNothing then first.orElse (q.derivative c) else first
  | either p q => (p.derivative c).orElse (q.derivative c)
  | many p => (p.derivative c).andThen (many p)

/-- The pattern matches a whole text. -/
def accepts (p : Pattern) : List Char → Bool
  | [] => p.acceptsNothing
  | c :: rest => (p.derivative c).accepts rest

/-- Exactly this text. -/
def text (s : String) : Pattern := s.toList.foldr (fun c p => both (one (· == c)) p) blank

/-- One of the characters of a text. -/
def oneOf (s : String) : Pattern := one (s.toList.contains ·)

def sequence (ps : List Pattern) : Pattern := ps.foldr both blank

def choice (ps : List Pattern) : Pattern := ps.foldr either never

def optional (p : Pattern) : Pattern := either p blank

/-- One or more. -/
def some (p : Pattern) : Pattern := both p (many p)

def digit : Pattern := one fun c => '0' ≤ c && c ≤ '9'

/-- A fixed number of times. -/
def times : Nat → Pattern → Pattern
  | 0, _ => blank
  | n + 1, p => both p (times n p)

end Pattern

end WorkWatch.Text
