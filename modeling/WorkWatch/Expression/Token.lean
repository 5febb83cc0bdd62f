import WorkWatch.Text.Blank

/-!
Tokens of condition expressions: parentheses, the operators AND and OR, also written `&&` and `||`,
and conditions. Words between them that stand side by side make up one condition.
-/

namespace WorkWatch

open Text

inductive TokenKind where
  | leftParen
  | rightParen
  | and
  | or
  | condition
  deriving DecidableEq, Repr

/-- A token with its text and the position of its first character. -/
structure Token where
  kind : TokenKind
  text : String
  position : Nat
  deriving DecidableEq, Repr

namespace Token

def wordKind (word : List Char) : TokenKind :=
  if word = ['A', 'N', 'D'] then .and else if word = ['O', 'R'] then .or else .condition

/-- The token of a word that ends before `position`, if there is a word. -/
def ofWord (word : List Char) (position : Nat) : List Token :=
  if word.isEmpty then []
  else [⟨wordKind word, String.ofList word, position - word.length⟩]

/-- The tokens of a text from `position` on, each word being one token. The word read so far is
given in reverse. -/
def scan (word : List Char) (position : Nat) : List Char → List Token
  | [] => ofWord word.reverse position
  | '&' :: '&' :: rest =>
    ofWord word.reverse position ++ ⟨.and, "&&", position⟩ :: scan [] (position + 2) rest
  | '|' :: '|' :: rest =>
    ofWord word.reverse position ++ ⟨.or, "||", position⟩ :: scan [] (position + 2) rest
  | c :: rest =>
    if c = '(' then
      ofWord word.reverse position ++ ⟨.leftParen, "(", position⟩ :: scan [] (position + 1) rest
    else if c = ')' then
      ofWord word.reverse position ++ ⟨.rightParen, ")", position⟩ :: scan [] (position + 1) rest
    else if isBlank c then ofWord word.reverse position ++ scan [] (position + 1) rest
    else scan (c :: word) (position + 1) rest

/-- Puts a token in front of others; two conditions become one. -/
def join (token : Token) : List Token → List Token
  | [] => [token]
  | next :: rest =>
    if token.kind = .condition ∧ next.kind = .condition then
      ⟨.condition, token.text ++ " " ++ next.text, token.position⟩ :: rest
    else token :: next :: rest

def tokenize (source : List Char) : List Token := (scan [] 0 source).foldr join []

end Token

end WorkWatch
