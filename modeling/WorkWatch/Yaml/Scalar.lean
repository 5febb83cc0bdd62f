import WorkWatch.Decimal.Layout
import WorkWatch.Yaml.Resolve

/-!
YAML scalars: plain where the text allows it, else in single quotes, else in double quotes with
escapes. A text that runs past column 80 is folded at its blanks.
-/

namespace WorkWatch.Yaml

open WorkWatch.Text (hexPadded intText)

/-- The column after which texts are folded. -/
def width : Nat := 80

def isBreak (c : Char) : Bool := c = '\n' || c = '\x85' || c = '\u2028' || c = '\u2029'

/-- Blanks, breaks and the null character. -/
def isGap (c : Char) : Bool := c = ' ' || c = '\t' || c = '\r' || c = '\x00' || isBreak c

/-- Characters that need an escape. -/
def isSpecial (c : Char) : Bool :=
  let n := c.toNat
  !(c = '\n' || (0x20 ≤ n && n ≤ 0x7e) || n = 0x85 ||
    (0xa0 ≤ n && n ≤ 0xfffd && n != 0xfeff) || (0x10000 ≤ n && n < 0x10ffff))

/-- A gap or the end of the text comes next. -/
def gapAhead : List Char → Bool
  | [] => true
  | c :: _ => isGap c

/-- The text begins with a mark that has a meaning. -/
def startsWithMark : List Char → Bool
  | [] => false
  | c :: rest =>
    "#,[]\x7b\x7d&*!|>'\"%@\x60".toList.contains c || ("?:-".toList.contains c && gapAhead rest)

/-- A colon before a gap, or a number sign after one. -/
def hasInnerMark (afterGap : Bool) : List Char → Bool
  | [] => false
  | c :: rest =>
    (c = ':' && gapAhead rest) || (c = '#' && afterGap) || hasInnerMark (isGap c) rest

/-- Two neighbours in a text. -/
def hasPair (p q : Char → Bool) : List Char → Bool
  | a :: b :: rest => (p a && q b) || hasPair p q (b :: rest)
  | _ => false

/-- The text may stand without quotes. -/
def isPlain (s : List Char) : Bool :=
  !s.isEmpty && !(s.head?.any (· == ' ')) && !(s.getLast?.any (· == ' ')) &&
    !s.any isBreak && !s.any isSpecial && !startsWithMark s && !hasInnerMark false (s.drop 1) &&
    !(['-', '-', '-'].isPrefixOf s) && !(['.', '.', '.'].isPrefixOf s) && !isReserved s

/-- The text may stand in single quotes. -/
def isSingle (s : List Char) : Bool :=
  !s.any isSpecial && !hasPair isBreak (· == ' ') s && !hasPair (· == ' ') isBreak s

/-- A new line with its indentation. -/
def newline (indent : Nat) : List Char := '\n' :: List.replicate indent ' '

/-- A plain text from `column` on, with `blanks` read and not yet written. A single blank past the
width becomes a line break. -/
def plain (folds : Bool) (indent column blanks : Nat) : List Char → List Char
  | [] => List.replicate blanks ' '
  | c :: rest =>
    if c = ' ' then plain folds indent column (blanks + 1) rest
    else if folds && blanks = 1 && width < column then
      newline indent ++ c :: plain folds indent (indent + 1) 0 rest
    else List.replicate blanks ' ' ++ c :: plain folds indent (column + blanks + 1) 0 rest

/-- The inside of single quotes. `atStart` and `inBreaks` tell what has been read: nothing but
blanks, or a row of breaks. -/
def single (folds : Bool) (indent column blanks : Nat) (atStart inBreaks : Bool) :
    List Char → List Char
  | [] => if inBreaks then List.replicate indent ' ' else List.replicate blanks ' '
  | c :: rest =>
    if c = ' ' then single folds indent column (blanks + 1) atStart false rest
    else if isBreak c then
      -- The first line break of a row is doubled, since a single one is read as a fold.
      let mark := if c = '\n' && !inBreaks then ['\n', c] else [c]
      mark ++ single folds indent 0 0 false true rest
    else
      let (lead, start) : List Char × Nat :=
        if inBreaks then (List.replicate indent ' ', indent)
        else if folds && blanks = 1 && width < column && !atStart then (newline indent, indent)
        else (List.replicate blanks ' ', column + blanks)
      let mark := if c = '\'' then ['\'', '\''] else [c]
      lead ++ mark ++ single folds indent (start + mark.length) 0 false false rest

/-- A character that stands for itself in double quotes. -/
def isLiteral (c : Char) : Bool :=
  let n := c.toNat
  c != '"' && c != '\\' &&
    ((0x20 ≤ n && n ≤ 0x7e) ||
      (0xa0 ≤ n && n ≤ 0xfffd && n != 0x2028 && n != 0x2029 && n != 0xfeff))

/-- The escape of a character in double quotes. -/
def escape (c : Char) : List Char :=
  let upper (s : List Char) := s.map Char.toUpper
  '\\' ::
    match c with
    | '\x00' => ['0']
    | '\x07' => ['a']
    | '\x08' => ['b']
    | '\t' => ['t']
    | '\n' => ['n']
    | '\x0b' => ['v']
    | '\x0c' => ['f']
    | '\r' => ['r']
    | '\x1b' => ['e']
    | '"' => ['"']
    | '\\' => ['\\']
    | '\x85' => ['N']
    | '\u2028' => ['L']
    | '\u2029' => ['P']
    | c =>
      if c.toNat ≤ 0xff then 'x' :: upper (hexPadded 2 c.toNat)
      else if c.toNat ≤ 0xffff then 'u' :: upper (hexPadded 4 c.toNat)
      else 'U' :: upper (hexPadded 8 c.toNat)

/-- The mark that keeps a blank at the beginning of a folded line. -/
def keepBlank : List Char → List Char
  | ' ' :: _ => ['\\']
  | _ => []

/-- The inside of double quotes. `fresh` tells that no literal character was written since the last
escape. -/
def double (folds : Bool) (indent column : Nat) (first fresh : Bool) : List Char → List Char
  | [] => []
  | c :: rest =>
    -- A line is folded before a blank and around an escape, but neither before the first nor after
    -- the last character.
    let mayFold := folds && !first && !rest.isEmpty
    if isLiteral c then
      if mayFold && (c = ' ' || fresh) && width < column then
        let keep := keepBlank [c]
        '\\' :: (newline indent ++ keep ++
          c :: double folds indent (indent + keep.length + 1) false false rest)
      else c :: double folds indent (column + 1) false false rest
    else
      let text := escape c
      if mayFold && width + 1 < column + text.length then
        let keep := keepBlank rest
        text ++ '\\' :: (newline indent ++ keep ++
          double folds indent (indent + keep.length) false true rest)
      else text ++ double folds indent (column + text.length) false true rest

/-- A text from `column` on, continued with `indent` blanks on further lines. -/
def text (folds : Bool) (indent column : Nat) (s : List Char) : List Char :=
  if isPlain s then plain folds indent column 0 s
  else if isSingle s then
    '\'' :: (single folds indent (column + 1) 0 true false s ++ ['\''])
  else '"' :: (double folds indent (column + 1) true true s ++ ['"'])

/-- The text of a double: the shortest one, with a point. -/
def floatText (x : Float) : List Char :=
  match Decimal.Binary.ofFloat x with
  | .nan => ['.', 'n', 'a', 'n']
  | .infinite negative => (if negative then ['-'] else []) ++ ['.', 'i', 'n', 'f']
  | _ =>
    let s := (Decimal.fullText x).toList
    if s.contains '.' then s else s.flatMap fun c => if c = 'e' then ['.', '0', 'e'] else [c]

end WorkWatch.Yaml
