import WorkWatch.Net.Composition
import WorkWatch.Net.LabelTable
import WorkWatch.Text.Case

/-!
The labels of international host names: which characters they may hold, what some of these need
around them, and in which direction they are written.
-/

namespace WorkWatch.Net.Label

open WorkWatch.Text

/-! ## Characters -/

/-- The character may stand anywhere in a label. -/
def isValid (c : Char) : Bool :=
  inRanges LabelTable.valid c ||
    LabelTable.validByTwos.any fun (first, last) =>
      first ≤ c.toNat && c.toNat ≤ last && (c.toNat - first) % 2 = 0

def isNonspacing (c : Char) : Bool := inRanges LabelTable.nonspacing c

def isMark (c : Char) : Bool := isNonspacing c || inRanges LabelTable.spacing c

/-- Marks that silence the vowel of a letter have a class of their own. -/
def isVirama (c : Char) : Bool := Composition.combiningClass c = 9

/-- Letters join across such characters: nonspacing marks but for one, and one letter. -/
def isTransparent (c : Char) : Bool :=
  (isNonspacing c && c.toNat != 0x1171e) || c.toNat = 0x1e94b

/-- The letters before and after a place join; what is before it is given in reverse. -/
def joinsAcross (before after : List Char) : Bool :=
  ((before.dropWhile isTransparent).head?.any fun c =>
    inRanges LabelTable.joinsBoth c || inRanges LabelTable.joinsBehind c) &&
  (after.dropWhile isTransparent).head?.any fun c =>
    inRanges LabelTable.joinsBoth c || inRanges LabelTable.joinsBefore c

/-- Arabic digits, in the form of Arabia. -/
def isArabicDigit (c : Char) : Bool := '\u0660' ≤ c && c ≤ '\u0669'

/-- Arabic digits, in the form of Persia and India. -/
def isEasternDigit (c : Char) : Bool := '\u06f0' ≤ c && c ≤ '\u06f9'

/-- A character may stand between what is before it, given in reverse, and what is after it. -/
def mayStand (before : List Char) (c : Char) (after : List Char) : Bool :=
  -- The middle dot between two letters l, then the number signs of Greek and Hebrew.
  if c = '\u00b7' then before.head? = some 'l' && after.head? = some 'l'
  else if c = '\u0375' then after.head?.any (inRanges LabelTable.greek)
  else if c = '\u05f3' || c = '\u05f4' then before.head?.any (inRanges LabelTable.hebrew)
  -- The Japanese middle dot, where there is something Japanese at all.
  else if c = '\u30fb' then (before ++ after).any (inRanges LabelTable.japanese)
  -- The two forms of Arabic digits do not mix.
  else if isArabicDigit c then !(before ++ after).any isEasternDigit
  else if isEasternDigit c then !(before ++ after).any isArabicDigit
  -- The marks that keep letters apart and join them stand behind one that silences a vowel.
  else if c = '\u200c' then before.head?.any isVirama || joinsAcross before after
  else if c = '\u200d' then before.head?.any isVirama
  else isValid c

/-- All characters may stand where they are, after some that are given in reverse. -/
def allMayStand (before : List Char) : List Char → Bool
  | [] => true
  | c :: rest => mayStand before c rest && allMayStand (c :: before) rest

/-! ## Direction -/

/-- How a character is written among others. -/
inductive Direction where
  | leftToRight
  | rightToLeft
  | arabicDigit
  | digit
  | neutral
  | mark
  deriving DecidableEq, Repr

def direction (c : Char) : Direction :=
  if inRanges LabelTable.rightToLeft c then .rightToLeft
  else if inRanges LabelTable.arabicDigits c then .arabicDigit
  else if inRanges LabelTable.europeanDigits c then .digit
  else if inRanges LabelTable.neutral c then .neutral
  else if isNonspacing c && !inRanges LabelTable.leftToRightMarks c then .mark
  else .leftToRight

/-- A label with something written from right to left begins with such a letter, has none that is
written from left to right, ends, marks apart, in a letter or a digit, and does not mix the two
kinds of digits. -/
def isDirected (label : List Char) : Bool :=
  let directions := label.map direction
  let isDirection (d : Direction) : Bool := directions.contains d
  if isDirection .rightToLeft || isDirection .arabicDigit then
    directions.head? = some .rightToLeft && !isDirection .leftToRight &&
      (directions.reverse.dropWhile (· = .mark)).head? != some .neutral &&
      !(isDirection .arabicDigit && isDirection .digit)
  else true

/-! ## Labels -/

/-- A label has no hyphen at an end and no two hyphens after its second character, does not begin
with a mark, is written in the agreed form, and holds what may stand in it. -/
def isLabel (label : List Char) : Bool :=
  !label.isEmpty && label.head? != some '-' && label.getLast? != some '-' &&
    !(['-', '-'].isPrefixOf (label.drop 2)) && !(label.head?.any isMark) &&
    allMayStand [] label && Composition.composed label == label && isDirected label

end WorkWatch.Net.Label
