import WorkWatch.Text.Pattern

/-!
Plain scalars that stand for something else than text: truth values, numbers, null, timestamps and
the keys with a meaning of their own. Text that looks like one of them has to be quoted.
-/

namespace WorkWatch.Yaml

open WorkWatch.Text Pattern

def words (ws : List String) : Pattern := choice (ws.map text)

def sign : Pattern := optional (oneOf "+-")

/-- Digits of a class with underscores among them, at least one character. -/
def digitsOf (digits : String) : Pattern := some (oneOf digits)

def decimals : Pattern := many (oneOf "0123456789_")

/-- Parts of sixty after a colon each. -/
def sixties : Pattern := some (sequence [text ":", optional (oneOf "012345"), digit])

def truth : Pattern := words ["yes", "Yes", "YES", "no", "No", "NO", "true", "True", "TRUE",
  "false", "False", "FALSE", "on", "On", "ON", "off", "Off", "OFF"]

def power : Pattern := optional (sequence [oneOf "eE", oneOf "+-", some digit])

def floating : Pattern := choice [
  sequence [sign, digit, decimals, text ".", decimals, power],
  sequence [text ".", digit, decimals, power],
  sequence [sign, digit, decimals, sixties, text ".", decimals],
  sequence [sign, text ".", words ["inf", "Inf", "INF"]],
  sequence [text ".", words ["nan", "NaN", "NAN"]]]

def integer : Pattern := choice [
  sequence [sign, text "0b", digitsOf "01_"],
  sequence [sign, text "0", digitsOf "01234567_"],
  sequence [sign, text "0"],
  sequence [sign, oneOf "123456789", decimals],
  sequence [sign, text "0x", digitsOf "0123456789abcdefABCDEF_"],
  sequence [sign, oneOf "123456789", decimals, sixties]]

def null : Pattern := words ["", "~", "null", "Null", "NULL"]

/-- One or two digits. -/
def fewDigits : Pattern := sequence [digit, optional digit]

def timestamp : Pattern := choice [
  sequence [times 4 digit, text "-", times 2 digit, text "-", times 2 digit],
  sequence [times 4 digit, text "-", fewDigits, text "-", fewDigits,
    either (oneOf "Tt") (some (oneOf " \t")), fewDigits, text ":", times 2 digit, text ":",
    times 2 digit, optional (sequence [text ".", many digit]),
    optional (sequence [many (oneOf " \t"),
      either (text "Z") (sequence [oneOf "+-", fewDigits,
        optional (sequence [text ":", times 2 digit])])])]]

/-- A plain scalar that does not stand for its own text. -/
def reserved : Pattern := choice [truth, floating, integer, null, timestamp, words ["<<", "="]]

def isReserved (s : List Char) : Bool := reserved.accepts s

end WorkWatch.Yaml
