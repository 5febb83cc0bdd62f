/-!
Control sequences of terminals: an escape character and a bracket, parameters, intermediate
characters, and a final one. They are left out of what is printed.
-/

namespace WorkWatch.Text

namespace Control

/-- Digits and the marks that follow them. -/
def isParameter (c : Char) : Bool := '0' ≤ c && c ≤ '?'

/-- The space and the marks before the digits. -/
def isIntermediate (c : Char) : Bool := ' ' ≤ c && c ≤ '/'

/-- Letters and the marks among them. -/
def isFinal (c : Char) : Bool := '@' ≤ c && c ≤ '~'

/-- What comes before a character: the text itself, an escape character, or a sequence that has
begun, with what has been read of it in reverse and whether its parameters are over. -/
inductive Mode where
  | text
  | escape
  | sequence (closing : Bool) (reversed : List Char)

/-- What has been read of a sequence that did not come to its end. -/
def Mode.kept : Mode → List Char
  | text => []
  | escape => ['\x1b']
  | sequence _ reversed => reversed.reverse

/-- Leaves out control sequences. -/
def remove : Mode → List Char → List Char
  | mode, [] => mode.kept
  | mode, c :: rest =>
    match mode with
    | .escape =>
      if c = '[' then remove (.sequence false ['[', '\x1b']) rest
      else if c = '\x1b' then '\x1b' :: remove .escape rest
      else '\x1b' :: c :: remove .text rest
    | .sequence closing reversed =>
      if isParameter c && !closing then remove (.sequence false (c :: reversed)) rest
      else if isIntermediate c then remove (.sequence true (c :: reversed)) rest
      else if isFinal c then remove .text rest
      else if c = '\x1b' then reversed.reverse ++ remove .escape rest
      else reversed.reverse ++ c :: remove .text rest
    | .text => if c = '\x1b' then remove .escape rest else c :: remove .text rest

end Control

/-- A text without control sequences. -/
def withoutControl (s : String) : String := String.ofList (Control.remove .text s.toList)

end WorkWatch.Text
