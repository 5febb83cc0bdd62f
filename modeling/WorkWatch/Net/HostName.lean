import WorkWatch.Net.Label
import WorkWatch.Net.Punycode
import WorkWatch.Text.Split

/-!
International host names in ASCII: each label with other characters is written in Punycode after the
mark `xn--`.
-/

namespace WorkWatch.Net.HostName

open WorkWatch.Text

/-- Greatest length of a written label. -/
def labelLimit : Nat := 63

/-- Greatest length of a written host name, a full stop at its end apart. -/
def nameLimit : Nat := 253

/-- Labels in Punycode begin with this mark. -/
def mark : List Char := ['x', 'n', '-', '-']

/-- What a written label stands for. -/
def meaning? (text : List Char) : Option (List Char) :=
  if mark.isPrefixOf text then
    let code := text.drop mark.length
    if code.isEmpty || code.getLast? = some '-' then none else Punycode.decode? code
  else some text

/-- The written form of a label; one in ASCII is written already. -/
def labelText? (label : List Char) : Option (List Char) :=
  let isWritten := label.all (·.toNat < 128)
  let name? := if isWritten then meaning? label else some label
  if name?.any Label.isLabel then
    let text := if isWritten then label else mark ++ Punycode.encode label
    if text.length ≤ labelLimit then some text else none
  else none

/-- Full stops of several scripts separate labels. -/
def isFullStop (c : Char) : Bool := c = '.' || c = '\u3002' || c = '\uff0e' || c = '\uff61'

/-- The written form of a host name; a full stop at its end stays. -/
def encode? (name : List Char) : Option (List Char) :=
  -- No label is longer than its written form, so a name beyond the limit has none.
  if nameLimit + 1 < name.length then none
  else do
    let labels := pieces '.' (name.map fun c => if isFullStop c then '.' else c)
    let (labels, ending) : List (List Char) × List (List Char) :=
      if labels.getLast? = some [] then (labels.dropLast, [[]]) else (labels, [])
    let text := Text.joined ['.'] ((← labels.mapM labelText?) ++ ending)
    if labels.isEmpty || nameLimit + ending.length < text.length then none else some text

end WorkWatch.Net.HostName
