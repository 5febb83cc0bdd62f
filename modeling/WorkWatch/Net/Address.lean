import WorkWatch.Text.Digits
import WorkWatch.Text.Split

/-!
Textual IP addresses.
-/

namespace WorkWatch.Net

open WorkWatch.Text

/-- A decimal number up to 255 without leading zeros. -/
def isOctet (s : List Char) : Bool :=
  !s.isEmpty && s.all isDigit && s.length ≤ 3 && (s = ['0'] || s.head? != some '0') &&
    ofDigits s ≤ 255

def isIpv4 (s : List Char) : Bool :=
  let parts := pieces '.' s
  parts.length == 4 && parts.all isOctet

/-- Up to four hexadecimal digits. -/
def isHextet (s : List Char) : Bool :=
  !s.isEmpty && s.length ≤ 4 && s.all fun c => (hexValue? c).isSome

/-- Parts between colons, the last one being of a dotted address counted as two. -/
def hextets (s : List Char) : Option (List (List Char)) :=
  let parts := pieces ':' s
  match parts.getLast? with
  | none => none
  | some last =>
    if parts.length < 3 then none
    else if last.contains '.' then
      if isIpv4 last then some (parts.dropLast ++ [['0'], ['0']]) else none
    else some parts

/-- The places of empty parts that are neither the first nor the last. -/
def innerGaps (parts : List (List Char)) : List Nat :=
  (List.range parts.length).filter fun i =>
    0 < i && i + 1 < parts.length && parts[i]?.any List.isEmpty

/-- Eight parts, or fewer with one gap that stands for zeros. A gap at an end has both its colons
there. -/
def areHextets (parts : List (List Char)) : Bool :=
  match innerGaps parts with
  | [] => parts.length == 8 && parts.all isHextet
  | [gap] =>
    let before := parts.take gap
    let after := parts.drop (gap + 1)
    let before := if before = [[]] then [] else before
    let after := if after = [[]] then [] else after
    before.length + after.length < 8 && before.all isHextet && after.all isHextet
  | _ => false

/-- An address of hexadecimal parts, with an optional zone after a percent sign. -/
def isIpv6 (s : List Char) : Bool :=
  let (address, zone) :=
    match cut? ['%'] s with
    | none => (s, true)
    | some (address, zone) => (address, !zone.isEmpty && !zone.contains '%')
  zone && !address.contains '/' && (hextets address).any areHextets

end WorkWatch.Net
