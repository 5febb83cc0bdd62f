import WorkWatch.Decimal.Read
import WorkWatch.Net.Address
import WorkWatch.Net.HostName
import WorkWatch.Text.Case
import WorkWatch.Text.Pattern
import WorkWatch.Text.Quoted

/-!
URLs taken apart and put together. Each part is kept in its written form, with percent signs for
characters that may not stand there; what is written with a percent sign already stays as it is.
-/

namespace WorkWatch.Net

open WorkWatch.Text

inductive UrlError where
  | tooLong
  | partTooLong (part : String)
  | control (c : Char) (position : Nat)
  | badNumber (text : String)
  | ipv4 (host : String)
  | ipv6 (host : String)
  | hostName (host : String)
  | relativeSlashes
  | relativeColon
  deriving DecidableEq, Repr

def UrlError.message : UrlError → String
  | .tooLong => "URL too long"
  | .partTooLong part => "URL component '" ++ part ++ "' too long"
  | .control c position => "Invalid non-printable ASCII character in URL, " ++
      quoted (String.singleton c) ++ " at position " ++ natText position ++ "."
  | .badNumber text => "Invalid port: " ++ quoted text
  | .ipv4 host => "Invalid IPv4 address: " ++ quoted host
  | .ipv6 host => "Invalid IPv6 address: " ++ quoted host
  | .hostName host => "Invalid IDNA hostname: " ++ quoted host
  | .relativeSlashes => "Relative URLs cannot have a path starting with '//'"
  | .relativeColon => "Relative URLs cannot have a path starting with ':'"

/-- Greatest length of a URL and of each of its parts. -/
def urlLimit : Nat := 65536

/-! ## Percent signs -/

/-- Printable ASCII but for the characters listed. -/
def printableBut (excluded : String) (c : Char) : Bool :=
  0x20 ≤ c.toNat && c.toNat < 0x7f && !excluded.toList.contains c

def isUnreserved (c : Char) : Bool :=
  isDigit c || ('a' ≤ c && c ≤ 'z') || ('A' ≤ c && c ≤ 'Z') || c = '-' || c = '.' || c = '_' ||
    c = '~'

def isPathChar : Char → Bool := printableBut " \"#<>?\x60\x7b\x7d"

def isQueryChar : Char → Bool := printableBut " \"#<>"

def isFragmentChar : Char → Bool := printableBut " \"<>\x60"

def isUserChar : Char → Bool := printableBut " \"#<>?\x60\x7b\x7d/;=@[\\]^|"

def isHostChar (c : Char) : Bool :=
  isUnreserved c || "!$&'()*+,;=\"\x60\x7b\x7d%|\\".toList.contains c

/-- The bytes of a character, each with a percent sign. -/
def percent (c : Char) : List Char :=
  (String.utf8EncodeChar c).flatMap fun byte =>
    '%' :: (hexPadded 2 byte.toNat).map Char.toUpper

/-- Writes a text with percent signs for all but the characters of a class. -/
def escaped (plain : Char → Bool) (s : List Char) : List Char :=
  s.flatMap fun c => if plain c then [c] else percent c

/-- Writes a text with percent signs; what has them already stays as it is. -/
def quote (plain : Char → Bool) : List Char → List Char
  | '%' :: a :: b :: rest =>
    if (hexValue? a).isSome && (hexValue? b).isSome then '%' :: a :: b :: quote plain rest
    else (if plain '%' then ['%'] else percent '%') ++ quote plain (a :: b :: rest)
  | c :: rest => (if plain c then [c] else percent c) ++ quote plain rest
  | [] => []

/-- A value in a query as forms write it: blanks become plus signs. -/
def formValue (s : List Char) : List Char :=
  s.flatMap fun c => if c = ' ' then ['+'] else if isUnreserved c then [c] else percent c

/-! ## Parts -/

/-- Resolves the segments `.` and `..` of a path. -/
def withoutDots (path : List Char) : List Char :=
  let segments := pieces '/' path
  let step (kept : List (List Char)) (segment : List Char) : List (List Char) :=
    if segment = ['.'] then kept
    else if segment = ['.', '.'] then (if kept = [[]] then kept else kept.dropLast)
    else kept ++ [segment]
  if segments.contains ['.'] || segments.contains ['.', '.'] then
    joined ['/'] (segments.foldl step [])
  else path

/-- A URL in its written form; the host stands without brackets. -/
structure Url where
  scheme : List Char
  user : List Char
  host : List Char
  /-- The number after a colon in the authority. -/
  number : Option Int
  path : List Char
  query : Option (List Char)
  fragment : Option (List Char)
  deriving DecidableEq, Repr

def numbered : Pattern :=
  let number := Pattern.some Pattern.digit
  let point := Pattern.text "."
  Pattern.sequence [number, point, number, point, number, point, number]

def hostText (host : List Char) : Except UrlError (List Char) :=
  if host.isEmpty then .ok []
  else if numbered.accepts host then
    if isIpv4 host then .ok host else .error (.ipv4 (String.ofList host))
  else if host.head? = some '[' && host.getLast? = some ']' && 2 ≤ host.length then
    let address := (host.drop 1).dropLast
    if isIpv6 address then .ok address else .error (.ipv6 (String.ofList host))
  else if host.all (·.toNat < 128) then .ok (quote isHostChar (host.map Char.toLower))
  else
    match HostName.encode? (lower (String.ofList host)).toList with
    | some name => .ok name
    | none => .error (.hostName (String.ofList host))

/-- The number that goes without saying for a scheme. -/
def usualNumber? (scheme : List Char) : Option Int :=
  [("http", 80), ("https", 443), ("ftp", 21), ("ws", 80), ("wss", 443)].lookup
    (String.ofList scheme)

/-- The number of a text, none where it goes without saying. -/
def numberOf (scheme text : List Char) : Except UrlError (Option Int) :=
  if text.isEmpty then .ok none
  else
    match Decimal.readInt (String.ofList text) with
    | .ok number => .ok (if usualNumber? scheme = some number then none else some number)
    | .error _ => .error (.badNumber (String.ofList text))

/-- User, host and number of an authority. The user ends at the last at sign; a host in brackets
ends at the last bracket, any other at the first colon. -/
def splitAuthority (s : List Char) : List Char × List Char × List Char :=
  let (user, rest) :=
    if s.contains '@' then
      let rest := (s.reverse.takeWhile (· != '@')).reverse
      (s.take (s.length - rest.length - 1), rest)
    else ([], s)
  let bracketed := (rest.reverse.dropWhile (· != ']')).reverse
  let host :=
    if rest.head? = some '[' && !bracketed.isEmpty then bracketed
    else rest.takeWhile (· != ':')
  let number := rest.drop host.length
  (user, host, if number.head? = some ':' then number.drop 1 else number)

/-- Puts a URL together from parts as they are given. -/
def Url.build (scheme authority path : List Char) (query fragment : Option (List Char)) :
    Except UrlError Url := do
  let (user, host, number) := splitAuthority authority
  let host ← hostText host
  let number ← numberOf scheme number
  let user := quote isUserChar user
  let isRelative := scheme.isEmpty && user.isEmpty && host.isEmpty && number.isNone
  if isRelative && ['/', '/'].isPrefixOf path then throw .relativeSlashes
  if isRelative && path.head? = some ':' then throw .relativeColon
  return {
    scheme := scheme.map Char.toLower
    user
    host
    number
    path := quote isPathChar (if isRelative then path else withoutDots path)
    query := query.map (quote isQueryChar)
    fragment := fragment.map (quote isFragmentChar) }

/-- The position of the first control character of ASCII. -/
def control? (s : List Char) : Option (Char × Nat) :=
  let isControl (c : Char) : Bool := c.toNat < 32 || c.toNat = 127
  (s.find? isControl).map fun c => (c, (s.takeWhile fun d => !isControl d).length)

def isSchemeChar (c : Char) : Bool :=
  isDigit c || ('a' ≤ c && c ≤ 'z') || ('A' ≤ c && c ≤ 'Z') || c = '+' || c = '.' || c = '-'

/-- Cuts a text before the first character of a class. -/
def before (stop : Char → Bool) (s : List Char) : List Char × List Char :=
  (s.takeWhile (!stop ·), s.dropWhile (!stop ·))

/-- A part that starts with a mark, and the text after it. -/
def marked (mark : Char) (stop : Char → Bool) (s : List Char) : Option (List Char) × List Char :=
  match s with
  | c :: rest =>
    if c = mark then
      let (part, rest) := before stop rest
      (some part, rest)
    else (none, s)
  | [] => (none, [])

def Url.parse (s : List Char) : Except UrlError Url := do
  if urlLimit < s.length then throw .tooLong
  if let some (c, position) := control? s then throw (.control c position)
  let name := s.takeWhile isSchemeChar
  let hasScheme := (s.drop name.length).head? = some ':' && !(name.head?.any fun c =>
    isDigit c || c = '+' || c = '.' || c = '-')
  let (scheme, rest) := if hasScheme then (name, s.drop (name.length + 1)) else ([], s)
  let (authority, rest) :=
    match rest with
    | '/' :: '/' :: rest => before (fun c => c = '/' || c = '?' || c = '#') rest
    | rest => ([], rest)
  let (path, rest) := before (fun c => c = '?' || c = '#') rest
  let (query, rest) := marked '?' (· = '#') rest
  let (fragment, _) := marked '#' (fun _ => false) rest
  Url.build scheme authority path query fragment

namespace Url

def authority (url : Url) : List Char :=
  (if url.user.isEmpty then [] else url.user ++ ['@']) ++
    (if url.host.contains ':' then '[' :: (url.host ++ [']']) else url.host) ++
    match url.number with
    | none => []
    | some number => ':' :: (intText number).toList

def text (url : Url) : List Char :=
  let authority := url.authority
  (if url.scheme.isEmpty then [] else url.scheme ++ [':']) ++
    (if authority.isEmpty then [] else '/' :: '/' :: authority) ++ url.path ++
    (match url.query with
      | none => []
      | some query => '?' :: query) ++
    match url.fragment with
    | none => []
    | some fragment => '#' :: fragment

def target (url : Url) : List Char :=
  (if url.path.isEmpty then ['/'] else url.path) ++
    match url.query with
    | none => []
    | some query => '?' :: query

def checkPart (name : String) (part : List Char) : Except UrlError Unit :=
  if urlLimit < part.length then .error (.partTooLong name) else .ok ()

def withTarget (url : Url) (target : List Char) : Except UrlError Url := do
  let (path, query) :=
    match cut? ['?'] target with
    | some (path, query) => (path, some query)
    | none => (target, none)
  checkPart "path" path
  checkPart "query" (query.getD [])
  build url.scheme url.authority path query url.fragment

def withQuery (url : Url) (query : List Char) : Except UrlError Url :=
  build url.scheme url.authority url.path (some query) url.fragment

/-- The same URL with a slash at the end of its path and query. -/
def asBase (url : Url) : Except UrlError Url :=
  let target := url.target
  if target.getLast? = some '/' then .ok url else url.withTarget (target ++ ['/'])

/-- The URL of a relative one under a base. -/
def under (base relative : Url) : Except UrlError Url :=
  base.withTarget (base.target ++ relative.target.dropWhile (· = '/'))

end Url

end WorkWatch.Net
