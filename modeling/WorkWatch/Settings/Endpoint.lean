import WorkWatch.Net.Address
import WorkWatch.Text.Quoted

/-!
Checking the address of a server: an absolute URL with one of two schemes and a host.
-/

namespace WorkWatch

open Text

/-- Why a text cannot be taken apart as a URL, or is not the address of a server. -/
inductive EndpointError where
  | brackets
  | futureAddress
  | notAddress (host : String)
  | bracketedIpv4
  | ambiguous (authority : String)
  | notHttp (endpoint : String)
  deriving DecidableEq, Repr

def EndpointError.message : EndpointError → String
  | .brackets => "Invalid IPv6 URL"
  | .futureAddress => "IPvFuture address is invalid"
  | .notAddress host => quoted host ++ " does not appear to be an IPv4 or IPv6 address"
  | .bracketedIpv4 => "An IPv4 address cannot be in brackets"
  | .ambiguous authority =>
    "netloc '" ++ authority ++ "' contains invalid characters under NFKC normalization"
  | .notHttp endpoint => "Invalid Maestro HTTP endpoint: " ++ quoted endpoint ++
      ". Expected an absolute URL with http:// or https:// scheme."

namespace Endpoint

def isLetter (c : Char) : Bool := ('a' ≤ c && c ≤ 'z') || ('A' ≤ c && c ≤ 'Z')

def isSchemeChar (c : Char) : Bool := isLetter c || isDigit c || c = '+' || c = '-' || c = '.'

/-- The text without controls and blanks at its beginning, and without tabs and line breaks. -/
def cleaned (s : List Char) : List Char :=
  (s.dropWhile (·.toNat ≤ 32)).filter fun c => c != '\t' && c != '\r' && c != '\n'

/-- The scheme in lower case, empty if there is none, and the text after its colon. -/
def splitScheme (s : List Char) : List Char × List Char :=
  match cut? [':'] s with
  | some (scheme, rest) =>
    if (scheme.head?.any isLetter) && scheme.all isSchemeChar then (scheme.map Char.toLower, rest)
    else ([], s)
  | none => ([], s)

/-- The authority: what stands between two slashes and the path, query or fragment. -/
def authority : List Char → List Char
  | '/' :: '/' :: rest => rest.takeWhile fun c => c != '/' && c != '?' && c != '#'
  | _ => []

/-- An address of a future version: the letter v, hexadecimal digits, a point and more. -/
def isFutureAddress : List Char → Bool
  | 'v' :: rest =>
    let version := rest.takeWhile fun c => (hexValue? c).isSome
    match rest.drop version.length with
    | '.' :: _ :: _ => !version.isEmpty
    | _ => false
  | _ => false

def checkHost (host : List Char) : Except EndpointError Unit :=
  if host.head? = some 'v' then
    if isFutureAddress host then .ok () else .error .futureAddress
  else if Net.isIpv4 host then .error .bracketedIpv4
  else if Net.isIpv6 host then .ok ()
  else .error (.notAddress (String.ofList host))

/-- Characters that compatibility normalization turns into one of the delimiters of a URL. -/
def ambiguousChars : List Nat := [0x2047, 0x2048, 0x2049, 0x2100, 0x2101, 0x2105, 0x2106, 0x2a74,
  0xfe13, 0xfe16, 0xfe55, 0xfe56, 0xfe5f, 0xfe6b, 0xff03, 0xff0f, 0xff1a, 0xff1f, 0xff20]

/-- The host of an authority with brackets. It follows the last at sign; what the brackets enclose
stands at the beginning, with nothing or a colon behind. -/
def bracketedHost (s : List Char) : Except EndpointError (List Char) :=
  let place := (s.reverse.takeWhile (· != '@')).reverse
  match cut? ['['] place with
  | none => .ok (place.takeWhile (· != ':'))
  | some (outside, inside) =>
    let (host, behind) := (cut? [']'] inside).getD (inside, [])
    if outside.isEmpty && (behind.isEmpty || behind.head? = some ':') then .ok host
    else .error .brackets

def checkAuthority (s : List Char) : Except EndpointError Unit := do
  if s.contains '[' != s.contains ']' then throw .brackets
  if s.contains '[' then checkHost (← bracketedHost s)
  if s.any (ambiguousChars.contains ·.toNat) then throw (.ambiguous (String.ofList s))

def check (endpoint : String) : Except EndpointError Unit := do
  let (scheme, rest) := splitScheme (cleaned endpoint.toList)
  let authority := authority rest
  checkAuthority authority
  let isHttp := scheme = ['h', 't', 't', 'p'] || scheme = ['h', 't', 't', 'p', 's']
  if !isHttp || authority.isEmpty then throw (.notHttp endpoint)

end Endpoint

end WorkWatch
