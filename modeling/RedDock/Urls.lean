import RedDock.IpAddress

/-!
# Splitting URLs

`urllib.parse.urlsplit` (Python 3.13) and the properties of its result the code
reads. A text it raises `ValueError` on has no result here.
-/
set_option autoImplicit false
namespace RedDock.Urls
open Text

/-- The two fields of a `SplitResult` the code reads. -/
structure SplitResult where
  scheme : Text
  netloc : Text
  deriving DecidableEq

def scheme_char (c : Char) : Bool := c.isAlphanum || c = '+' || c = '-' || c = '.'

/-- The scheme in front of the first colon, lower-cased, and the rest. -/
def split_scheme (u : Unicode) (url : Text) : Text × Text :=
  match partition ':' url with
  | (front, true, rest) =>
    if (front.head?.any Char.isAlpha) && front.all scheme_char then (u.lower front, rest) else ([], url)
  | (_, false, _) => ([], url)

/-- `_checknetloc`: no delimiter appears under NFKC that was not there before. -/
def checknetloc (u : Unicode) (netloc : Text) : Bool :=
  if netloc = [] || isAscii netloc then true
  else
    let n := netloc.filter fun c => c ∉ ['@', ':', '#', '?']
    let netloc2 := u.nfkc n
    n == netloc2 || netloc2.all fun c => c ∉ ['/', '?', '#', '@', ':']

/-- `v[a-fA-F0-9]+\..+` over the whole text. -/
def ipv_future (hostname : Text) : Bool :=
  let rest := hostname.tail.dropWhile fun c => (hexValue c).isSome
  hostname.head? = some 'v' && (hostname.tail.head?.bind hexValue).isSome &&
    rest.head? = some '.' && rest.tail ≠ [] && '\n' ∉ rest.tail

/-- `_check_bracketed_host`. -/
def check_bracketed_host (hostname : Text) : Bool :=
  if hostname.head? = some 'v' then ipv_future hostname
  else match IPAddress.ip_address hostname with
    | some (.v6 _ _) => true
    | _ => false

/-- `_check_bracketed_netloc`. -/
def check_bracketed_netloc (netloc : Text) : Bool :=
  let hostname_and_port := afterLast '@' netloc
  match partition '[' hostname_and_port with
  | (before_bracket, true, bracketed) =>
    let (hostname, _, port) := partition ']' bracketed
    before_bracket = [] && (port = [] || port.head? = some ':') && check_bracketed_host hostname
  | (_, false, _) => check_bracketed_host (partition ':' hostname_and_port).1

/-- `urlsplit`. -/
def urlsplit (u : Unicode) (url : Text) : Option SplitResult :=
  let url := (url.dropWhile (·.toNat ≤ 0x20)).filter fun c => c ∉ ['\t', '\r', '\n']
  let (scheme, rest) := split_scheme u url
  if rest.take 2 = ['/', '/'] then
    let netloc := (rest.drop 2).takeWhile fun c => c ∉ ['/', '?', '#']
    if decide ('[' ∈ netloc) != decide (']' ∈ netloc) then none
    else if '[' ∈ netloc ∧ !check_bracketed_netloc netloc then none
    else if !checknetloc u netloc then none
    else some { scheme := scheme, netloc := netloc }
  else some { scheme := scheme, netloc := [] }

/-- `path`, `query` and `fragment` of `urlsplit`. -/
def location (u : Unicode) (url : Text) : Text × Text × Text :=
  let url := (url.dropWhile (·.toNat ≤ 0x20)).filter fun c => c ∉ ['\t', '\r', '\n']
  let (_, rest) := split_scheme u url
  let rest := if rest.take 2 = ['/', '/'] then (rest.drop 2).dropWhile fun c => c ∉ ['/', '?', '#'] else rest
  let (rest, _, fragment) := partition '#' rest
  let (path, _, query) := partition '?' rest
  (path, query, fragment)

namespace SplitResult

/-- `_hostinfo`: the host between the user information and the port, and the port. -/
def hostinfo (r : SplitResult) : Text × Option Text :=
  let info := afterLast '@' r.netloc
  let (hostname, port) := match partition '[' info with
    | (_, true, bracketed) =>
      let (hostname, _, rest) := partition ']' bracketed
      (hostname, (partition ':' rest).2.2)
    | (_, false, _) => ((partition ':' info).1, (partition ':' info).2.2)
  (hostname, if port = [] then none else some port)

def username (r : SplitResult) : Text :=
  if '@' ∈ r.netloc then (partition ':' (beforeLast '@' r.netloc)).1 else []
def password (r : SplitResult) : Text :=
  if '@' ∈ r.netloc then (partition ':' (beforeLast '@' r.netloc)).2.2 else []

/-- `hostname`: lower case, except for a zone. -/
def hostname (u : Unicode) (r : SplitResult) : Text :=
  let (name, percent, zone) := partition '%' r.hostinfo.1
  u.lower name ++ (if percent then ['%'] else []) ++ zone

/-- `port`; the outer option is absent when it raises `ValueError`. -/
def port (r : SplitResult) : Option (Option Nat) :=
  match r.hostinfo.2 with
  | none => some none
  | some port => if isDigits port ∧ ofDec port ≤ 65535 then some (some (ofDec port)) else none

end SplitResult
end RedDock.Urls
