import RedDock.Idna
import RedDock.IpText
import RedDock.Urls

/-!
# Target parsing and normalization

What the operator types becomes a `Target`: an address, a network, a host name
or an origin, in the one spelling scope comparison works on.
-/
set_option autoImplicit false
namespace RedDock
open Text

/-- What a call may raise: a `TargetError`, or the `ValueError` it derives from. -/
inductive PyError
  | targetError (message : Text)
  | valueError
  deriving DecidableEq

inductive TargetKind
  | ipv4
  | ipv4_network
  | ipv6
  | ipv6_network
  | hostname
  | url
  deriving DecidableEq, Repr

/-- A canonical target. -/
structure Target where
  kind : TargetKind
  value : Text
  host : Text
  scheme : Option Text := none
  port : Option Nat := none
  deriving DecidableEq

namespace Targets

def MAX_TARGET_LENGTH : Nat := 255
def MAX_HOSTNAME_LENGTH : Nat := 253

def targetErrorText {α : Type} (message : Text) : Except PyError α := .error (.targetError message)
def targetError {α : Type} (message : String) : Except PyError α := targetErrorText message.toList

@[simp] theorem targetErrorText_ne_ok {α : Type} (message : Text) (a : α) :
    (targetErrorText message = .ok a) = False := by simp [targetErrorText]
@[simp] theorem targetError_ne_ok {α : Type} (message : String) (a : α) :
    (targetError message = .ok a) = False := by simp [targetError]

/-! ### Patterns -/

/-- A text of `low` to `high` characters matched by `\d`. -/
def decimals (u : Unicode) (low high : Nat) (t : Text) : Bool :=
  low ≤ t.length && t.length ≤ high && t.all u.isDecimal

/-- `\d{1,3}(\.\d{1,3}){3}` -/
def dotted_quad (u : Unicode) (t : Text) : Bool :=
  (t.splitOn '.').length = 4 && (t.splitOn '.').all (decimals u 1 3)

/-- `^\d{1,3}(\.\d{1,3}){3}$` -/
def IPV4_TEXT (u : Unicode) : Text → Bool := matchesLine (dotted_quad u)

def label_edge (c : Char) : Bool := c.isLower || c.isDigit

/-- `[a-z0-9]([a-z0-9-]{0,61}[a-z0-9])?` -/
def label_text (t : Text) : Bool :=
  t.length ≤ 63 && t.head?.any label_edge && t.getLast?.any label_edge && t.all fun c => label_edge c || c = '-'

/-- `^[a-z0-9]([a-z0-9-]{0,61}[a-z0-9])?$` -/
def LABEL : Text → Bool := matchesLine label_text

/-- `^\d{1,3}$` -/
def PREFIX (u : Unicode) : Text → Bool := matchesLine (decimals u 1 3)

/-- `^(?:0x[0-9a-f]+|[0-9]+)$` -/
def ADDRESS_COMPONENT : Text → Bool :=
  matchesLine fun t => isDigits t ||
    (t.take 2 = ['0', 'x'] && t.drop 2 ≠ [] && (t.drop 2).all fun c => c.isDigit || ('a' ≤ c && c ≤ 'f'))

def token_char (c : Char) : Bool := c.isAlphanum || c ∈ ['.', '_', ':', '/', '-']

/-- A letter or a digit, then any number of token characters. -/
def token_text (t : Text) : Bool := t.head?.any Char.isAlphanum && t.all token_char

def SAFE_TOKEN : Text → Bool := matchesLine token_text

def is_safe_token (value : Text) : Bool := SAFE_TOKEN value

def assert_safe_token (value : Text) : Except PyError Unit :=
  if is_safe_token value then .ok () else targetError "Target contains characters that are not permitted"

/-! ### Addresses -/

def parse_address (u : Unicode) (text : Text) : Except PyError (Option IPAddress) :=
  if IPV4_TEXT u text then .ok (IPAddress.ofTextV4 text)
  else if ':' ∈ text then
    if '%' ∈ text then targetError "IPv6 zone identifiers are not supported"
    else .ok (IPAddress.ofTextV6 text)
  else .ok none

def is_address_text (u : Unicode) (text : Text) : Bool :=
  match parse_address u text with
  | .ok address => address.isSome
  | .error _ => false

def reject_unusable_address (address : IPAddress) : Except PyError Unit :=
  if address.is_unspecified then targetError "The unspecified address is not a valid target"
  else if address.is_multicast then targetError "Multicast addresses are not valid targets"
  else .ok ()

def address_kind : Version → TargetKind
  | .v4 => .ipv4
  | .v6 => .ipv6
def network_kind : Version → TargetKind
  | .v4 => .ipv4_network
  | .v6 => .ipv6_network

def address_target (address : IPAddress) : Except PyError Target := do
  reject_unusable_address address
  let value := address.str
  assert_safe_token value
  return { kind := address_kind address.version, value := value, host := value }

def normalize_network (u : Unicode) (text : Text) : Except PyError Target := do
  let (address_text, _, prefix_text) := partition '/' text
  if !PREFIX u prefix_text then targetError "Network prefix must be a decimal length such as /24"
  else
    match ← parse_address u address_text with
    | none => targetError "Network must start with an IPv4 or IPv6 address"
    | some address =>
      let spelled := address.str ++ ['/'] ++ prefix_text
      match IPNetwork.ip_network spelled false with
      | none => targetErrorText ("Invalid network: '".toList ++ spelled ++
          "' does not appear to be an IPv4 or IPv6 network".toList)
      | some network =>
        if network.network_address.is_unspecified then
          targetError "A default route such as 0.0.0.0/0 or ::/0 is never an authorized target"
        else if network.is_multicast then targetError "Multicast networks are not valid targets"
        else
          let value := network.str
          assert_safe_token value
          return { kind := network_kind network.version, value := value, host := value }

/-! ### Host names -/

/-- A label in ASCII; other labels go through the `idna` codec. -/
def ascii_label (u : Unicode) (label : Text) : Except PyError Text :=
  if isAscii label then .ok label
  else match Idna.encode u label with
    | some encoded => .ok encoded
    | none => targetError "Hostname contains an invalid international label"

def normalize_label (u : Unicode) (label : Text) : Except PyError Text :=
  if label = [] then targetError "Hostname must not contain empty labels"
  else do
    let label ← ascii_label u label
    if !LABEL label then targetErrorText ("Invalid hostname label: ".toList ++ label)
    else return label

def normalize_hostname (u : Unicode) (text : Text) : Except PyError Text := do
  let hostname := u.lower (rstripChar '.' (strip text))
  if hostname = [] then targetError "Hostname must not be empty"
  else
    let normalized ← (hostname.splitOn '.').mapM (normalize_label u)
    let result := join ['.'] normalized
    if MAX_HOSTNAME_LENGTH < result.length then targetError "Hostname must be 253 characters or fewer"
    else if isDigits (normalized.getLastD []) then targetError "Hostname must not end in a numeric label"
    -- Every label a numeric component: an alternate spelling of an address.
    else if normalized.all ADDRESS_COMPONENT then
      targetError "Hostname must not be an alternate numeric address form"
    else return result

def hostname_target (hostname : Text) : Except PyError Target := do
  assert_safe_token hostname
  return { kind := .hostname, value := hostname, host := hostname }

/-! ### Origins -/

/-- `_DEFAULT_PORTS` -/
def default_port (scheme : Text) : Option Nat :=
  if scheme = "http".toList then some 80 else if scheme = "https".toList then some 443 else none

def port_suffix (default : Nat) : Option Nat → Text
  | none => []
  | some port => if port = default then [] else ':' :: dec port

/-- The host of an origin and how it is written inside the URL. -/
def url_host (u : Unicode) (hostname : Text) : Except PyError (Text × Text) := do
  match ← parse_address u hostname with
  | some address =>
    reject_unusable_address address
    let host := address.str
    return (host, if address.version = .v6 then ['['] ++ host ++ [']'] else host)
  | none =>
    let host ← normalize_hostname u hostname
    return (host, host)

def normalize_url (u : Unicode) (text : Text) : Except PyError Target := do
  let some parts := Urls.urlsplit u text | .error .valueError
  let scheme := u.lower parts.scheme
  let some default := default_port scheme | targetError "Only http and https URLs are supported"
  if parts.username ≠ [] ∨ parts.password ≠ [] then targetError "URLs must not embed credentials"
  else
    let some port := parts.port | targetError "URL host or port is invalid"
    let hostname := parts.hostname u
    if hostname = [] then targetError "URL must include a host"
    else if port = some 0 then targetError "URL port must be between 1 and 65535"
    else
      let (host, rendered) ← url_host u hostname
      assert_safe_token host
      return {
        kind := .url
        value := scheme ++ "://".toList ++ rendered ++ port_suffix default port
        host := host
        scheme := some scheme
        port := some (port.getD default) }

/-! ### Targets -/

def is_forbidden_character (c : Char) : Bool := isSpace c || c.toNat < 0x20 || c.toNat = 0x7F

def normalize_target (u : Unicode) (raw : Text) : Except PyError Target := do
  let text := strip raw
  if text = [] then targetError "Target must not be empty"
  else if MAX_TARGET_LENGTH < text.length then targetError "Target must be 255 characters or fewer"
  else if text.any is_forbidden_character then targetError "Target must not contain whitespace or control characters"
  else if "://".toList <:+: text then normalize_url u text
  else if '/' ∈ text then normalize_network u text
  else
    match ← parse_address u text with
    | some address => address_target address
    | none => hostname_target (← normalize_hostname u text)

end Targets

namespace Target
open Targets
variable (u : Unicode) (t : Target)

def is_network : Bool := t.kind = .ipv4_network || t.kind = .ipv6_network
def is_address : Bool := t.kind = .ipv4 || t.kind = .ipv6
def is_named : Bool := t.kind = .hostname || (t.kind = .url && !is_address_text u t.host)

/-- `Target.network`: the address space a target covers. -/
def network : Except PyError (Option IPNetwork) :=
  let read := fun text => match IPNetwork.ip_network text true with
    | some network => .ok (some network)
    | none => .error .valueError
  if t.is_network || t.is_address then read t.value
  else if t.kind = .url && is_address_text u t.host then read t.host
  else .ok none

end Target
end RedDock
