import RedDock.HttpHeaders
import RedDock.Inventory
import RedDock.Targets

/-!
# The HTTP probe

What the HTTP probe makes of one exchange: the response, the headers it keeps
and the TLS session, with the set of headers it examined.
-/
set_option autoImplicit false
namespace RedDock.HttpProbe
open Text Detection Inventory
open HttpHeaders (dec_int)

def RECORDED_HEADERS : List Text :=
  ["server".toList, "content-type".toList, "content-length".toList, "location".toList, "x-powered-by".toList,
    "strict-transport-security".toList, "x-content-type-options".toList, "content-security-policy".toList, "x-frame-options".toList]

/-- A TLS session: whether its certificate was verified, its version, and what
    else is recorded of it. -/
structure Tls where
  verified : Bool
  version : Option Text
  details : List (Text × Json) := []

/-- The raw result of a single request. -/
structure ProbeOutcome where
  status : Option Int := none
  reason : Option Text := none
  headers : List (Text × Text) := []
  tls : Option Tls := none
  error : Option Text := none

def port (target : Target) : Nat :=
  match target.port with
  | some port => if port = 0 then usual else port
  | none => usual
where
  usual : Nat := if target.scheme = some "https".toList then 443 else 80

/-- An optional text in an f-string. -/
def shown (value : Option Text) : Text := value.getD "None".toList

def json_of (value : Option Text) : Json := (value.map Json.str).getD .null

section
variable (u : Unicode) (target : Target) (address : Text) (outcome : ProbeOutcome)

def endpoint_unreachable : DiscoveredObservation where
  observation_type := "endpoint_unreachable".toList
  summary := target.value ++ " did not answer: ".toList ++ shown outcome.error
  confidence := .observed
  detail := some [("address".toList, .str address), ("error".toList, json_of outcome.error)]

def web_asset : DiscoveredAsset where
  asset_type := .web
  identity := target.value
  display_name := target.value
  ip_address := some address
  hostname := if target.is_named u then some target.host else none
  services := [{ transport := "tcp".toList, port := port target, state := "open".toList, service_name := target.scheme }]

def http_response (status : Int) : DiscoveredObservation where
  observation_type := "http_response".toList
  summary := target.value ++ " returned ".toList ++ strip ("HTTP ".toList ++ dec_int status ++ " ".toList ++ outcome.reason.getD [])
  confidence := .observed
  asset_identity := some target.value
  service_port := some ("tcp".toList, port target)
  detail := some [("status".toList, .int status), ("address".toList, .str address), ("scheme".toList, json_of target.scheme),
    ("headers_examined".toList, .list (RECORDED_HEADERS.map .str)),
    ("headers_present".toList, .list (((outcome.headers.map Prod.fst).insertionSort (· ≤ ·)).map .str))]

def http_header (header : Text × Text) : DiscoveredObservation where
  observation_type := "http_header".toList
  summary := target.value ++ " reported ".toList ++ header.1 ++ ": ".toList ++ header.2
  confidence := .reported
  asset_identity := some target.value
  service_port := some ("tcp".toList, port target)
  detail := some [("header".toList, .str header.1), ("value".toList, .str header.2)]

def tls_session (tls : Tls) : DiscoveredObservation where
  observation_type := "tls_session".toList
  summary := target.value ++ " presented a ".toList ++ shown tls.version ++ " session with a ".toList ++
    (if tls.verified then "verified".toList else "unverified".toList) ++ " certificate".toList
  confidence := .observed
  asset_identity := some target.value
  service_port := some ("tcp".toList, port target)
  detail := some ([("verified".toList, .bool tls.verified), ("version".toList, json_of tls.version)] ++ tls.details)

/-- `HttpProbeAdapter.normalize` -/
def normalize : List DiscoveredAsset × List DiscoveredObservation :=
  match outcome.status with
  | none => ([], [endpoint_unreachable target address outcome])
  | some status => ([web_asset u target address],
      http_response target address outcome status :: outcome.headers.map (http_header target) ++ (outcome.tls.map (tls_session target)).toList)

end
end RedDock.HttpProbe
