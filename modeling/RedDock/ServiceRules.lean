import RedDock.Detection

/-!
# The service rule detector

The detector `service.rules`: the protocol rules and the version rule over the
services that a recorded observation identifies.
-/
set_option autoImplicit false
namespace RedDock.ServiceRules
open Text Detection

/-- `str.lower` and `str.upper`. -/
structure Casing where
  lower : Text → Text
  upper : Text → Text

def Casing.ascii : Casing where
  lower := fun t => t.map Char.toLower
  upper := fun t => t.map Char.toUpper

def IDENTIFICATION : Text := "service_identified".toList
def OPEN_STATES : List Text := ["open".toList, "open|filtered".toList]
def VERSION_DISCLOSURE : Text := "service-version-disclosed".toList

/-- The fields a rule's texts are formatted with. -/
inductive Piece
  | text (t : String)
  | asset
  | endpoint
  | identified

/-- One deterministic statement about an identified protocol. -/
structure ProtocolRule where
  service_name : Text
  rule_id : Text
  title : List Piece
  description : List Piece
  severity : Severity
  confidence : FindingConfidence
  remediation : String

def telnet : ProtocolRule where
  service_name := "telnet".toList
  rule_id := "cleartext-remote-administration".toList
  title := [.text "Telnet is reachable on ", .endpoint]
  description := [.asset, .text " answered on ", .endpoint, .text " as Telnet", .identified,
    .text (". Telnet has no transport encryption at all, so the credentials used to log in and everything typed during " ++
      "the session cross the network in the clear and can be read or altered by anything on the path.")]
  severity := .high
  confidence := .medium
  remediation := "Replace Telnet with SSH and close the Telnet port once no client depends on it."

def ftp : ProtocolRule where
  service_name := "ftp".toList
  rule_id := "cleartext-file-transfer".toList
  title := [.text "FTP is reachable on ", .endpoint]
  description := [.asset, .text " answered on ", .endpoint, .text " as FTP", .identified,
    .text (". FTP authenticates over a cleartext control channel unless the server requires AUTH TLS. RedDock did not " ++
      "authenticate and did not test whether AUTH TLS is required, so this reports an " ++
      "exposed FTP service rather than confirmed cleartext authentication.")]
  severity := .medium
  confidence := .medium
  remediation := "Require FTPS or replace the service with SFTP, and confirm the server refuses an unencrypted login."

def PROTOCOL_RULES : List ProtocolRule := [telnet, ftp]

/-! ### Identifications -/

/-- `(observed_at, id)` of two observations. -/
def not_before (current observation : ObservationView) : Bool :=
  current.observed_at < observation.observed_at ||
    (current.observed_at = observation.observed_at && current.id ≤ observation.id)

/-- The identification kept after another one. -/
def newer (current : Option ObservationView) (observation : ObservationView) : Option ObservationView :=
  match current with
  | none => some observation
  | some current => if not_before current observation then some observation else some current

def of_type (context : DetectionContext) (observation_type : Text) : List ObservationView :=
  context.observations.filter fun observation => observation.observation_type = observation_type

/-- The latest identification of each service, after one more observation. -/
def keep (latest : List (Int × ObservationView)) (observation : ObservationView) : List (Int × ObservationView) :=
  match observation.service_id with
  | none => latest
  | some service_id =>
    match newer (latest.lookup service_id) observation with
    | none => latest
    | some observation => (service_id, observation) :: latest

/-- `_identifications`: the latest one for each service. -/
def identifications (context : DetectionContext) : List (Int × ObservationView) :=
  (of_type context IDENTIFICATION).foldl keep []

/-! ### Findings -/

section
variable (casing : Casing)

/-- `ServiceView.endpoint` -/
def endpoint (service : ServiceView) : Text := casing.upper service.transport ++ "/".toList ++ dec service.port

/-- An optional value in an f-string. -/
def shown (value : Option Text) : Text := value.getD "None".toList

def named (value : Option Text) : Bool := value.any fun t => !t.isEmpty

/-- An optional text of a detail. -/
def json_of (value : Option Text) : Json :=
  match value with
  | none => .null
  | some t => .str t

def discovery_run (observation : ObservationView) : Text × Json :=
  ("discovery_run_id".toList, match observation.discovery_run_id with
    | none => .null
    | some id => .int id)

/-- The product and version in parentheses, when there is a product. -/
def identified_as (service : ServiceView) : Text :=
  if named service.product then
    (" (".toList ++ shown service.product ++ " ".toList ++ shown service.version ++ ")".toList).rdropWhile isSpace
  else []

def Piece.format (asset : AssetView) (service : ServiceView) : Piece → Text
  | text t => t.toList
  | .asset => asset.display_name
  | .endpoint => ServiceRules.endpoint casing service
  | identified => identified_as service

def format (asset : AssetView) (service : ServiceView) (pieces : List Piece) : Text :=
  pieces.flatMap (Piece.format casing asset service)

def Severity.value : Severity → Text
  | .informational => "informational".toList
  | .low => "low".toList
  | .medium => "medium".toList
  | .high => "high".toList
  | .critical => "critical".toList

def FindingConfidence.value : FindingConfidence → Text
  | .low => "low".toList
  | .medium => "medium".toList
  | .high => "high".toList

def FindingCategory.value : FindingCategory → Text
  | .transport => "transport".toList
  | .hardening => "hardening".toList
  | .information_disclosure => "information_disclosure".toList

def text (t : Text) : Object := .str t
def severity (s : Severity) : Object := .str (Severity.value s) (some (.severity s))
def confidence (c : FindingConfidence) : Object := .str (FindingConfidence.value c) (some (.confidence c))
def category (c : FindingCategory) : Object := .str (FindingCategory.value c) (some (.category c))

/-- `_protocol` -/
def protocol (rule : ProtocolRule) (asset : AssetView) (service : ServiceView) (observation : ObservationView) : DetectedFinding where
  rule_id := text rule.rule_id
  title := text (format casing asset service rule.title)
  description := text (format casing asset service rule.description)
  category := category .transport
  severity := severity rule.severity
  confidence := confidence rule.confidence
  evidence_observation_ids := .ids [observation.id]
  asset_id := .int asset.id
  service_id := .int service.id
  scope_key := text []
  remediation := text rule.remediation.toList
  detail := .dict [
    ("service_name".toList, json_of service.service_name),
    ("product".toList, json_of service.product),
    ("version".toList, json_of service.version),
    discovery_run observation]
  cve_references := .references []

/-- `DetectionContext.enrich` -/
def enrich (context : DetectionContext) (service : ServiceView) : List CveReference :=
  match context.lookup, service.product, service.version with
  | some lookup, some product, some version => if product.isEmpty || version.isEmpty then [] else lookup product version
  | _, _, _ => []

/-- The sentence on the references of a catalogue. -/
def association : List CveReference → Text
  | [] => []
  | reference :: references =>
    " A local catalogue (".toList ++ reference.source ++ ") associates this exact product and version with ".toList ++
      dec (references.length + 1) ++
      (" published CVE identifier(s). That is an association drawn from a version string the service reported about itself, " ++
        "not a test result: RedDock did not check whether this service is affected or exploitable.").toList

def version_title (asset : AssetView) (service : ServiceView) : Text :=
  endpoint casing service ++ " on ".toList ++ asset.display_name ++ " discloses its version".toList

def version_description (context : DetectionContext) (asset : AssetView) (service : ServiceView) : Text :=
  asset.display_name ++ " identified the service on ".toList ++ endpoint casing service ++ " as ".toList ++
    shown service.product ++ " ".toList ++ shown service.version ++
    (". A version banner is useful to a reviewer and equally useful to anyone else who can reach the port, because it narrows " ++
      "down what to try.").toList ++ association (enrich context service)

def VERSION_REMEDIATION : String :=
  "Decide whether this endpoint needs to publish its version. If it does not, " ++
    "suppress the banner; if it does, keep the version current."

/-- `_version` -/
def version (context : DetectionContext) (asset : AssetView) (service : ServiceView) (observation : ObservationView) :
    DetectedFinding where
  rule_id := text VERSION_DISCLOSURE
  title := text (version_title casing asset service)
  description := text (version_description casing context asset service)
  category := category .information_disclosure
  severity := severity .informational
  confidence := confidence .medium
  evidence_observation_ids := .ids [observation.id]
  asset_id := .int asset.id
  service_id := .int service.id
  scope_key := text []
  remediation := text VERSION_REMEDIATION.toList
  detail := .dict [
    ("product".toList, json_of service.product),
    ("version".toList, json_of service.version),
    discovery_run observation]
  cve_references := .references (enrich context service)

/-- `_for_service` -/
def for_service (context : DetectionContext) (asset : AssetView) (service : ServiceView) (observation : ObservationView) :
    List DetectedFinding :=
  let name := casing.lower (strip (service.service_name.getD []))
  ((PROTOCOL_RULES.filter fun rule => name = rule.service_name).map fun rule => protocol casing rule asset service observation) ++
    (if named service.product && named service.version then [version casing context asset service observation] else [])

/-- `detect` -/
def detect (context : DetectionContext) : List DetectedFinding :=
  let latest := identifications context
  context.assets.flatMap fun asset => asset.services.flatMap fun service =>
    if service.state ∉ OPEN_STATES then []
    else match latest.lookup service.id with
      | none => []
      | some observation => for_service casing context asset service observation

end
end RedDock.ServiceRules
