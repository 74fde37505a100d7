import RedDock.HttpHeaders

/-!
# The TLS certificate detector

The detector `tls.certificates`: what certificate verification objected to in
the latest recorded session of an endpoint.
-/
set_option autoImplicit false
namespace RedDock.TlsCertificates
open Text Detection
open ServiceRules (text severity confidence category discovery_run json_of)
open HttpHeaders (get as_int asset_of latest_of_type)

/-- OpenSSL X509_V_ERR_CERT_HAS_EXPIRED. -/
def CERT_HAS_EXPIRED : Int := 10

def latest_sessions (context : DetectionContext) : List ObservationView := latest_of_type context "tls_session".toList

/-- `_origin` -/
def origin (context : DetectionContext) (session : ObservationView) : Text :=
  ((asset_of context session).map AssetView.identity).getD "this endpoint".toList

/-- `detail.get("verified") is False` -/
def unverified (session : ObservationView) : Bool :=
  match get session "verified" with
  | some (.bool false) => true
  | _ => false

/-- A float as a decimal number, where it is the integer of its digits. -/
def float_is (digits : Text) (i : Int) : Bool := digits = HttpHeaders.dec_int i ++ ".0".toList

/-- `code == CERT_HAS_EXPIRED` -/
def expired (session : ObservationView) : Bool :=
  match get session "verify_code" with
  | some (.float digits) => float_is digits CERT_HAS_EXPIRED
  | code => (as_int code).any fun status => status.value = CERT_HAS_EXPIRED

/-- The message of a failed verification. -/
def reason (session : ObservationView) : Option Text :=
  match get session "verify_message" with
  | some (.str (c :: cs)) => some (c :: cs)
  | _ => none

def code_json (session : ObservationView) : Json := ((as_int (get session "verify_code")).map HttpHeaders.Status.json).getD .null

def detail (session : ObservationView) : List (Text × Json) := [
  ("verify_code".toList, code_json session),
  ("verify_message".toList, json_of (reason session)),
  ("tls_version".toList, (get session "version").getD .null),
  ("certificate_sha256".toList, (get session "certificate_sha256").getD .null),
  discovery_run session]

/-! ### Findings -/

/-- What is said of a session; the title follows the origin. -/
structure Rule where
  rule_id : Text
  title : String
  severity : Severity
  remediation : String

def certificate_expired : Rule where
  rule_id := "certificate-expired".toList
  title := " presents an expired TLS certificate"
  severity := .medium
  remediation := "Reissue the certificate for this endpoint and renew it automatically before expiry."

def certificate_not_trusted : Rule where
  rule_id := "certificate-not-trusted".toList
  title := " presents a certificate that did not verify"
  severity := .low
  remediation := "Confirm the certificate is the one intended for this endpoint. If a private authority issued it, add that " ++
    "authority to the trust store used to assess it; otherwise issue a certificate that a client can verify."

def title (rule : Rule) (origin : Text) : Text := origin ++ rule.title.toList

def EXPIRED_WORDS : String :=
  " failed because the certificate has expired. A client that checks certificates will refuse this endpoint or warn about " ++
    "it, and operators who click past that warning lose the protection the certificate was there to provide."

def expired_description (origin : Text) : Text := "Certificate verification for ".toList ++ origin ++ EXPIRED_WORDS.toList

def explanation (reason : Option Text) : Text :=
  match reason with
  | none => []
  | some reason => " OpenSSL reported: \"".toList ++ reason ++ "\".".toList

def STORE_WORDS : String := ", but the certificate did not verify against the trust store in the RedDock container."

def CAUSES_WORDS : String :=
  " A private certificate authority, a self-signed lab certificate or a name that does not match the endpoint are all " ++
    "legitimate causes, so this reports a verification outcome rather than a defect. The certificate SHA-256 is retained as " ++
    "evidence so the same certificate can be recognised later."

def untrusted_description (origin : Text) (reason : Option Text) : Text :=
  "RedDock completed a TLS handshake with ".toList ++ origin ++ STORE_WORDS.toList ++ explanation reason ++ CAUSES_WORDS.toList

def finding (session : ObservationView) (origin description : Text) (rule : Rule) : DetectedFinding where
  rule_id := text rule.rule_id
  title := text (title rule origin)
  description := text description
  category := category .transport
  severity := severity rule.severity
  confidence := confidence .high
  evidence_observation_ids := .ids [session.id]
  asset_id := .optional_int session.asset_id
  service_id := .optional_int session.service_id
  scope_key := text []
  remediation := text rule.remediation.toList
  detail := .dict (detail session)
  cve_references := .references []

/-- `_for_session` -/
def for_session (context : DetectionContext) (session : ObservationView) : Option DetectedFinding :=
  let origin := origin context session
  if !unverified session then none
  else if expired session then some (finding session origin (expired_description origin) certificate_expired)
  else some (finding session origin (untrusted_description origin (reason session)) certificate_not_trusted)

/-- `detect` -/
def detect (context : DetectionContext) : List DetectedFinding := (latest_sessions context).filterMap (for_session context)

def detector : Detector where
  id := "tls.certificates".toList
  version := "1.0.0".toList
  detect := fun context => .ok (.sequence ((detect context).map some))
  unevaluated := fun _ => .ok []
  separated := by decide

end RedDock.TlsCertificates
