import RedDock.ServiceRules

/-!
# The HTTP header detector

The detector `http.security_headers`: the protections that the latest recorded
response of an endpoint did not carry, among the headers the probe examined.
-/
set_option autoImplicit false
namespace RedDock.HttpHeaders
open Text Detection
open ServiceRules (Casing text severity confidence category discovery_run not_before of_type)

def HSTS : Text := "strict-transport-security".toList
def CONTENT_TYPE_OPTIONS : Text := "x-content-type-options".toList
def CONTENT_SECURITY_POLICY : Text := "content-security-policy".toList
def FRAME_OPTIONS : Text := "x-frame-options".toList
def LOCATION : Text := "location".toList

def NOSNIFF : Text := "nosniff".toList
def FRAME_ANCESTORS : Text := "frame-ancestors".toList
def RESTRICTIVE_FRAME_OPTIONS : List Text := ["deny".toList, "sameorigin".toList]

/-! ### The latest observation of a subject -/

/-- An assignment to a `dict`, whose keys stay where they were first put. -/
def put {κ α : Type} [DecidableEq κ] (key : κ) (value : α) : List (κ × α) → List (κ × α)
  | [] => [(key, value)]
  | entry :: entries => if entry.1 = key then (key, value) :: entries else entry :: put key value entries

/-- An asset and a service. -/
abbrev Subject := Option Int × Option Int

def subject_of (observation : ObservationView) : Subject := (observation.asset_id, observation.service_id)

def keep_latest (latest : List (Subject × ObservationView)) (observation : ObservationView) : List (Subject × ObservationView) :=
  match latest.lookup (subject_of observation) with
  | none => put (subject_of observation) observation latest
  | some current => if not_before current observation then put (subject_of observation) observation latest else latest

/-- `_latest_by_subject` -/
def latest_by_subject (observations : List ObservationView) : List (Subject × ObservationView) := observations.foldl keep_latest []

/-- The latest observations of a type, ordered by their ids. -/
def latest_of_type (context : DetectionContext) (observation_type : Text) : List ObservationView :=
  ((latest_by_subject (of_type context observation_type)).map Prod.snd).insertionSort fun a b => a.id ≤ b.id

def latest_responses (context : DetectionContext) : List ObservationView := latest_of_type context "http_response".toList

/-! ### What a response says -/

/-- The text of an integer. -/
def dec_int (i : Int) : Text := if i < 0 then '-' :: dec i.natAbs else dec i.natAbs

/-- An integer of a document, as arithmetic and a text see it. -/
structure Status where
  value : Int
  shown : Text
  json : Json

/-- A value that is an `int`, as a `bool` is. -/
def as_int : Option Json → Option Status
  | some (.int i) => some ⟨i, dec_int i, .int i⟩
  | some (.bool true) => some ⟨1, "True".toList, .bool true⟩
  | some (.bool false) => some ⟨0, "False".toList, .bool false⟩
  | _ => none

def get (observation : ObservationView) (key : String) : Option Json := observation.detail.lookup key.toList

/-- The asset an observation is about. -/
def asset_of (context : DetectionContext) (observation : ObservationView) : Option AssetView :=
  observation.asset_id.bind fun asset_id => context.assets.find? fun asset => asset.id = asset_id

/-- `_is_content_response` -/
def is_content_response (status : Int) : Bool := status < 300 || (400 ≤ status && status < 500)

section
variable (casing : Casing)

/-- `str.split()` -/
def split (t : Text) : List Text := (t.splitOnP isSpace).filter (!·.isEmpty)

def framing_restricted (frame_options policy : Option Text) : Bool :=
  if frame_options.any fun value => casing.lower (strip value) ∈ RESTRICTIVE_FRAME_OPTIONS then true
  else match policy with
    | none => false
    | some policy =>
      -- browsers honor only the first occurrence of a directive
      match ((policy.splitOn ';').map fun directive => split (casing.lower (strip directive))).find? fun tokens =>
          tokens.head? = some FRAME_ANCESTORS with
      | none => false
      | some tokens => !tokens.tail.isEmpty && tokens.tail ≠ ["*".toList]

/-- `_examined` -/
def examined (response : ObservationView) : List Text :=
  match get response "headers_examined" with
  | some (.list items) => items.filterMap fun item => match item with
    | .str t => some (casing.lower t)
    | _ => none
  | _ => []

/-- `_scheme` -/
def scheme (context : DetectionContext) (response : ObservationView) : Option Text :=
  match get response "scheme" with
  | some (.str t) => if t = "http".toList ∨ t = "https".toList then some t else of_origin
  | _ => of_origin
where
  of_origin : Option Text := (asset_of context response).bind fun asset =>
    ["https".toList, "http".toList].find? fun scheme => (scheme ++ "://".toList).isPrefixOf asset.identity

/-- A header's value, and the observation of it. -/
abbrev Headers := List (Text × Text × Int)

/-- `_headers_for` -/
def headers_for (context : DetectionContext) (response : ObservationView) : Headers :=
  (of_type context "http_header".toList).foldl (fun headers observation =>
    if observation.discovery_run_id ≠ response.discovery_run_id ∨ subject_of observation ≠ subject_of response then headers
    else match get observation "header", get observation "value" with
      | some (.str name), some (.str value) => put (casing.lower name) (value, observation.id) headers
      | _, _ => headers) []

/-- `_origin` -/
def origin (context : DetectionContext) (response : ObservationView) : Text :=
  ((asset_of context response).map AssetView.identity).getD "this origin".toList

/-! ### Rules -/

/-- The fields a rule's description is formatted with. -/
inductive Piece
  | text (t : String)
  | origin
  | status
  | observed

/-- What a rule says of a response; its title follows the origin. -/
structure Rule where
  rule_id : Text
  title : String
  description : List Piece
  category : FindingCategory
  severity : Severity
  confidence : FindingConfidence
  remediation : String
  scheme : Option Text
  related : List Text

def plaintext_http : Rule where
  rule_id := "plaintext-http".toList
  title := " answers over plaintext HTTP"
  description := [.text "RedDock completed an HTTP exchange with ", .origin, .text " over plaintext and received HTTP ", .status,
    .text (". Anything sent to this origin, including credentials and session cookies, travels the network unprotected and " ++
      "can be read or altered in transit. This severity describes the transport itself and does not account for how " ++
      "exposed the network path is.")]
  category := .transport
  severity := .medium
  confidence := .high
  remediation := "Serve this origin over HTTPS and redirect plaintext requests to it, then set Strict-Transport-Security on " ++
    "the HTTPS origin."
  scheme := some "http".toList
  related := [LOCATION]

def hsts_not_set : Rule where
  rule_id := "hsts-not-set".toList
  title := " does not set Strict-Transport-Security"
  description := [.text "The HTTPS response from ", .origin, .text " (HTTP ", .status,
    .text (") carried no Strict-Transport-Security header. Without it a browser will still attempt a plaintext request to this " ++
      "origin, which leaves the first request of a session open to interception or downgrade.")]
  category := .hardening
  severity := .low
  confidence := .high
  remediation := "Send Strict-Transport-Security with a max-age the operator is prepared to commit to, once every path on " ++
    "the origin is served over HTTPS."
  scheme := some "https".toList
  related := []

def content_type_options_not_nosniff : Rule where
  rule_id := "content-type-options-not-nosniff".toList
  title := " does not set X-Content-Type-Options: nosniff"
  description := [.text "The response from ", .origin, .text " (HTTP ", .status, .text ") ", .observed,
    .text (". A browser may then infer a content type other than the one declared, so a response intended as data can be " ++
      "treated as script or markup.")]
  category := .hardening
  severity := .low
  confidence := .high
  remediation := "Send X-Content-Type-Options: nosniff on every response."
  scheme := none
  related := [CONTENT_TYPE_OPTIONS]

def content_security_policy_not_set : Rule where
  rule_id := "content-security-policy-not-set".toList
  title := " does not set a Content-Security-Policy"
  description := [.text "The response from ", .origin, .text " (HTTP ", .status,
    .text (") carried no Content-Security-Policy header. The browser therefore applies no restriction on where scripts, " ++
      "styles and frames may be loaded from, which removes a control that limits the impact of an injection flaw elsewhere " ++
      "in the application. RedDock has not tested this origin for injection flaws.")]
  category := .hardening
  severity := .low
  confidence := .high
  remediation := "Define a Content-Security-Policy for this origin, starting in report-only mode so the policy can be " ++
    "validated before it is enforced."
  scheme := none
  related := []

def frame_protection_not_set : Rule where
  rule_id := "frame-protection-not-set".toList
  title := " does not restrict framing"
  description := [.text "The response from ", .origin, .text " (HTTP ", .status,
    .text (") carried neither an X-Frame-Options header nor a Content-Security-Policy frame-ancestors directive, so another " ++
      "site may embed this origin in a frame.")]
  category := .hardening
  severity := .low
  confidence := .high
  remediation := "Add a Content-Security-Policy frame-ancestors directive naming the origins allowed to frame this one, or " ++
    "none at all."
  scheme := none
  related := [CONTENT_SECURITY_POLICY]

def CONTENT_RULES : List Rule := [content_type_options_not_nosniff, content_security_policy_not_set, frame_protection_not_set]
def ALL_RULES : List Rule := [plaintext_http, hsts_not_set] ++ CONTENT_RULES
def HEADER_RULES : List (Text × Rule) := [(HSTS, hsts_not_set), (CONTENT_TYPE_OPTIONS, content_type_options_not_nosniff),
  (CONTENT_SECURITY_POLICY, content_security_policy_not_set), (FRAME_OPTIONS, frame_protection_not_set)]

/-! ### Findings -/

/-- What was observed of a header that should say `nosniff`. -/
def observed (headers : Headers) : Text :=
  match headers.lookup CONTENT_TYPE_OPTIONS with
  | some (value, _) => "sent X-Content-Type-Options: ".toList ++ value
  | none => "sent no X-Content-Type-Options header".toList

def Piece.format (origin : Text) (status : Status) (observed : Text) : Piece → Text
  | text t => t.toList
  | .origin => origin
  | .status => status.shown
  | .observed => observed

def title (rule : Rule) (origin : Text) : Text := origin ++ rule.title.toList

def description (rule : Rule) (origin : Text) (status : Status) (observed : Text) : Text :=
  rule.description.flatMap (Piece.format origin status observed)

/-- The related headers that were found. -/
def related (rule : Rule) (headers : Headers) : List (Text × Text × Int) :=
  rule.related.filterMap fun header => (headers.lookup header).map fun found => (header, found)

/-- The cited observations, each once. -/
def evidence (rule : Rule) (response : ObservationView) (headers : Headers) : List Int :=
  (response.id :: (related rule headers).map fun found => found.2.2).foldl (fun cited id => if id ∈ cited then cited else cited ++ [id]) []

/-- `_finding` -/
def finding (response : ObservationView) (headers : Headers) (status : Status) (origin : Text) (rule : Rule) : DetectedFinding where
  rule_id := text rule.rule_id
  title := text (title rule origin)
  description := text (description rule origin status (observed headers))
  category := category rule.category
  severity := severity rule.severity
  confidence := confidence rule.confidence
  evidence_observation_ids := .ids (evidence rule response headers)
  asset_id := .optional_int response.asset_id
  service_id := .optional_int response.service_id
  scope_key := text []
  remediation := text rule.remediation.toList
  detail := .dict ([("status".toList, status.json), discovery_run response] ++
    (rule.scheme.map fun scheme => ("scheme".toList, Json.str scheme)).toList ++
    (related rule headers).map fun found => (found.1, Json.str found.2.1))
  cve_references := .references []

/-- A plaintext response that redirects to HTTPS. -/
def redirects (headers : Headers) (status : Int) : Bool :=
  300 ≤ status && status < 400 && (headers.lookup LOCATION).any fun found => "https://".toList.isPrefixOf (casing.lower found.1)

def is_nosniff (headers : Headers) : Bool :=
  (headers.lookup CONTENT_TYPE_OPTIONS).any fun found => casing.lower (strip found.1) = NOSNIFF

def restricts_framing (headers : Headers) : Bool :=
  framing_restricted casing ((headers.lookup FRAME_OPTIONS).map Prod.fst) ((headers.lookup CONTENT_SECURITY_POLICY).map Prod.fst)

/-- The rules that fire on the transport of a response. -/
def transport_rules (examined : List Text) (headers : Headers) (scheme : Text) (status : Int) : List Rule :=
  if scheme = "http".toList then (if redirects casing headers status then [] else [plaintext_http])
  else if HSTS ∈ examined ∧ headers.lookup HSTS = none then [hsts_not_set] else []

/-- The rules that fire on what a response carried. -/
def content_rules (examined : List Text) (headers : Headers) : List Rule :=
  (if CONTENT_TYPE_OPTIONS ∈ examined ∧ ¬is_nosniff casing headers then [content_type_options_not_nosniff] else []) ++
  (if CONTENT_SECURITY_POLICY ∈ examined ∧ headers.lookup CONTENT_SECURITY_POLICY = none then [content_security_policy_not_set]
    else []) ++
  (if FRAME_OPTIONS ∈ examined ∧ ¬restricts_framing casing headers then [frame_protection_not_set] else [])

/-- The rules that fire on a response, and its status. -/
def fired (context : DetectionContext) (response : ObservationView) : List (Status × Rule) :=
  let examined := examined casing response
  if examined.isEmpty then []
  else match scheme context response, as_int (get response "status") with
    | some scheme, some status =>
      let headers := headers_for casing context response
      (transport_rules casing examined headers scheme status.value ++
        (if is_content_response status.value then content_rules casing examined headers else [])).map fun rule => (status, rule)
    | _, _ => []

/-- The headers that `_finding` is given: none of them where a header is missing. -/
def given (rule : Rule) (headers : Headers) : Headers := if rule.related = [] then [] else headers

/-- `_for_response` -/
def for_response (context : DetectionContext) (response : ObservationView) : List DetectedFinding :=
  (fired casing context response).map fun found =>
    finding response (given found.2 (headers_for casing context response)) found.1 (origin context response) found.2

/-- `detect` -/
def detect (context : DetectionContext) : List DetectedFinding := (latest_responses context).flatMap (for_response casing context)

/-- The rules that a response gives no basis to judge. -/
def unevaluated_rules (context : DetectionContext) (response : ObservationView) : List Rule :=
  let examined := examined casing response
  match scheme context response, as_int (get response "status") with
  | some _, some status =>
    if examined.isEmpty then ALL_RULES
    else ((HEADER_RULES.filter fun header => header.1 ∉ examined).map Prod.snd) ++
      (if is_content_response status.value then [] else CONTENT_RULES)
  | _, _ => ALL_RULES

/-- `unevaluated` -/
def unevaluated (context : DetectionContext) : List Coverage :=
  (latest_responses context).flatMap fun response => (unevaluated_rules casing context response).map fun rule =>
    (response.asset_id, response.service_id, rule.rule_id)

def detector : Detector where
  id := "http.security_headers".toList
  version := "1.0.0".toList
  detect := fun context => .ok (.sequence ((detect casing context).map some))
  unevaluated := fun context => .ok (unevaluated casing context)
  separated := by decide

end
end RedDock.HttpHeaders
