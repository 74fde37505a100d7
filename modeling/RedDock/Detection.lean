import RedDock.Text
import RedDock.Fallible

/-!
# The detection contract

What a detector is given, what it may return, and the checks its output has to
pass. A detector is untrusted: the fields of its findings hold objects of any
type, and an object is known by how it answers the operations the checks apply.
-/
set_option autoImplicit false
namespace RedDock.Detection
open Text

/-! ### What a detector is given -/

inductive Severity
  | informational
  | low
  | medium
  | high
  | critical
  deriving DecidableEq, Repr

inductive FindingConfidence
  | low
  | medium
  | high
  deriving DecidableEq, Repr

inductive FindingCategory
  | transport
  | hardening
  | information_disclosure
  deriving DecidableEq, Repr

/-- A value of a recorded JSON document. -/
inductive Json
  | null
  | bool (b : Bool)
  | int (i : Int)
  | float (digits : Text)
  | str (t : Text)
  | list (items : List Json)
  | object (members : List (Text × Json))

structure ServiceView where
  id : Int
  asset_id : Int
  transport : Text
  port : Nat
  state : Text
  service_name : Option Text := none
  product : Option Text := none
  version : Option Text := none
  deriving DecidableEq

structure AssetView where
  id : Int
  asset_type : Text
  identity : Text
  display_name : Text
  services : List ServiceView := []
  deriving DecidableEq

structure ObservationView where
  id : Int
  discovery_run_id : Option Int := none
  asset_id : Option Int := none
  service_id : Option Int := none
  observation_type : Text
  observed_at : Nat
  detail : List (Text × Json) := []

/-- One catalogue association, as it is stored. -/
structure CveReference where
  cve_id : Text
  source : Text
  match_type : Text
  matched_product : Text
  matched_version : Text
  source_version : Option Text := none
  url : Option Text := none
  deriving DecidableEq

/-- Everything a detector is permitted to know. -/
structure DetectionContext where
  generated_at : Nat
  assets : List AssetView := []
  observations : List ObservationView := []
  lookup : Option (Text → Text → List CveReference) := none

/-! ### Objects a detector may return -/

/-- What an operation on an object raises: `DetectorOutputError`, a `TypeError`
    or another `ValueError`, or anything else. -/
inductive Raised
  | output (message : Text)
  | type_or_value
  | other
  deriving DecidableEq

/-- A member of one of the enumerations of the contract. -/
inductive Enumerated
  | severity (s : Severity)
  | confidence (c : FindingConfidence)
  | category (c : FindingCategory)
  deriving DecidableEq

/-- A hashable object: the integer it equals, and the class of objects it can be
    sorted with. -/
structure Key where
  int : Option Int
  order : Nat
  deriving DecidableEq

/-- How an object that is no `str` answers. Without any of the operations it is
    an object true by default; `kind` numbers the empty objects that equal it,
    and `json` is the document of a `dict`. -/
structure Answers where
  is_none : Bool := false
  is_dict : Bool := false
  kind : Nat := 0
  json : List (Text × Json) := []
  truth : Except Raised Bool := .ok true
  strip : Except Raised Bool := .error .other
  len : Except Raised Nat := .error .type_or_value
  slice : Except Raised Unit := .error .type_or_value
  equals : Int → Except Raised Bool := fun _ => .ok false
  members : Except Raised (List Key) := .error .type_or_value
  documents : Except Raised (List CveReference) := .error .type_or_value
  dumps : Except Raised Unit := .error .type_or_value

inductive Object
  /-- A `str`, which may be a member of an enumeration. -/
  | str (t : Text) (member : Option Enumerated := none)
  /-- A `str` with a lone surrogate, which UTF-8 cannot encode. -/
  | surrogates (length : Nat)
  | other (answers : Answers)

def RULE_ID (t : Text) : Bool :=
  matchesLine (fun t => match t with
    | [] => false
    | first :: rest => (first.isLower || first.isDigit) && decide (rest.length ≤ 63) &&
        rest.all fun c => c.isLower || c.isDigit || c == '.' || c == '_' || c == '-') t

namespace Object

def is_none : Object → Bool
  | other answers => answers.is_none
  | _ => false

/-- `bool(x)` -/
def truth : Object → Except Raised Bool
  | str t _ => .ok !t.isEmpty
  | surrogates _ => .ok true
  | other answers => answers.truth

/-- `bool(x.strip())` -/
def strip : Object → Except Raised Bool
  | str t _ => .ok !(Text.strip t).isEmpty
  | surrogates _ => .ok true
  | other answers => answers.strip

def len : Object → Except Raised Nat
  | str t _ => .ok t.length
  | surrogates length => .ok length
  | other answers => answers.len

/-- `_RULE_ID.match(x)` -/
def matches_rule_id : Object → Except Raised Bool
  | str t _ => .ok (RULE_ID t)
  | surrogates _ => .ok false
  | other _ => .error .type_or_value

/-- `i == x` -/
def equals : Object → Int → Except Raised Bool
  | other answers, i => answers.equals i
  | _, _ => .ok false

/-- `set(x)` -/
def members : Object → Except Raised (List Key)
  | str t _ => .ok (t.map fun _ => ⟨none, 1⟩)
  | surrogates length => .ok (List.replicate length ⟨none, 1⟩)
  | other answers => answers.members

def is_dict : Object → Bool
  | other answers => answers.is_dict
  | _ => false

/-- `json.dumps(x, sort_keys=True)` -/
def dumps : Object → Except Raised Unit
  | other answers => answers.dumps
  | _ => .ok ()

/-- `x[:n]` -/
def slice (n : Nat) : Object → Except Raised Object
  | str t _ => .ok (str (t.take n))
  | surrogates length => .ok (surrogates (min n length))
  | other answers => answers.slice.map fun _ => other answers

/-- `[reference.document() for reference in x]` -/
def documents : Object → Except Raised (List CveReference)
  | str [] _ => .ok []
  | other answers => answers.documents
  | _ => .error .other

/-- The enumeration member an object is. -/
def member : Object → Option Enumerated
  | str _ member => member
  | _ => none

/-- The characters of an object in a message. -/
def shown : Object → Text
  | str t _ => t
  | _ => []

/-- A part of a fingerprint, joined and encoded in UTF-8. -/
def part : Object → Except Raised Text
  | str t _ => .ok t
  | surrogates _ => .error .type_or_value
  | other _ => .error .type_or_value

/-- Whether `<` is defined on two objects, once neither is nonempty but a `str`. -/
def orderable : Object → Object → Bool
  | other a, other b => a.kind = b.kind
  | other _, _ => false
  | _, other _ => false
  | _, _ => true

/-- `None` -/
def none : Object := other { is_none := true, truth := .ok false }

def int (i : Int) : Object := other { truth := .ok (i ≠ 0), equals := fun j => .ok (j = i) }

def optional_int (i : Option Int) : Object := (i.map int).getD none

/-- A tuple of integers. -/
def ids (ids : List Int) : Object := other {
  kind := 1
  truth := .ok !ids.isEmpty
  len := .ok ids.length
  slice := .ok ()
  members := .ok (ids.map fun i => ⟨some i, 0⟩) }

/-- A `dict` of JSON values under text keys. -/
def dict (json : List (Text × Json)) : Object := other {
  kind := 2
  is_dict := true
  json := json
  truth := .ok !json.isEmpty
  len := .ok json.length
  members := .ok (json.map fun _ => ⟨.none, 1⟩)
  dumps := .ok () }

/-- A tuple of catalogue references. -/
def references (references : List CveReference) : Object := other {
  kind := 1
  truth := .ok !references.isEmpty
  len := .ok references.length
  slice := .ok ()
  members := .ok (references.map fun _ => ⟨.none, 2⟩)
  documents := .ok references }

end Object

/-- What a detector concluded, before it is validated. -/
structure DetectedFinding where
  rule_id : Object
  title : Object
  description : Object
  category : Object
  severity : Object
  confidence : Object
  evidence_observation_ids : Object
  asset_id : Object
  service_id : Object
  scope_key : Object
  remediation : Object
  detail : Object
  cve_references : Object

/-- What `detect` returns: a sequence, whose items are findings or anything else. -/
inductive Produced
  | sequence (items : List (Option DetectedFinding))
  | other

/-- A finding of a rule, on an asset and a service. -/
abbrev Coverage := Option Int × Option Int × Text

/-- A detector, by what its methods do with a snapshot: `detect` raises, with a
    description unless making that raises too, or returns. -/
structure Detector where
  id : Text
  version : Text
  detect : DetectionContext → Except (Option Text) Produced
  unevaluated : DetectionContext → Except Unit (List Coverage)
  -- the separator of a fingerprint appears in no component
  separated : '\x1f' ∉ id

/-! ### Lookups and identity -/

/-- The first item whose id equals an object. -/
def find_equal {α : Type} (id : α → Int) (o : Object) : List α → Except Raised (Option α)
  | [] => .ok none
  | item :: items => do if ← o.equals (id item) then return some item else find_equal id o items

namespace DetectionContext

def asset (context : DetectionContext) (asset_id : Object) : Except Raised (Option AssetView) :=
  if asset_id.is_none then .ok none else find_equal AssetView.id asset_id context.assets

def service (context : DetectionContext) (service_id : Object) : Except Raised (Option ServiceView) :=
  if service_id.is_none then .ok none
  else find_equal ServiceView.id service_id (context.assets.flatMap AssetView.services)

end DetectionContext

/-- The settings of the runner, and what it takes from Python; the text of a
    list of keys is absent when making it raises. -/
structure Runtime where
  max_findings_per_detector : Nat := 500
  max_evidence_per_finding : Nat := 20
  repr : Object → Text
  repr_keys : List Key → Option Text
  sha256 : Text → Text

def FINGERPRINT_SCHEMA : Text := "reddock.finding/1".toList
def ABSENT : Text := ['-']

/-- `value or _ABSENT` -/
def or_absent (value : Option Text) : Text :=
  match value with
  | none | some [] => ABSENT
  | some t => t

/-- The text a fingerprint is computed over. -/
def fingerprint_text (detector rule_id : Text) (asset : Option AssetView) (service : Option ServiceView)
    (scope_key : Text) : Text :=
  let endpoint := match service with
    | some service => if service.transport.isEmpty then ABSENT else service.transport ++ '/' :: dec service.port
    | none => ABSENT
  join ['\x1f'] [FINGERPRINT_SCHEMA, detector, rule_id, or_absent (asset.map AssetView.asset_type),
    or_absent (asset.map AssetView.identity), endpoint, scope_key]

/-- `scope_key or _ABSENT`, as a part of a fingerprint -/
def Object.or_absent (scope_key : Object) : Except Raised Text := do
  if ← scope_key.truth then scope_key.part else return ABSENT

section
variable (runtime : Runtime)

/-- `_identity` -/
def identity (detector_id : Text) (finding : DetectedFinding) (context : DetectionContext) : Except Raised Text := do
  let asset ← context.asset finding.asset_id
  let service ← context.service finding.service_id
  let rule_id ← finding.rule_id.part
  let scope_key ← finding.scope_key.or_absent
  return runtime.sha256 (fingerprint_text detector_id rule_id asset service scope_key)

/-! ### Validation -/

def MAX_TITLE : Nat := 200
def MAX_DESCRIPTION : Nat := 4000
def MAX_REMEDIATION : Nat := 2000
def MAX_SCOPE_KEY : Nat := 120

/-- `raise DetectorOutputError(f"{finding.rule_id}{message}")` -/
def refuse {α : Type} (finding : DetectedFinding) (message : String) : Except Raised α :=
  .error (.output (finding.rule_id.shown ++ message.toList))

def refuse_if (test : Bool) (finding : DetectedFinding) (message : String) : Except Raised Unit :=
  if test then refuse finding message else .ok ()

def check_rule_id (finding : DetectedFinding) : Except Raised Unit := do
  if ← finding.rule_id.matches_rule_id then return
  else throw (.output ("Unusable rule id: ".toList ++ runtime.repr finding.rule_id))

/-- `if not x.strip() or len(x) > limit` -/
def check_text (finding : DetectedFinding) (text : Object) (limit : Nat) (message : String) : Except Raised Unit := do
  if ← text.strip then refuse_if (limit < (← text.len)) finding message else refuse finding message

/-- `if len(x) > limit` -/
def check_length (finding : DetectedFinding) (o : Object) (limit : Nat) (message : String) : Except Raised Unit := do
  refuse_if (limit < (← o.len)) finding message

def check_remediation (finding : DetectedFinding) : Except Raised Unit :=
  if finding.remediation.is_none then .ok ()
  else check_length finding finding.remediation MAX_REMEDIATION " has over-long remediation guidance"

def check_subject (finding : DetectedFinding) (context : DetectionContext) : Except Raised Unit := do
  let asset ← context.asset finding.asset_id
  refuse_if (!finding.asset_id.is_none && asset.isNone) finding " names an asset outside this Dockyard"
  if finding.service_id.is_none then return
  else
    match ← context.service finding.service_id with
    | none => refuse finding " names a service outside this Dockyard"
    | some service => refuse_if (asset.any (·.id ≠ service.asset_id)) finding " names a service on a different asset"

/-- The cited objects that are no known observation. -/
def unknown_keys (known : List Int) (keys : List Key) : List Key :=
  keys.filter fun key => key.int.all (· ∉ known)

/-- The refusal of unknown keys, which are sorted into its message. -/
def refuse_unknown (finding : DetectedFinding) (unknown : List Key) : Except Raised Unit :=
  if unknown.any fun a => unknown.any fun b => a.order ≠ b.order then throw .type_or_value
  else
    match runtime.repr_keys unknown with
    | none => throw .other
    | some keys => throw (.output (finding.rule_id.shown ++ " cites observations outside this Dockyard: ".toList ++ keys))

def check_evidence (finding : DetectedFinding) (known : List Int) (limit : Nat) : Except Raised Unit := do
  if ← finding.evidence_observation_ids.truth then
    check_length finding finding.evidence_observation_ids limit (" cites more than " ++ toString limit ++ " observations")
    let unknown := unknown_keys known (← finding.evidence_observation_ids.members)
    if unknown = [] then return else refuse_unknown runtime finding unknown
  else refuse finding " cites no observation"

def check_detail (finding : DetectedFinding) : Except Raised Unit :=
  if !finding.detail.is_dict then refuse finding " has a detail that is not an object"
  else
    match finding.detail.dumps with
    | .error .other => .error .other
    | .error _ => refuse finding " has a detail RedDock cannot store"
    | .ok () => .ok ()

def is_severity : Option Enumerated → Bool
  | some (.severity _) => true
  | _ => false

def is_confidence : Option Enumerated → Bool
  | some (.confidence _) => true
  | _ => false

def is_category : Option Enumerated → Bool
  | some (.category _) => true
  | _ => false

def check_members (finding : DetectedFinding) : Except Raised Unit := do
  refuse_if (!is_severity finding.severity.member) finding " has an unknown severity"
  refuse_if (!is_confidence finding.confidence.member) finding " has an unknown confidence"
  refuse_if (!is_category finding.category.member) finding " has an unknown category"

/-- The checks `_validated` makes on one finding. -/
def check_finding (context : DetectionContext) (finding : DetectedFinding) : Except Raised Unit := do
  check_rule_id runtime finding
  check_text finding finding.title MAX_TITLE " has an unusable title"
  check_text finding finding.description MAX_DESCRIPTION " has an unusable description"
  check_remediation finding
  check_length finding finding.scope_key MAX_SCOPE_KEY " has an over-long scope key"
  check_members finding
  check_subject finding context
  check_evidence runtime finding (context.observations.map ObservationView.id) runtime.max_evidence_per_finding
  check_detail finding

/-- The loop of `_validated`; the findings are returned as such. -/
def check_findings (context : DetectionContext) : List (Option DetectedFinding) → Except Raised (List DetectedFinding)
  | [] => .ok []
  | none :: _ => .error (.output "A detector returned something that is not a finding".toList)
  | some finding :: items => do
    check_finding runtime context finding
    return finding :: (← check_findings context items)

/-- The loop of `_check_distinct` over the identities seen so far. -/
def check_distinct (detector_id : Text) (context : DetectionContext) (seen : List (Text × Text)) :
    List DetectedFinding → Except Raised Unit
  | [] => .ok ()
  | finding :: findings => do
    let identity ← identity runtime detector_id finding context
    match seen.lookup identity with
    | some other => throw (.output (detector_id ++ " returned ".toList ++ finding.rule_id.shown ++ " and ".toList ++ other ++
        " with the same identity; a rule that can fire twice for one service needs a scope key".toList))
    | none => check_distinct detector_id context ((identity, finding.rule_id.shown) :: seen) findings

end

/-- `_order_key` -/
structure OrderKey where
  rule_id : Text
  identity : Text
  transport : Text
  port : Nat
  scope_key : Object

def order_key (finding : DetectedFinding) (context : DetectionContext) : Except Raised OrderKey := do
  let asset ← context.asset finding.asset_id
  let service ← context.service finding.service_id
  return {
    rule_id := finding.rule_id.shown
    identity := (asset.map AssetView.identity).getD []
    transport := (service.map ServiceView.transport).getD []
    port := (service.map ServiceView.port).getD 0
    scope_key := finding.scope_key }

namespace OrderKey

/-- Whether two keys differ before their last part, or in a part `<` is defined on. -/
def orderable (a b : OrderKey) : Bool :=
  (a.rule_id, a.identity, a.transport, a.port) ≠ (b.rule_id, b.identity, b.transport, b.port) ||
    a.scope_key.orderable b.scope_key

/-- `a <= b` on keys that can be compared. -/
def le (a b : OrderKey) : Bool :=
  if a.rule_id ≠ b.rule_id then a.rule_id < b.rule_id
  else if a.identity ≠ b.identity then a.identity < b.identity
  else if a.transport ≠ b.transport then a.transport < b.transport
  else if a.port ≠ b.port then a.port < b.port
  else a.scope_key.shown ≤ b.scope_key.shown

end OrderKey

/-- `sorted(produced, key=...)`: two keys that cannot be compared raise `TypeError`. -/
def sort_findings (context : DetectionContext) (findings : List DetectedFinding) : Except Raised (List DetectedFinding) := do
  let keyed ← findings.mapM fun finding => do return (← order_key finding context, finding)
  if keyed.any fun a => keyed.any fun b => !a.1.orderable b.1 then throw .type_or_value
  else return (keyed.insertionSort fun a b => a.1.le b.1).map (·.2)

section
variable (runtime : Runtime)

/-- `_validated` -/
def validated (detector_id : Text) (produced : Produced) (context : DetectionContext) :
    Except Raised (List DetectedFinding) :=
  match produced with
  | .other => .error (.output "A detector must return a sequence of findings".toList)
  | .sequence items =>
    if runtime.max_findings_per_detector < items.length then
      .error (.output ("A detector may return at most ".toList ++ dec runtime.max_findings_per_detector ++
        " findings in one run; ".toList ++ detector_id ++ " returned ".toList ++ dec items.length))
    else do
      let findings ← check_findings runtime context items
      check_distinct runtime detector_id context [] findings
      sort_findings context findings

/-- `_DetectorOutcome`: the findings that were accepted, or an error. -/
structure DetectorOutcome where
  detector : Detector
  result : Except Text (List DetectedFinding)

def DetectorOutcome.ok (outcome : DetectorOutcome) : Bool := outcome.result.toOption.isSome

/-- `_run_detector`; what `_describe` raises leaves it, and what `_validated`
    raises besides `DetectorOutputError`. -/
def run_detector (context : DetectionContext) (detector : Detector) : Except Raised DetectorOutcome :=
  match detector.detect context with
  | .error none => .error .other
  | .error (some described) => .ok ⟨detector, .error (described.take 400)⟩
  | .ok produced =>
    match validated runtime detector.id produced context with
    | .ok findings => .ok ⟨detector, .ok findings⟩
    | .error (.output message) => .ok ⟨detector, .error message⟩
    | .error raised => .error raised

end
end RedDock.Detection
