import RedDock.Detection
import RedDock.Runs

/-!
# Findings

The finding rows of one Dockyard, how a detection run reconciles and resolves
them, and how an operator decides on them. A run that raises is rolled back.
-/
set_option autoImplicit false
namespace RedDock.Findings
open Text Detection

inductive FindingStatus
  | open
  | resolved
  | suppressed
  | accepted
  deriving DecidableEq, Repr

def OPERATOR_STATUSES : List FindingStatus := [.open, .suppressed, .accepted]
def OPERATOR_OWNED_STATUSES : List FindingStatus := [.suppressed, .accepted]

/-- A finding row. -/
structure Finding where
  fingerprint : Text
  detector : Text
  detector_version : Text
  rule_id : Text
  title : Object
  description : Object
  category : Object
  severity : Object
  confidence : Object
  remediation : Object
  detail : Object
  cve_references : List CveReference
  status : FindingStatus
  status_note : Option Text := none
  asset_id : Option Int
  service_id : Option Int
  first_seen : Nat
  last_seen : Nat
  first_detection_run_id : Nat
  last_detection_run_id : Nat
  resolved_at : Option Nat := none

/-- The columns a detector decides on, once its output is written out. -/
structure Conclusion where
  detector : Text
  detector_version : Text
  rule_id : Text
  title : Object
  description : Object
  category : Object
  severity : Object
  confidence : Object
  remediation : Object
  detail : Object
  cve_references : List CveReference
  asset_id : Option Int
  service_id : Option Int

/-- The columns of one detected finding; writing them out may raise. -/
def conclude (detector : Detector) (detected : DetectedFinding) (asset_id service_id : Option Int) :
    Except Raised Conclusion := do
  return {
    detector := detector.id
    detector_version := detector.version
    rule_id := detected.rule_id.shown
    title := ← detected.title.slice MAX_TITLE
    description := detected.description
    category := detected.category
    severity := detected.severity
    confidence := detected.confidence
    asset_id := asset_id
    service_id := service_id
    remediation := detected.remediation
    detail := detected.detail
    cve_references := ← detected.cve_references.documents }

/-- The row a detection writes, over the one stored under its fingerprint. -/
def reconciled (run_id seen_at : Nat) (fingerprint : Text) (conclusion : Conclusion) (stored : Option Finding) : Finding where
  fingerprint := fingerprint
  detector := conclusion.detector
  detector_version := conclusion.detector_version
  rule_id := conclusion.rule_id
  title := conclusion.title
  description := conclusion.description
  category := conclusion.category
  severity := conclusion.severity
  confidence := conclusion.confidence
  remediation := conclusion.remediation
  detail := conclusion.detail
  cve_references := conclusion.cve_references
  asset_id := conclusion.asset_id
  service_id := conclusion.service_id
  -- a resolved finding that is back is reopened; an operator's status stays
  status := match stored with
    | none => .open
    | some finding => if finding.status = .resolved then .open else finding.status
  resolved_at := match stored with
    | none => none
    | some finding => if finding.status = .resolved then none else finding.resolved_at
  status_note := stored.bind (·.status_note)
  first_seen := (stored.map (·.first_seen)).getD seen_at
  first_detection_run_id := (stored.map (·.first_detection_run_id)).getD run_id
  last_seen := seen_at
  last_detection_run_id := run_id

/-- The row under a fingerprint. -/
def stored_under (fingerprint : Text) (rows : List Finding) : Option Finding := rows.find? (·.fingerprint = fingerprint)

/-- `upsert_finding`: the rows with one detection reconciled. -/
def upsert_finding (run_id seen_at : Nat) (fingerprint : Text) (conclusion : Conclusion) : List Finding → List Finding
  | [] => [reconciled run_id seen_at fingerprint conclusion none]
  | row :: rows =>
    if row.fingerprint = fingerprint then reconciled run_id seen_at fingerprint conclusion (some row) :: rows
    else row :: upsert_finding run_id seen_at fingerprint conclusion rows

/-- Whether `resolve_absent` resolves a row. -/
def absent (detector_id : Text) (reproduced : List Text) (unevaluated : List Coverage) (row : Finding) : Bool :=
  row.detector = detector_id && row.status ∉ OPERATOR_OWNED_STATUSES && row.status ≠ .resolved &&
    row.fingerprint ∉ reproduced && (row.asset_id, row.service_id, row.rule_id) ∉ unevaluated

def resolve_absent (detector_id : Text) (reproduced : List Text) (unevaluated : List Coverage) (resolved_at : Nat)
    (rows : List Finding) : List Finding :=
  rows.map fun row =>
    if absent detector_id reproduced unevaluated row then
      { row with status := .resolved, resolved_at := some resolved_at }
    else row

/-- `set_status` -/
def set_status (fingerprint : Text) (status : FindingStatus) (note : Option Text) (rows : List Finding) : List Finding :=
  rows.map fun row =>
    if row.fingerprint = fingerprint then
      { row with
        status := status
        status_note := note
        resolved_at := if status = .open then none else row.resolved_at }
    else row

/-! ### A detection run -/

/-- A run, when each detector's findings are resolved, which findings the
    database and the evidence take, and whether the rest of it goes through. -/
structure DetectionRun where
  id : Nat
  detectors : List Detector
  context : DetectionContext
  resolved_at : Text → Nat
  accepts : DetectedFinding → Bool
  publishes : Bool := true

section
variable (runtime : Runtime) (run : DetectionRun)

/-- One accepted finding, stored. -/
def store_finding (detector : Detector) (rows : List Finding) (detected : DetectedFinding) :
    Except Raised (List Finding × Text) := do
  let fingerprint ← identity runtime detector.id detected run.context
  let asset ← run.context.asset detected.asset_id
  let service ← run.context.service detected.service_id
  let conclusion ← conclude detector detected (asset.map AssetView.id) (service.map ServiceView.id)
  if run.accepts detected then
    return (upsert_finding run.id run.context.generated_at fingerprint conclusion rows, fingerprint)
  else throw .other

/-- The findings of one detector, stored; with the fingerprints it reproduced. -/
def store_findings (detector : Detector) : List Finding → List DetectedFinding → Except Raised (List Finding × List Text)
  | rows, [] => .ok (rows, [])
  | rows, detected :: findings => do
    let (rows, fingerprint) ← store_finding runtime run detector rows detected
    let (rows, reproduced) ← store_findings detector rows findings
    return (rows, fingerprint :: reproduced)

/-- A detector that succeeded, with the fingerprints it reproduced. -/
abbrev Reproduced := List (Detector × List Text)

/-- `_store` -/
def store : List Finding → List DetectorOutcome → Except Raised (List Finding × Reproduced)
  | rows, [] => .ok (rows, [])
  | rows, outcome :: outcomes =>
    match outcome.result with
    | .error _ => store rows outcomes
    | .ok findings => do
      let (rows, fingerprints) ← store_findings runtime run outcome.detector rows findings
      let (rows, reproduced) ← store rows outcomes
      return (rows, (outcome.detector, fingerprints) :: reproduced)

/-- `_resolve`; a detector whose coverage raises resolves nothing. -/
def resolve (reproduced : Reproduced) (rows : List Finding) : List Finding :=
  reproduced.foldl (fun rows (detector, fingerprints) =>
    match detector.unevaluated run.context with
    | .error _ => rows
    | .ok unevaluated => resolve_absent detector.id fingerprints unevaluated (run.resolved_at detector.id) rows) rows

/-- `_perform`: the outcomes that are recorded and the rows that are committed. -/
def perform (rows : List Finding) : Except Raised (List DetectorOutcome × List Finding) := do
  if !decide (run.detectors.map Detector.id).Nodup then throw .other
  let outcomes ← run.detectors.mapM (run_detector runtime run.context)
  let (rows, reproduced) ← store runtime run rows outcomes
  if run.publishes then return (outcomes, resolve run reproduced rows) else throw .other

/-- `execute_run`: whatever is raised rolls the rows back. -/
def execute_run (rows : List Finding) : List Finding :=
  match perform runtime run rows with
  | .ok (_, rows) => rows
  | .error _ => rows

end

/-! ### The findings of a Dockyard over time -/

inductive Action
  | detect (run : DetectionRun)
  | decide (fingerprint : Text) (status : FindingStatus) (note : Option Text) (permitted : Bool)

/-- A detection run or an operator's decision, which may not be permitted. -/
def step (runtime : Runtime) (rows : List Finding) : Action → Option (List Finding)
  | .detect run => some (execute_run runtime run rows)
  | .decide fingerprint status note permitted =>
    if status ∈ OPERATOR_STATUSES then some (if permitted then set_status fingerprint status note rows else rows) else none

end RedDock.Findings
