import RedDock.Approvals
import RedDock.Intelligence
import RedDock.Coverage
import RedDock.Inventory

/-!
# Retained rows

The rows that reporting and correlation read, as one committed database, and
their queries. Times are microseconds of UTC since 1970; columns that are only
printed are the texts they hold.
-/
set_option autoImplicit false
namespace RedDock.Retained
open Text
open Detection (Json)
open Inventory (Asset Service EvidenceRecord)

/-! ### Rows -/

structure Dockyard where
  id : Nat
  name : Text
  description : Option Text := none
  status : Text

structure ScopeEntry where
  id : Nat
  dockyard_id : Nat
  rule : Text
  kind : Text
  value : Text
  note : Option Text := none

structure DiscoveryRun where
  id : Nat
  dockyard_id : Nat
  status : Discovery.RunStatus
  completed_at : Option Nat := none

structure Observation extends Inventory.Observation where
  created_at : Nat

structure DetectionRun extends Coverage.DetectionRun where
  evidence_path : Option Text := none

structure Finding where
  id : Nat
  dockyard_id : Nat
  fingerprint : Text
  detector : Text
  detector_version : Text
  rule_id : Text
  title : Text
  description : Text
  category : Text
  severity : Text
  confidence : Text
  status : Text
  status_note : Option Text := none
  asset_id : Option Nat := none
  service_id : Option Nat := none
  remediation : Option Text := none
  cve_references : Option (List Json) := none
  first_seen : Nat
  last_seen : Nat
  resolved_at : Option Nat := none

structure FindingEvidence where
  id : Nat
  finding_id : Nat
  observation_id : Nat
  detection_run_id : Option Nat := none
  discovery_run_id : Option Nat := none
  evidence_record_id : Option Nat := none
  summary : Text

structure ValidationRun extends Approvals.ValidationRun where
  id : Nat
  finding_id : Nat

inductive CorrelationStatus
  | pending
  | running
  | completed
  | failed
  deriving DecidableEq, Repr

structure Node where
  id : Text
  kind : Text
  label : Text
  subtitle : Text
  status : Option Text := none
  severity : Option Text := none

structure Edge where
  id : Text
  source : Text
  target : Text
  kind : Text
  label : Text
  confidence : Text
  basis : Text
  evidence_sha256 : List Text

structure Mapping where
  id : Nat
  finding_id : Nat
  framework : Text
  external_id : Text
  title : Text
  basis : Text
  mapping_version : Text
  evidence_sha256 : Text

/-- The graph of a correlation run. -/
structure Graph where
  nodes : List Node
  edges : List Edge
  mappings : List Mapping

structure CorrelationRun where
  id : Nat
  dockyard_id : Nat
  status : CorrelationStatus
  evidence_path : Option Text := none
  metadata_sha256 : Option Text := none
  result_sha256 : Option Text := none
  graph : Option Graph := none
  error : Option Text := none
  completed_at : Option Nat := none

structure IntelligenceRun extends Intelligence.IntelligenceRun where
  id : Nat
  correlation_run_id : Nat

structure LabAuthorization where
  id : Nat
  dockyard_id : Nat
  capability : Text
  status : Text
  acknowledgement : Text
  note : Text
  created_at : Nat
  expires_at : Nat
  revoked_at : Option Nat := none

structure LabAuditEvent where
  id : Nat
  dockyard_id : Nat
  capability : Text
  action : Text
  decision : Text
  reason : Text
  authorization_id : Option Nat := none
  discovery_run_id : Option Nat := none
  created_at : Nat

inductive ReportStatus
  | running
  | completed
  | failed
  deriving DecidableEq, Repr

structure ReportRun where
  id : Nat
  dockyard_id : Nat
  status : ReportStatus
  report_schema : Text
  snapshot_sha256 : Option Text := none
  technical_sha256 : Option Text := none
  executive_sha256 : Option Text := none
  manifest_sha256 : Option Text := none
  dockpack_sha256 : Option Text := none
  dockpack_bytes : Option Nat := none
  evidence_path : Option Text := none
  source_counts : Option Json := none
  error : Option Text := none
  completed_at : Option Nat := none

structure SecurityEvent where
  action : Text
  target_id : Text
  reason_code : Text

/-- The committed rows. -/
structure Database where
  dockyards : List Dockyard := []
  scope_entries : List ScopeEntry := []
  assets : List Asset := []
  services : List Service := []
  discovery_runs : List DiscoveryRun := []
  observations : List Observation := []
  evidence_records : List EvidenceRecord := []
  detection_runs : List DetectionRun := []
  findings : List Finding := []
  finding_evidence : List FindingEvidence := []
  validation_runs : List ValidationRun := []
  correlation_runs : List CorrelationRun := []
  intelligence_runs : List IntelligenceRun := []
  lab_authorizations : List LabAuthorization := []
  lab_audit_events : List LabAuditEvent := []
  report_runs : List ReportRun := []
  security_events : List SecurityEvent := []

/-! ### Queries -/

section
variable {Row : Type} {Key : Type} [LinearOrder Key]

/-- `order_by` -/
def ordered (key : Row → Key) (rows : List Row) : List Row := rows.insertionSort fun one other => key one ≤ key other

/-- Rows are in one order, however a table holds them, when their keys differ. -/
theorem ordered_perm {key : Row → Key} {rows others : List Row} (perm : rows.Perm others) (distinct : (rows.map key).Nodup) :
    ordered key rows = ordered key others := by
  refine List.Perm.eq_of_pairwise (fun one other left right before after => ?_) (List.pairwise_insertionSort _ _)
    (List.pairwise_insertionSort _ _) ((List.perm_insertionSort _ _).trans (perm.trans (List.perm_insertionSort _ _).symm))
  have here : one ∈ rows := (List.mem_insertionSort _).mp left
  have there : other ∈ rows := perm.mem_iff.mpr ((List.mem_insertionSort _).mp right)
  exact List.inj_on_of_nodup_map distinct here there (le_antisymm before after)

@[simp] theorem mem_ordered {key : Row → Key} {rows : List Row} {row : Row} : row ∈ ordered key rows ↔ row ∈ rows :=
  List.mem_insertionSort _

end

section
variable (db : Database) (dockyard_id : Nat)

/-- The evidence records of a Dockyard, in the order of its references. -/
def evidence_records : List EvidenceRecord :=
  ordered (fun row => toLex (row.discovery_run_id, toLex (row.relative_path, row.id)))
    (db.evidence_records.filter fun row => row.dockyard_id = dockyard_id)

def detection_runs : List DetectionRun := ordered (fun row => row.id) (db.detection_runs.filter fun row => row.dockyard_id = dockyard_id)

def validation_runs : List ValidationRun := ordered ValidationRun.id (db.validation_runs.filter fun row => row.dockyard_id = dockyard_id)

def correlation_runs : List CorrelationRun := ordered CorrelationRun.id (db.correlation_runs.filter fun row => row.dockyard_id = dockyard_id)

def intelligence_runs : List IntelligenceRun :=
  ordered IntelligenceRun.id (db.intelligence_runs.filter fun row => row.dockyard_id = dockyard_id)

def assets : List Asset := ordered Asset.id (db.assets.filter fun row => row.dockyard_id = dockyard_id)

/-- Services, joined with the assets of a Dockyard. -/
def services : List Service :=
  ordered (fun row => toLex (row.asset_id, toLex (row.transport, toLex (row.port, row.id))))
    (db.services.filter fun row => db.assets.any fun asset => asset.id = row.asset_id && asset.dockyard_id = dockyard_id)

def findings : List Finding := ordered Finding.id (db.findings.filter fun row => row.dockyard_id = dockyard_id)

def scope_entries : List ScopeEntry := ordered ScopeEntry.id (db.scope_entries.filter fun row => row.dockyard_id = dockyard_id)

def lab_authorizations : List LabAuthorization :=
  ordered LabAuthorization.id (db.lab_authorizations.filter fun row => row.dockyard_id = dockyard_id)

def lab_audit_events : List LabAuditEvent := ordered LabAuditEvent.id (db.lab_audit_events.filter fun row => row.dockyard_id = dockyard_id)

def observations : List Observation := db.observations.filter fun row => row.dockyard_id = dockyard_id

def dockyard : Option Dockyard := db.dockyards.find? fun row => row.id = dockyard_id

end

/-- The evidence record a link is joined with. -/
def record_of (db : Database) (link : FindingEvidence) : Option EvidenceRecord :=
  link.evidence_record_id.bind fun id => db.evidence_records.find? fun record => record.id = id

/-- Links, joined with the findings of a Dockyard and with their records. -/
def finding_evidence (db : Database) (dockyard_id : Nat) : List (FindingEvidence × Option EvidenceRecord) :=
  (ordered (fun link => toLex (link.finding_id, link.id))
    (db.finding_evidence.filter fun link => db.findings.any fun finding => finding.id = link.finding_id && finding.dockyard_id = dockyard_id)).map
      fun link => (link, record_of db link)

/-- What `assessment_coverage` reads. -/
def coverage_tables (db : Database) : Coverage.Tables where
  discoveries := fun id => (db.discovery_runs.find? fun run => run.id = id).map fun run =>
    { dockyard_id := run.dockyard_id, status := run.status, completed_at := run.completed_at }
  observations := db.observations.map fun row =>
    { id := row.id, dockyard_id := row.dockyard_id, discovery_run_id := row.discovery_run_id, observation_type := row.observation_type,
      created_at := row.created_at }
  evidence := db.evidence_records.map fun row =>
    { dockyard_id := row.dockyard_id, discovery_run_id := row.discovery_run_id, kind := row.kind, truncated := row.truncated }
  detections := db.detection_runs.map DetectionRun.toDetectionRun

end RedDock.Retained
