import RedDock.Artifacts
import RedDock.JsonText

/-!
# Report snapshots

What a report says of a Dockyard: the rows of its snapshot, the evidence
manifest, and the documents of both.
-/
set_option autoImplicit false
namespace RedDock.Reporting
open Text
open Detection (Json)
open Inventory (Asset Service)
open ServiceRules (json_of)
open Retained

/-! ### Documents -/

/-- A member of a `dict`. -/
def field (name : String) (value : Json) : Text × Json := (name.toList, value)

def json_id (value : Option Nat) : Json := (value.map fun n => Json.int n).getD .null

def json_number (n : Nat) : Json := .int n

def padded (width n : Nat) : Text := List.replicate (width - (dec n).length) '0' ++ dec n

/-- The year, the month and the day of a number of days since 1970. -/
def civil (days : Nat) : Nat × Nat × Nat :=
  -- counted from 0000-03-01, so that a leap day ends its year
  let era := (days + 719468) / 146097
  let day := (days + 719468) % 146097
  let year := (day - day / 1460 + day / 36524 - day / 146096) / 365
  let of_year := day - (365 * year + year / 4 - year / 100)
  let month := (5 * of_year + 2) / 153
  (era * 400 + year + (if month < 10 then 0 else 1), if month < 10 then month + 3 else month - 9, of_year - (153 * month + 2) / 5 + 1)

/-- `_iso` -/
def iso (moment : Nat) : Text :=
  let seconds := moment / 1000000
  let date := civil (seconds / 86400)
  let time := seconds % 86400
  padded 4 date.1 ++ '-' :: padded 2 date.2.1 ++ '-' :: padded 2 date.2.2 ++
    'T' :: padded 2 (time / 3600) ++ ':' :: padded 2 (time / 60 % 60) ++ ':' :: padded 2 (time % 60) ++
      (if moment % 1000000 = 0 then [] else '.' :: padded 6 (moment % 1000000)) ++ ['Z']

example : iso 951782399000001 = "2000-02-28T23:59:59.000001Z".toList := by decide +kernel

def iso_of (moment : Option Nat) : Option Text := moment.map iso

/-! ### Columns -/

def coverage_state : Coverage.State → Text
  | .not_checked => "not_checked".toList
  | .checked => "checked".toList
  | .collected => "collected".toList

def detection_status : Coverage.DetectionRunStatus → Text
  | .pending => "pending".toList
  | .running => "running".toList
  | .completed => "completed".toList
  | .incomplete => "partial".toList
  | .failed => "failed".toList

def validation_status : Approvals.Status → Text
  | .pending_approval => "pending_approval".toList
  | .running => "running".toList
  | .completed => "completed".toList
  | .denied => "denied".toList
  | .failed => "failed".toList

def validation_outcome : Validation.Outcome → Text
  | .confirmed => "confirmed".toList
  | .not_reproduced => "not_reproduced".toList
  | .indeterminate => "indeterminate".toList

def guard_decision : Decision → Text
  | .allowed => "allowed".toList
  | .denied_policy => "denied_policy".toList
  | .denied_out_of_scope => "denied_out_of_scope".toList
  | .denied_excluded => "denied_excluded".toList
  | .invalid_target => "invalid_target".toList
  | .unresolved => "unresolved".toList

/-! ### Rows of the snapshot -/

/-- One link of a finding to its evidence. -/
structure CitedEvidence where
  observation_id : Nat
  discovery_run_id : Option Nat
  detection_run_id : Option Nat
  summary : Text
  path : Text
  sha256 : Text

structure FindingRow where
  finding : Finding
  evidence : List CitedEvidence
  validations : List ValidationRun

structure Lab where
  authorizations : List LabAuthorization
  audit_events : List LabAuditEvent

structure Counts where
  assets : Nat
  services : Nat
  observations : Nat
  findings : Nat
  findings_by_severity : List (Text × Nat)
  findings_by_status : List (Text × Nat)
  validations : Nat
  lab_authorizations : Nat
  lab_audit_events : Nat
  lab_allowed : Nat
  lab_denied : Nat
  evidence_files : Nat
  evidence_bytes : Nat

/-- What `_enrich_manifest` adds to the manifest. -/
structure Enrichment where
  dockyard_id : Nat
  scope_sha256 : Text
  cited_run_ids : List (Text × List Nat)
  findings : List FindingRow

structure Manifest where
  files : List VerifiedArtifact
  enrichment : Option Enrichment := none

structure Snapshot where
  dockyard : Dockyard
  scope : List ScopeEntry
  counts : Counts
  coverage : Coverage.AssessmentCoverage
  assets : List Asset
  services : List Service
  findings : List FindingRow
  correlation : Option CorrelationRun
  intelligence : Option IntelligenceRun
  lab : Lab
  evidence_manifest : Manifest

def Manifest.total_bytes (manifest : Manifest) : Nat := (manifest.files.map fun artifact => artifact.payload.length).sum

/-! ### Their documents -/

def REPORT_SCHEMA : Text := "reddock.reporting/3".toList
def MANIFEST_SCHEMA : Text := "reddock.evidence-manifest/1".toList
def BASIS : Text := "retained RedDock state and SHA-256-verified".toList ++ " evidence only".toList
def VERSION : Text := "0.8.3".toList

def GENERATOR : Json := .object [field "name" (.str "RedDock".toList), field "version" (.str VERSION)]

/-- A text of several pieces. -/
def sentence (pieces : List String) : Text := pieces.flatMap String.toList

def LIMITATIONS : List Text := [
  sentence ["This report describes retained observations", " and detector conclusions; it is not ", "proof of exploitability."],
  sentence ["Severity and confidence are separate. ", "RedDock computes no aggregate risk score ", "or CVSS value."],
  sentence ["Resolved, accepted, and suppressed findings", " remain in the snapshot for auditability."],
  sentence ["Model output, when present, is advice only", " and cannot modify RedDock state."]]

def artifact_document (artifact : VerifiedArtifact) : Json :=
  .object [field "source" (.str artifact.reference.source.str), field "run_id" (json_number artifact.reference.run_id),
    field "source_path" (.str artifact.reference.source_path), field "archive_path" (.str artifact.reference.archive_path),
    field "media_type" (.str artifact.reference.media_type), field "bytes" (json_number artifact.payload.length),
    field "sha256" (.str artifact.sha256), field "truncated" (.bool artifact.reference.truncated)]

/-- The claim of a finding in the manifest. -/
def claim_document (row : FindingRow) : Json :=
  .object [field "id" (json_number row.finding.id), field "fingerprint" (.str row.finding.fingerprint),
    field "detector" (.str row.finding.detector), field "rule_id" (.str row.finding.rule_id), field "status" (.str row.finding.status),
    field "severity" (.str row.finding.severity), field "confidence" (.str row.finding.confidence),
    field "evidence" (.list (row.evidence.map fun item =>
      .object [field "observation_id" (json_number item.observation_id), field "discovery_run_id" (json_id item.discovery_run_id),
        field "detection_run_id" (json_id item.detection_run_id), field "sha256" (.str item.sha256)]))]

def Enrichment.members (enrichment : Enrichment) : List (Text × Json) := [
  field "dockyard_id" (json_number enrichment.dockyard_id), field "generator" GENERATOR,
  field "scope_sha256" (.str enrichment.scope_sha256),
  field "cited_run_ids" (.object (enrichment.cited_run_ids.map fun ids => (ids.1, .list (ids.2.map json_number)))),
  field "findings" (.list (enrichment.findings.map claim_document)), field "skipped_findings" (.list [])]

def Manifest.document (manifest : Manifest) : Json :=
  .object ([field "schema" (.str MANIFEST_SCHEMA), field "algorithm" (.str "sha256".toList),
    field "files" (.list (manifest.files.map artifact_document)), field "file_count" (json_number manifest.files.length),
    field "total_bytes" (json_number manifest.total_bytes)] ++ (manifest.enrichment.map Enrichment.members).getD [])

def scope_document (row : ScopeEntry) : Json :=
  .object [field "rule" (.str row.rule), field "kind" (.str row.kind), field "value" (.str row.value), field "note" (json_of row.note)]

def tallies_document (tallies : List (Text × Nat)) : Json := .object (tallies.map fun entry => (entry.1, json_number entry.2))

def Counts.document (counts : Counts) : Json :=
  .object [field "assets" (json_number counts.assets), field "services" (json_number counts.services),
    field "observations" (json_number counts.observations), field "findings" (json_number counts.findings),
    field "findings_by_severity" (tallies_document counts.findings_by_severity),
    field "findings_by_status" (tallies_document counts.findings_by_status), field "validations" (json_number counts.validations),
    field "lab_authorizations" (json_number counts.lab_authorizations),
    field "lab_audit_events" (json_number counts.lab_audit_events),
    field "lab_decisions" (.object [field "allowed" (json_number counts.lab_allowed), field "denied" (json_number counts.lab_denied)]),
    field "evidence_files" (json_number counts.evidence_files), field "evidence_bytes" (json_number counts.evidence_bytes)]

def coverage_document (coverage : Coverage.AssessmentCoverage) : Json :=
  .object [field "checks" (.list (coverage.checks.map fun check =>
      .object [field "id" (.str check.id), field "title" (.str check.title), field "status" (.str (coverage_state check.status)),
        field "observation_count" (json_number check.observation_count),
        field "reviewed_observation_count" (json_number check.reviewed_observation_count)])),
    field "latest_detection_run_id" (json_id coverage.latest_detection_run_id),
    field "latest_detection_status" (json_of (coverage.latest_detection_status.map detection_status)),
    field "unsupported" (.list (coverage.unsupported.map .str)), field "limitation" (.str coverage.limitation)]

def asset_document (row : Asset) : Json :=
  .object [field "id" (json_number row.id), field "type" (.str row.asset_type), field "identity" (.str row.identity),
    field "display_name" (.str row.display_name), field "ip_address" (json_of row.ip_address), field "hostname" (json_of row.hostname),
    field "first_seen" (.str (iso row.first_seen)), field "last_seen" (.str (iso row.last_seen))]

def service_document (row : Service) : Json :=
  .object [field "id" (json_number row.id), field "asset_id" (json_number row.asset_id), field "transport" (.str row.transport),
    field "port" (json_number row.port), field "state" (.str row.state), field "service_name" (json_of row.service_name),
    field "product" (json_of row.product), field "version" (json_of row.version), field "first_seen" (.str (iso row.first_seen)),
    field "last_seen" (.str (iso row.last_seen))]

def evidence_document (item : CitedEvidence) : Json :=
  .object [field "observation_id" (json_number item.observation_id), field "discovery_run_id" (json_id item.discovery_run_id),
    field "detection_run_id" (json_id item.detection_run_id), field "summary" (.str item.summary), field "path" (.str item.path),
    field "sha256" (.str item.sha256)]

def validation_document (row : ValidationRun) : Json :=
  .object [field "id" (json_number row.id), field "status" (.str (validation_status row.status)),
    field "outcome" (json_of (row.outcome.map validation_outcome)), field "confidence" (json_of row.confidence),
    field "summary" (json_of row.summary), field "decision" (json_of (row.decision.map guard_decision)),
    field "result_sha256" (json_of row.result_sha256), field "manifest_sha256" (json_of row.manifest_sha256),
    field "completed_at" (json_of (iso_of row.completed_at))]

def finding_document (row : FindingRow) : Json :=
  let finding := row.finding
  .object [field "id" (json_number finding.id), field "fingerprint" (.str finding.fingerprint), field "detector" (.str finding.detector),
    field "detector_version" (.str finding.detector_version), field "rule_id" (.str finding.rule_id), field "title" (.str finding.title),
    field "description" (.str finding.description), field "category" (.str finding.category), field "severity" (.str finding.severity),
    field "confidence" (.str finding.confidence), field "status" (.str finding.status), field "status_note" (json_of finding.status_note),
    field "asset_id" (json_id finding.asset_id), field "service_id" (json_id finding.service_id),
    field "remediation" (json_of finding.remediation), field "cve_references" (.list (finding.cve_references.getD [])),
    field "first_seen" (.str (iso finding.first_seen)), field "last_seen" (.str (iso finding.last_seen)),
    field "resolved_at" (json_of (iso_of finding.resolved_at)), field "evidence" (.list (row.evidence.map evidence_document)),
    field "validations" (.list (row.validations.map validation_document))]

def texts (values : List Text) : Json := .list (values.map .str)

/-- What `_graph_document` of correlation has stored. -/
def graph_json (graph : Graph) : Json :=
  .object [field "nodes" (.list (graph.nodes.map fun node =>
      .object [field "id" (.str node.id), field "kind" (.str node.kind), field "label" (.str node.label),
        field "subtitle" (.str node.subtitle), field "status" (json_of node.status), field "severity" (json_of node.severity)])),
    field "edges" (.list (graph.edges.map fun edge =>
      .object [field "id" (.str edge.id), field "source" (.str edge.source), field "target" (.str edge.target), field "kind" (.str edge.kind),
        field "label" (.str edge.label), field "confidence" (.str edge.confidence), field "basis" (.str edge.basis),
        field "evidence_sha256" (texts edge.evidence_sha256)])),
    field "mappings" (.list (graph.mappings.map fun row =>
      .object [field "id" (json_number row.id), field "finding_id" (json_number row.finding_id), field "framework" (.str row.framework),
        field "external_id" (.str row.external_id), field "title" (.str row.title), field "basis" (.str row.basis),
        field "mapping_version" (.str row.mapping_version), field "evidence_sha256" (.str row.evidence_sha256)]))]

def correlation_snapshot (run : CorrelationRun) : Json :=
  .object [field "run_id" (json_number run.id), field "result_sha256" (json_of run.result_sha256),
    field "graph" ((run.graph.map graph_json).getD .null), field "completed_at" (json_of (iso_of run.completed_at))]

/-- `advice.model_dump()` -/
def advice_json (advice : Intelligence.IntelligenceAdvice) : Json :=
  .object [field "summary" (.str advice.summary),
    field "priorities" (.list (advice.priorities.map fun priority =>
      .object [field "finding_id" (.int priority.finding_id), field "priority" (.str priority.priority),
        field "rationale" (.str priority.rationale), field "remediation_steps" (texts priority.remediation_steps),
        field "evidence_sha256" (texts priority.evidence_sha256)])),
    field "limitations" (texts advice.limitations)]

def intelligence_snapshot (run : IntelligenceRun) : Json :=
  .object [field "run_id" (json_number run.id), field "provider" (.str run.provider), field "model" (.str run.model),
    field "destination" (.str run.destination), field "sends_data_external" (.bool run.sends_data_external),
    field "prompt_version" (.str run.prompt_version), field "approval_note" (json_of run.approval_note),
    field "input_sha256" (.str run.input_sha256), field "result_sha256" (json_of run.result_sha256),
    field "output" ((run.output.map advice_json).getD .null), field "completed_at" (json_of (iso_of run.completed_at))]

def Lab.document (lab : Lab) : Json :=
  .object [field "authorizations" (.list (lab.authorizations.map fun row =>
      .object [field "id" (json_number row.id), field "capability" (.str row.capability), field "status" (.str row.status),
        field "acknowledgement" (.str row.acknowledgement), field "note" (.str row.note), field "created_at" (.str (iso row.created_at)),
        field "expires_at" (.str (iso row.expires_at)), field "revoked_at" (json_of (iso_of row.revoked_at))])),
    field "audit_events" (.list (lab.audit_events.map fun row =>
      .object [field "id" (json_number row.id), field "capability" (.str row.capability), field "action" (.str row.action),
        field "decision" (.str row.decision), field "reason" (.str row.reason), field "authorization_id" (json_id row.authorization_id),
        field "discovery_run_id" (json_id row.discovery_run_id), field "created_at" (.str (iso row.created_at))]))]

def Snapshot.document (snapshot : Snapshot) : Json :=
  .object [field "schema" (.str REPORT_SCHEMA), field "generator" GENERATOR, field "basis" (.str BASIS),
    field "dockyard" (.object [field "id" (json_number snapshot.dockyard.id), field "name" (.str snapshot.dockyard.name),
      field "description" (json_of snapshot.dockyard.description), field "status" (.str snapshot.dockyard.status)]),
    field "scope" (.list (snapshot.scope.map scope_document)), field "counts" snapshot.counts.document,
    field "coverage" (coverage_document snapshot.coverage), field "assets" (.list (snapshot.assets.map asset_document)),
    field "services" (.list (snapshot.services.map service_document)), field "findings" (.list (snapshot.findings.map finding_document)),
    field "correlation" ((snapshot.correlation.map correlation_snapshot).getD .null),
    field "intelligence" ((snapshot.intelligence.map intelligence_snapshot).getD .null), field "lab" snapshot.lab.document,
    field "evidence_manifest" snapshot.evidence_manifest.document, field "limitations" (texts LIMITATIONS)]

/-! ### Limits -/

def max_report_assets : Nat := 2000
def max_report_services : Nat := 20000
def max_report_findings : Nat := 5000
def max_report_evidence_links : Nat := 20000
def max_report_lab_authorizations : Nat := 500
def max_report_lab_audit_events : Nat := 5000
def max_scope_entries : Nat := 64
def max_validation_runs_per_dockyard : Nat := 500

section
variable {Row : Type}

/-- A query with `.limit(limit + 1)`, and `_reject_oversized_collection`. -/
def collection (rows : List Row) (limit : Nat) (label : String) : Except Text (List Row) :=
  if limit < (rows.take (limit + 1)).length then
    .error (["The report exceeds the fixed ".toList, label.toList, "-count limit".toList].flatten)
  else .ok (rows.take (limit + 1))

/-- `result.setdefault(key, []).append(row)` -/
def append_to (result : List (Nat × List Row)) (key : Nat) (row : Row) : List (Nat × List Row) :=
  HttpHeaders.put key ((result.lookup key).getD [] ++ [row]) result

end

/-! ### The snapshot -/

/-- What the report has of a link and its record. -/
def cited (dockyard_id : Nat) (link : FindingEvidence) (record : Inventory.EvidenceRecord) : CitedEvidence where
  observation_id := link.observation_id
  discovery_run_id := link.discovery_run_id
  detection_run_id := link.detection_run_id
  summary := link.summary
  path := below (dec dockyard_id) (below (dec record.discovery_run_id) record.relative_path)
  sha256 := record.sha256

/-- The loop of `_finding_evidence`, from the row of an index on. -/
def cite_rows (dockyard_id : Nat) : (index : Nat) → List (FindingEvidence × Option Inventory.EvidenceRecord) →
    List (Nat × List CitedEvidence) → Except Text (List (Nat × List CitedEvidence))
  | _, [], result => .ok result
  | index, (link, record) :: rows, result =>
    if max_report_evidence_links < index then rejected "The report exceeds the fixed finding-evidence limit"
    else match record with
      | none => .error (["Finding #".toList, dec link.finding_id, " has an unavailable evidence record".toList].flatten)
      | some record => cite_rows dockyard_id (index + 1) rows (append_to result link.finding_id (cited dockyard_id link record))

/-- `_finding_evidence` -/
def cited_evidence (db : Database) (dockyard_id : Nat) : Except Text (List (Nat × List CitedEvidence)) :=
  cite_rows dockyard_id 1 ((finding_evidence db dockyard_id).take (max_report_evidence_links + 1)) []

/-- The loop of `_validation_rows`. -/
def validate_rows : (index : Nat) → List ValidationRun → List (Nat × List ValidationRun) → Except Text (List (Nat × List ValidationRun))
  | _, [], result => .ok result
  | index, row :: rows, result =>
    if max_validation_runs_per_dockyard < index then rejected "The report exceeds the fixed validation-row limit"
    else validate_rows (index + 1) rows (append_to result row.finding_id row)

/-- `_validation_rows` -/
def validation_rows (db : Database) (dockyard_id : Nat) : Except Text (List (Nat × List ValidationRun)) :=
  validate_rows 1 ((ordered (fun row : ValidationRun => toLex (row.finding_id, row.id))
    (db.validation_runs.filter fun row => row.dockyard_id = dockyard_id)).take (max_validation_runs_per_dockyard + 1)) []

/-- `_lab_snapshot` -/
def lab_snapshot (db : Database) (dockyard_id : Nat) : Except Text Lab := do
  let authorizations ← collection (lab_authorizations db dockyard_id) max_report_lab_authorizations "lab-authorization"
  let audit_events ← collection (lab_audit_events db dockyard_id) max_report_lab_audit_events "lab-audit-event"
  return { authorizations, audit_events }

def tally (tallies : List (Text × Nat)) (name : Text) : List (Text × Nat) := HttpHeaders.put name ((tallies.lookup name).getD 0 + 1) tallies

def SEVERITIES : List Text := ["critical".toList, "high".toList, "medium".toList, "low".toList, "informational".toList]
def STATUSES : List Text := ["open".toList, "accepted".toList, "resolved".toList, "suppressed".toList]

/-- The counts of a name among the names that are always listed. -/
def tallied (always names : List Text) : List (Text × Nat) := names.foldl tally (always.map fun name => (name, 0))

def ALLOWED : Text := "allowed".toList
def DENIED : Text := "denied".toList

def rows_of {Row : Type} (result : List (Nat × List Row)) (id : Nat) : List Row := (result.lookup id).getD []

/-- `_snapshot` -/
def snapshot (db : Database) (dockyard_id : Nat) (manifest : Manifest) : Except Text Snapshot :=
  match dockyard db dockyard_id with
  | none => rejected "Dockyard not found"
  | some dockyard => do
    let assets ← collection (assets db dockyard_id) max_report_assets "asset"
    let services ← collection (services db dockyard_id) max_report_services "service"
    let findings ← collection (findings db dockyard_id) max_report_findings "finding"
    let evidence ← cited_evidence db dockyard_id
    let validations ← validation_rows db dockyard_id
    let lab ← lab_snapshot db dockyard_id
    let scope ← collection (scope_entries db dockyard_id) max_scope_entries "scope-entry"
    return {
      dockyard, scope, assets, services, lab
      counts := {
        assets := assets.length
        services := services.length
        observations := (observations db dockyard_id).length
        findings := findings.length
        findings_by_severity := tallied SEVERITIES (findings.map Finding.severity)
        findings_by_status := tallied STATUSES (findings.map Finding.status)
        validations := (validations.map fun rows => rows.2.length).sum
        lab_authorizations := lab.authorizations.length
        lab_audit_events := lab.audit_events.length
        lab_allowed := (lab.audit_events.filter fun event => event.decision = ALLOWED).length
        lab_denied := (lab.audit_events.filter fun event => event.decision = DENIED).length
        evidence_files := manifest.files.length
        evidence_bytes := manifest.total_bytes }
      coverage := Coverage.assessment_coverage dockyard_id (coverage_tables db) (fun _ => coverage_tables db) fun _ => coverage_tables db
      findings := findings.map fun finding =>
        { finding, evidence := rows_of evidence finding.id, validations := rows_of validations finding.id }
      correlation := ((correlation_runs db dockyard_id).filter fun run => run.status = .completed).getLast?
      intelligence := ((intelligence_runs db dockyard_id).filter fun run => run.status = .completed).getLast?
      evidence_manifest := manifest }

/-! ### The manifest -/

/-- `_evidence_manifest` -/
def evidence_manifest (artifacts : List VerifiedArtifact) : Manifest := { files := artifacts }

/-- The claim of a finding, whose evidence has to be in the pack. -/
def claim (available : List Text) (row : FindingRow) : Except Text FindingRow :=
  if row.evidence = [] then .error (["Finding #".toList, dec row.finding.id, " has no retained evidence".toList].flatten)
  else if ∃ item ∈ row.evidence, item.sha256 ∉ available then
    .error (["Finding #".toList, dec row.finding.id, " cites evidence absent from the pack".toList].flatten)
  else .ok row

def run_ids (files : List VerifiedArtifact) : List (Text × List Nat) :=
  files.foldl (fun ids item =>
    HttpHeaders.put item.reference.source.str ((ids.lookup item.reference.source.str).getD [] ++ [item.reference.run_id]) ids) []

section
variable (library : Library)

/-- What `_enrich_manifest` makes of a snapshot. -/
def enrichment (snapshot : Snapshot) : Except Text Enrichment := do
  let claims ← snapshot.findings.mapM (claim (snapshot.evidence_manifest.files.map VerifiedArtifact.sha256))
  return {
    dockyard_id := snapshot.dockyard.id
    scope_sha256 := library.sha256 (JsonText.document (.object [field "scope" (.list (snapshot.scope.map scope_document))]))
    cited_run_ids := (ordered Prod.fst (run_ids snapshot.evidence_manifest.files)).map fun ids => (ids.1, ordered id ids.2.dedup)
    findings := claims }

/-- `_enrich_manifest`: the snapshot holds the manifest that it changes. -/
def enrich_manifest (snapshot : Snapshot) : Except Text Snapshot := do
  let enriched ← enrichment library snapshot
  return { snapshot with evidence_manifest := { snapshot.evidence_manifest with enrichment := some enriched } }

end
end RedDock.Reporting
