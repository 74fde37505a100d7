import RedDock.ReportSnapshots
import RedDock.MarkdownSpans

/-!
# Report texts

The technical and the executive report of a snapshot, in Markdown.
-/
set_option autoImplicit false
namespace RedDock.Reporting
open Text
open Inventory (Asset Service)
open MarkdownSpans (md collapse)
open Retained

/-! ### Lines -/

/-- `_md_code` -/
def md_code : Option Text → Text
  | none => "—".toList
  | some value => (collapse value).map fun c => if c = '`' then '\'' else c

/-- A line of constant texts and values. -/
def line (parts : List Text) : Text := parts.flatten

/-- `"\n".join(lines).rstrip() + "\n"` -/
def page (lines : List Text) : Text := (join ['\n'] lines).rdropWhile isSpace ++ ['\n']

def shown_id (value : Option Nat) : Option Text := value.map dec

/-- `- label: number` -/
def counted (label : String) (n : Nat) : Text := line ["- ".toList, label.toList, ": ".toList, dec n]

def cell (value : Text) : Text := md (some value)

/-! ### Coverage -/

def coverage_label : Coverage.State → Text
  | .checked => "Checked".toList
  | .collected => "Detection needed".toList
  | .not_checked => "Not checked".toList

/-- `_coverage_markdown` -/
def coverage_markdown (coverage : Coverage.AssessmentCoverage) : List Text :=
  [[], "## Assessment coverage".toList, [], sentence ["| Check | Status | Observations ", "| Reviewed observations |"],
    "| --- | --- | --- | --- |".toList] ++
  (coverage.checks.map fun check =>
    line ["| ".toList, cell check.title, " | ".toList, coverage_label check.status, " | ".toList, dec check.observation_count, " | ".toList,
      dec check.reviewed_observation_count, " |".toList]) ++
  [[], line ["Not tested by this release: ".toList, join ", ".toList coverage.unsupported, ".".toList], [],
    sentence ["Coverage describes retained observations, ", "not every allowed target or ", "vulnerability. Checked does not mean secure."]]

/-! ### The technical report -/

def scope_markdown (scope : List ScopeEntry) : List Text :=
  if scope = [] then ["No scope entries were retained in this Dockyard.".toList]
  else ["| Rule | Kind | Value | Note |".toList, "| --- | --- | --- | --- |".toList] ++ scope.map fun row =>
    line ["| ".toList, cell row.rule, " | ".toList, cell row.kind, " | ".toList, cell row.value, " | ".toList, md row.note, " |".toList]

def inventory_markdown (counts : Counts) : List Text := [
  [], "## Inventory summary".toList, [], counted "Assets" counts.assets, counted "Services" counts.services,
  counted "Observations" counts.observations, counted "Findings" counts.findings, counted "Validation requests" counts.validations,
  counted "Lab authorizations" counts.lab_authorizations, counted "Lab policy events" counts.lab_audit_events,
  counted "Verified evidence files" counts.evidence_files, [], "## Assets and services".toList, []]

def named (value : Option Text) : List Text := value.toList.filter fun t => !t.isEmpty

def service_line (service : Service) : Text :=
  let label := (named service.service_name).headD "unidentified".toList
  let product := join " ".toList (named service.product ++ named service.version)
  line ["- `".toList, md_code (some service.transport), "/".toList, dec service.port, "` — ".toList, cell label,
    if product = [] then [] else "; target reported ".toList ++ cell product]

def asset_markdown (services : List (Nat × List Service)) (asset : Asset) : List Text :=
  [line ["### Asset #".toList, dec asset.id, " — ".toList, cell asset.display_name], [],
    line ["Type: `".toList, md_code (some asset.asset_type), "`  ".toList],
    line ["Identity: `".toList, md_code (some asset.identity), "`  ".toList],
    line ["First seen: `".toList, md_code (some (iso asset.first_seen)), "`  ".toList],
    line ["Last seen: `".toList, md_code (some (iso asset.last_seen)), "`".toList], []] ++
  (rows_of services asset.id).map service_line ++
  (if rows_of services asset.id = [] then ["- No retained services.".toList] else []) ++ [[]]

def evidence_line (item : CitedEvidence) : Text :=
  line ["- Observation #".toList, dec item.observation_id, ": `".toList, item.sha256, "` — ".toList, cell item.summary]

def validation_line (row : ValidationRun) : Text :=
  line ["- Validation #".toList, dec row.id, ": `".toList, md_code (some (validation_status row.status)), "` / `".toList,
    md_code (row.outcome.map validation_outcome), "` — ".toList, md row.summary]

def finding_markdown (row : FindingRow) : List Text :=
  [line ["### Finding #".toList, dec row.finding.id, " — ".toList, cell row.finding.title], [],
    line ["- Rule: `".toList, md_code (some row.finding.detector), "/".toList, md_code (some row.finding.rule_id), "`".toList],
    line ["- Status: `".toList, md_code (some row.finding.status), "`".toList],
    line ["- Severity: `".toList, md_code (some row.finding.severity), "`".toList],
    line ["- Confidence: `".toList, md_code (some row.finding.confidence), "`".toList],
    line ["- Subject: asset `".toList, md_code (shown_id row.finding.asset_id), "`, service `".toList,
      md_code (shown_id row.finding.service_id), "`".toList], [],
    cell row.finding.description, [], line ["Remediation: ".toList, md row.finding.remediation], [], "Evidence:".toList] ++
  row.evidence.map evidence_line ++ row.validations.map validation_line ++ [[]]

def authorization_line (row : LabAuthorization) : Text :=
  line ["| ".toList, dec row.id, " | ".toList, cell row.capability, " | ".toList, cell row.status, " | ".toList, cell (iso row.created_at),
    " | ".toList, cell (iso row.expires_at), " | ".toList, md (iso_of row.revoked_at), " | ".toList, cell row.note, " |".toList]

def audit_line (event : LabAuditEvent) : Text :=
  line ["| ".toList, dec event.id, " | ".toList, cell (iso event.created_at), " | ".toList, cell event.action, " | ".toList,
    cell event.decision, " | ".toList, cell event.capability, " | ".toList, md (shown_id event.authorization_id), " | ".toList,
    md (shown_id event.discovery_run_id), " | ".toList, cell event.reason, " |".toList]

def lab_markdown (lab : Lab) : List Text :=
  ["## Lab authorization and policy audit".toList, []] ++
  (if lab.authorizations = [] then ["No lab authorizations were retained.".toList, []]
    else ["### Authorizations".toList, [], "| ID | Capability | Status | Created | Expires | Revoked | Note |".toList,
      "| --- | --- | --- | --- | --- | --- | --- |".toList] ++ lab.authorizations.map authorization_line ++ [[]]) ++
  (if lab.audit_events = [] then ["No lab policy decisions were retained.".toList, []]
    else ["### Policy ledger".toList, [], "| Event | Time | Action | Decision | Capability | Authorization | Run | Reason |".toList,
      "| --- | --- | --- | --- | --- | --- | --- | --- |".toList] ++ lab.audit_events.map audit_line ++ [[]])

/-- A column in an f-string: `None` where it is absent. -/
def printed (value : Option Text) : Text := value.getD "None".toList

def advice_markdown (correlation : Option CorrelationRun) (intelligence : Option IntelligenceRun) : List Text :=
  ["## Correlation and non-authoritative intelligence".toList, []] ++
  (match correlation with
    | none => ["- No completed correlation snapshot.".toList]
    | some run => [line ["- Latest completed correlation: `".toList, printed run.result_sha256, "`".toList]]) ++
  (match intelligence with
    | none => ["- No completed intelligence advice.".toList]
    | some run => ["- Latest completed intelligence is non-authoritative advice only.".toList,
      line ["- Provider: `".toList, md_code (some run.provider), "` / `".toList, md_code (some run.model), "`".toList],
      line ["- Reviewed packet SHA-256: `".toList, run.input_sha256, "`".toList],
      line ["- Advice SHA-256: `".toList, printed run.result_sha256, "`".toList],
      line ["- Approval note: ".toList, md run.approval_note]])

def file_line (artifact : VerifiedArtifact) : Text :=
  line ["- `".toList, artifact.sha256, "`  `".toList, md_code (some artifact.reference.archive_path), "` (".toList,
    dec artifact.payload.length, " bytes)".toList]

def limitation_lines : List Text := LIMITATIONS.map fun item => "- ".toList ++ cell item

/-- `_technical_markdown` -/
def technical_markdown (snapshot : Snapshot) : Text :=
  page (
    [line ["# RedDock technical report: ".toList, cell snapshot.dockyard.name], [],
      line ["Report schema: `".toList, REPORT_SCHEMA, "`  ".toList], line ["Generator: `RedDock ".toList, VERSION, "`  ".toList],
      line ["Basis: ".toList, cell BASIS], [], "## Scope".toList, []] ++
    scope_markdown snapshot.scope ++ coverage_markdown snapshot.coverage ++ inventory_markdown snapshot.counts ++
    snapshot.assets.flatMap (asset_markdown (snapshot.services.foldl (fun services service => append_to services service.asset_id service) [])) ++
    ["## Findings".toList, []] ++
    (if snapshot.findings = [] then ["No detector findings were retained.".toList, []] else []) ++
    snapshot.findings.flatMap finding_markdown ++ lab_markdown snapshot.lab ++ advice_markdown snapshot.correlation snapshot.intelligence ++
    [[], "## Evidence manifest".toList, []] ++ snapshot.evidence_manifest.files.map file_line ++
    [[], "## Limitations".toList, []] ++ limitation_lines)

/-! ### The executive report -/

def tally_of (tallies : List (Text × Nat)) (name : String) : Nat := (tallies.lookup name.toList).getD 0

/-- The rechecks of all findings that completed. -/
def validated (snapshot : Snapshot) : Nat :=
  (snapshot.findings.map fun row => (row.validations.filter fun validation => validation.status = .completed).length).sum

/-- `_executive_markdown` -/
def executive_markdown (snapshot : Snapshot) : Text :=
  let counts := snapshot.counts
  let severity := tally_of counts.findings_by_severity
  let status := tally_of counts.findings_by_status
  page (
    [line ["# RedDock executive report: ".toList, cell snapshot.dockyard.name], [], "## Assessment snapshot".toList, [],
      line ["RedDock retained ".toList, dec counts.assets, " assets, ".toList, dec counts.services, " services, and ".toList,
        dec counts.observations, " observations in this authorized Dockyard. ".toList, "Detectors produced ".toList, dec counts.findings,
        " evidence-linked findings; ".toList, dec (status "open"), " are currently open.".toList], [],
      "## Finding posture".toList, [], counted "Critical" (severity "critical"), counted "High" (severity "high"),
      counted "Medium" (severity "medium"), counted "Low" (severity "low"), counted "Informational" (severity "informational"),
      counted "Accepted" (status "accepted"), counted "Resolved" (status "resolved"), counted "Suppressed" (status "suppressed"),
      counted "Completed validation rechecks" (validated snapshot),
      line ["- Lab policy decisions: ".toList, dec counts.lab_audit_events, " (".toList, dec counts.lab_allowed, " allowed, ".toList,
        dec counts.lab_denied, " denied)".toList], [],
      "## Evidence assurance".toList, [],
      line ["This snapshot includes ".toList, dec counts.evidence_files, " retained artifacts (".toList, dec counts.evidence_bytes,
        sentence [" bytes). Every included artifact was re-read and ", "matched to its stored SHA-256 ", "before the DockPack was created."]], [],
      "## Interpretation".toList, [],
      sentence ["Findings are detector conclusions grounded in ", "retained observations. They do not ",
        "state that RedDock exploited a target. ", "Severity describes potential importance; ",
        "confidence describes evidentiary certainty. ", "RedDock does not calculate an ", "aggregate risk score."], [],
      "## Recommended handling".toList, [],
      sentence ["Review open findings alongside their ", "technical evidence and validation outcomes. ",
        "Track accepted, resolved, and suppressed items ", "as part of the audit trail rather ", "than removing them from the record."], [],
      "## Limitations".toList, []] ++
    limitation_lines ++ coverage_markdown snapshot.coverage)

end RedDock.Reporting
