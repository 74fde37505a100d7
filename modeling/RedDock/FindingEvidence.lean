import RedDock.Findings
import RedDock.Publications
import RedDock.Registry
import RedDock.Snapshots

/-!
# The evidence of findings

The links from findings to the observations they were drawn from, the rows of
an installation over discovery and detection runs, and what a report reads of
them.
-/
set_option autoImplicit false
namespace RedDock.FindingEvidence
open Text DockGuard Inventory Transactions Publishing Findings
open Detection hiding Raised
open Discovery (Config)

/-! ### Links -/

/-- A link of a finding, which its fingerprint names. -/
structure Link where
  fingerprint : Text
  observation_id : Nat
  detection_run_id : Nat
  discovery_run_id : Nat
  evidence_record_id : Option Nat
  summary : Text

def NORMALIZED : Text := "normalized".toList

/-- `_normalized_record_id` -/
def normalized_record_id (records : List EvidenceRecord) (discovery_run_id : Nat) : Option Nat :=
  ((records.filter fun record => record.discovery_run_id = discovery_run_id && record.kind = NORMALIZED).map (·.id)).min?

section
variable (records : List EvidenceRecord) (observations : List Observation) (detection_run_id : Nat)

def new_link (fingerprint : Text) (observation : Observation) : Link where
  fingerprint := fingerprint
  observation_id := observation.id
  detection_run_id := detection_run_id
  discovery_run_id := observation.discovery_run_id
  evidence_record_id := normalized_record_id records observation.discovery_run_id
  summary := observation.summary.take 500

/-- The link of a finding to an observation. -/
def links_to (fingerprint : Text) (observation : Observation) (link : Link) : Bool :=
  link.fingerprint = fingerprint && link.observation_id = observation.id

/-- The row behind a cited id. -/
def row_of (key : Key) : Option Observation := key.int.bind fun id => observations.find? fun row => (row.id : Int) = id

/-- One cited observation; an id without a row is passed over. -/
def attach (fingerprint : Text) (links : List Link) (key : Key) : List Link :=
  match row_of observations key with
  | none => links
  | some observation =>
    if links.any (links_to fingerprint observation) then
      links.map fun link =>
        if links_to fingerprint observation link && link.evidence_record_id.isNone then
          { link with evidence_record_id := normalized_record_id records observation.discovery_run_id }
        else link
    else links ++ [new_link records detection_run_id fingerprint observation]

/-- `attach_evidence` -/
def attach_evidence (fingerprint : Text) (observation_ids : Object) (links : List Link) : Except Detection.Raised (List Link) := do
  return (← observation_ids.members).foldl (attach records observations detection_run_id fingerprint) links

variable (runtime : Runtime) (context : DetectionContext)

/-- The links of the findings of one detector. -/
def attach_findings (detector : Detector) : List Link → List DetectedFinding → Except Detection.Raised (List Link)
  | links, [] => .ok links
  | links, detected :: findings => do
    let fingerprint ← identity runtime detector.id detected context
    let links ← attach_evidence records observations detection_run_id fingerprint detected.evidence_observation_ids links
    attach_findings detector links findings

def attach_outcomes : List Link → List DetectorOutcome → Except Detection.Raised (List Link)
  | links, [] => .ok links
  | links, outcome :: outcomes =>
    match outcome.result with
    | .error _ => attach_outcomes links outcomes
    | .ok findings => do
      let links ← attach_findings records observations detection_run_id runtime context outcome.detector links findings
      attach_outcomes links outcomes

end

/-- What a detection run writes: its finding rows, and then their links, which
    are rows of another table. -/
def publish (runtime : Runtime) (run : DetectionRun) (records : List EvidenceRecord) (observations : List Observation)
    (rows : List Finding) (links : List Link) : Except Detection.Raised (List Finding × List Link) := do
  let (outcomes, rows) ← perform runtime run rows
  let links ← attach_outcomes records observations run.id runtime run.context links outcomes
  return (rows, links)

/-! ### An installation over time -/

/-- A detection run, and the rows it has read behind its snapshot. -/
structure Snapshot where
  dockyard_id : Nat
  context : DetectionContext
  observations : Option (List Observation) := none
  ended : Bool := false

structure Database where
  tables : Tables := {}
  findings : Nat → List Finding := fun _ => []
  links : Nat → List Link := fun _ => []
  snapshots : Nat → Option Snapshot := fun _ => none

def Database.record (db : Database) (run_id : Nat) (snapshot : Snapshot) : Database :=
  { db with snapshots := Function.update db.snapshots run_id (some snapshot) }

/-- The findings and the links of a Dockyard, written. -/
def Database.write (db : Database) (dockyard_id : Nat) (rows : List Finding) (links : List Link) : Database :=
  { db with
    findings := Function.update db.findings dockyard_id rows
    links := Function.update db.links dockyard_id links }

section
variable (db : Database) (run_id dockyard_id : Nat) (snapshot : Snapshot) (rows : List Finding) (links : List Link)

@[simp] theorem Database.record_tables : (db.record run_id snapshot).tables = db.tables := rfl
@[simp] theorem Database.record_links : (db.record run_id snapshot).links = db.links := rfl
@[simp] theorem Database.record_findings : (db.record run_id snapshot).findings = db.findings := rfl
theorem Database.record_self : (db.record run_id snapshot).snapshots run_id = some snapshot := Function.update_self ..
theorem Database.record_of_ne {other : Nat} (ne : other ≠ run_id) : (db.record run_id snapshot).snapshots other = db.snapshots other :=
  Function.update_of_ne ne ..

@[simp] theorem Database.write_tables : (db.write dockyard_id rows links).tables = db.tables := rfl
@[simp] theorem Database.write_snapshots : (db.write dockyard_id rows links).snapshots = db.snapshots := rfl
theorem Database.write_findings_self : (db.write dockyard_id rows links).findings dockyard_id = rows := Function.update_self ..
theorem Database.write_links_self : (db.write dockyard_id rows links).links dockyard_id = links := Function.update_self ..
theorem Database.write_findings_of_ne {other : Nat} (ne : other ≠ dockyard_id) :
    (db.write dockyard_id rows links).findings other = db.findings other := Function.update_of_ne ne ..
theorem Database.write_links_of_ne {other : Nat} (ne : other ≠ dockyard_id) :
    (db.write dockyard_id rows links).links other = db.links other := Function.update_of_ne ne ..

end

/-- The parts of discovery and detection runs that are seen at once, in any
    order, and the decisions of operators. -/
inductive Action (Row : Type)
  | discover (run : RunRow) (config : Config AdapterResult Row) (contact : Contact) (evidence : Evidence) (fails : Nat → Option Raised)
  | build (run_id dockyard_id generated_at : Nat) (lookup : Option (Text → Text → List CveReference))
  | read (run_id : Nat)
  | detect (run_id : Nat) (plugins : List Registry.Declarative) (resolved_at : Text → Nat) (accepts : DetectedFinding → Bool)
      (publishes : Bool)
  | decide (dockyard_id : Nat) (fingerprint : Text) (status : FindingStatus) (note : Option Text)

section
variable {Row : Type} (runtime : Runtime) (casing : ServiceRules.Casing) (digest : Registry.Scalar → Text)
  (limits : Snapshots.Limits)

/-- A run in a session of its own. -/
def discover (run : RunRow) (config : Config AdapterResult Row) (contact : Contact) (evidence : Evidence)
    (fails : Nat → Option Raised) (tables : Tables) : Tables :=
  let state : State := { tables := tables, run := run }
  (execute fails evidence config contact { committed := state, working := state }).committed.tables

/-- `_observation_rows` -/
def observation_rows (snapshot : Snapshot) (tables : Tables) : List Observation :=
  tables.observations.filter fun row =>
    row.dockyard_id = snapshot.dockyard_id && (row.id : Int) ∈ snapshot.context.observations.map ObservationView.id

def step (db : Database) : Action Row → Option Database
  | .discover run config contact evidence fails => some { db with tables := discover run config contact evidence fails db.tables }
  | .build run_id dockyard_id generated_at lookup =>
    match db.snapshots run_id, Snapshots.build_context limits db.tables dockyard_id generated_at lookup with
    | some _, _ => none
    | none, .error _ => some db
    | none, .ok context => some (db.record run_id { dockyard_id := dockyard_id, context := context })
  | .read run_id =>
    match db.snapshots run_id with
    | none => none
    | some snapshot =>
      if snapshot.observations.isSome then none
      else some (db.record run_id { snapshot with observations := some (observation_rows snapshot db.tables) })
  | .detect run_id plugins resolved_at accepts publishes =>
    match db.snapshots run_id with
    | none => none
    | some snapshot =>
      match snapshot.observations with
      | none => none
      | some observations =>
        if snapshot.ended then none
        else
          let db := db.record run_id { snapshot with ended := true }
          let run : DetectionRun := {
            id := run_id
            detectors := Registry.available_detectors casing digest plugins
            context := snapshot.context
            resolved_at := resolved_at
            accepts := accepts
            publishes := publishes }
          match publish runtime run db.tables.evidence_records observations (db.findings snapshot.dockyard_id)
              (db.links snapshot.dockyard_id) with
          | .error _ => some db
          | .ok (rows, links) => some (db.write snapshot.dockyard_id rows links)
  | .decide dockyard_id fingerprint status note =>
    if status ∉ OPERATOR_STATUSES then none
    else some (db.write dockyard_id (set_status fingerprint status note (db.findings dockyard_id)) (db.links dockyard_id))

end

/-! ### A report -/

/-- Why a report is refused for the evidence of a finding. -/
inductive ReportRejected
  | exceeds_limit
  | unavailable_record (fingerprint : Text)
  | no_evidence (fingerprint : Text)
  deriving DecidableEq

/-- The loop of `_finding_evidence`, from the `index`th row on. -/
def evidence_rows (records : List EvidenceRecord) (limit : Nat) : Nat → List Link → Except ReportRejected (List (Link × EvidenceRecord))
  | _, [] => .ok []
  | index, link :: links =>
    if limit < index then .error .exceeds_limit
    else match link.evidence_record_id.bind fun id => records.find? fun record => record.id = id with
      | none => .error (.unavailable_record link.fingerprint)
      | some record => do
        let rows ← evidence_rows records limit (index + 1) links
        return (link, record) :: rows

/-- `_finding_evidence`: the links of a Dockyard's findings, with their records. -/
def finding_evidence (limit : Nat) (db : Database) (dockyard_id : Nat) : Except ReportRejected (List (Link × EvidenceRecord)) :=
  evidence_rows db.tables.evidence_records limit 1
    (((db.links dockyard_id).filter fun link => link.fingerprint ∈ (db.findings dockyard_id).map (·.fingerprint)).take (limit + 1))

/-- The claims of `_enrich_manifest`: no finding is without evidence. -/
def evidence_claims (evidence : List (Link × EvidenceRecord)) : List Finding → Except ReportRejected Unit
  | [] => .ok ()
  | finding :: findings =>
    if evidence.any fun row => row.1.fingerprint = finding.fingerprint then evidence_claims evidence findings
    else .error (.no_evidence finding.fingerprint)

/-- What a report makes of the evidence of a Dockyard. -/
def report_evidence (limit : Nat) (db : Database) (dockyard_id : Nat) : Except ReportRejected Unit := do
  let evidence ← finding_evidence limit db dockyard_id
  evidence_claims evidence (db.findings dockyard_id)

end RedDock.FindingEvidence
