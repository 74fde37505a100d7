import RedDock.Discovery
import RedDock.Detection

/-!
# Assessment coverage

What `assessment_coverage` reads of discovery and detection, and the system it
reads: discovery publications and detection runs of any number of Dockyards on a
database whose queries see what is committed.
-/
set_option autoImplicit false
namespace RedDock.Coverage
open Text
open Detection (Json)
open Discovery (RunStatus ACTIVE_STATUSES)

/-! ### Rows -/

inductive DetectionRunStatus
  | pending
  | running
  | completed
  /-- `PARTIAL` -/
  | incomplete
  | failed
  deriving DecidableEq, Repr

def ACTIVE_DETECTION : List DetectionRunStatus := [.pending, .running]

structure DiscoveryRun where
  dockyard_id : Nat
  status : RunStatus
  completed_at : Option Nat := none

structure Observation where
  id : Nat
  dockyard_id : Nat
  discovery_run_id : Nat
  observation_type : Text
  created_at : Nat
  deriving DecidableEq

structure EvidenceRecord where
  dockyard_id : Nat
  discovery_run_id : Nat
  kind : Text
  truncated : Bool := false

structure DetectionRun where
  id : Nat
  dockyard_id : Nat
  status : DetectionRunStatus
  started_at : Option Nat := none
  detectors : Option (List Json) := none
  result_sha256 : Option Text := none
  metadata_sha256 : Option Text := none

/-- The committed rows; discovery runs by their ids. -/
structure Tables where
  discoveries : Nat → Option DiscoveryRun
  observations : List Observation := []
  evidence : List EvidenceRecord := []
  detections : List DetectionRun := []

/-! ### Coverage -/

structure Check where
  id : Text
  title : Text
  observation_types : List Text
  detector : Text

def CHECKS : List Check := [
  { id := "http_headers".toList, title := "HTTP security headers".toList, observation_types := ["http_response".toList],
    detector := "http.security_headers".toList },
  { id := "tls".toList, title := "TLS certificate verification".toList, observation_types := ["tls_session".toList],
    detector := "tls.certificates".toList },
  { id := "services".toList, title := "Identified service rules".toList,
    observation_types := ["service_identified".toList, "service inventory".toList], detector := "service.rules".toList }]

def NOT_SUPPORTED : List Text := [
  "UDP discovery".toList, "Credentialed checks".toList, "Exploitability tests".toList,
  "HTTP response bodies".toList, "NSE scripts".toList, "Brute force".toList, "Payloads and evasion".toList]

def LIMITATION : Text :=
  "Coverage describes retained observations in this Dockyard, not every allowed ".toList ++
    "target or vulnerability. Checked does not mean secure. Live coverage uses stored ".toList ++
    "evidence links; report generation re-verifies the supporting files.".toList

inductive State
  | not_checked
  | checked
  | collected
  deriving DecidableEq

structure CheckCoverage where
  id : Text
  title : Text
  status : State
  observation_count : Nat
  reviewed_observation_count : Nat

structure AssessmentCoverage where
  checks : List CheckCoverage
  latest_detection_run_id : Option Nat
  latest_detection_status : Option DetectionRunStatus
  unsupported : List Text
  limitation : Text

/-- `DiscoveryRun.id.in_(sources)` -/
def in_sources (tables : Tables) (dockyard_id run_id : Nat) : Bool :=
  tables.evidence.any fun record => record.dockyard_id = dockyard_id && record.kind = "normalized".toList && !record.truncated &&
    record.discovery_run_id = run_id

/-- The condition of `query`, on an observation joined with its run. -/
def counted (tables : Tables) (dockyard_id : Nat) (check : Check) (observation : Observation) : Bool :=
  observation.dockyard_id = dockyard_id && observation.observation_type ∈ check.observation_types &&
    (tables.discoveries observation.discovery_run_id).any fun run =>
      run.dockyard_id = dockyard_id && run.status = .completed && in_sources tables dockyard_id observation.discovery_run_id

/-- What is added to it for the observations that were reviewed. -/
def before_start (tables : Tables) (started_at : Nat) (observation : Observation) : Bool :=
  observation.created_at ≤ started_at &&
    (tables.discoveries observation.discovery_run_id).any fun run => run.completed_at.any (· ≤ started_at)

def counted_observations (tables : Tables) (dockyard_id : Nat) (check : Check) : List Observation :=
  tables.observations.filter (counted tables dockyard_id check)

def reviewed_observations (tables : Tables) (dockyard_id : Nat) (check : Check) (started_at : Nat) : List Observation :=
  (counted_observations tables dockyard_id check).filter (before_start tables started_at)

def latest_detection (tables : Tables) (dockyard_id : Nat) : Option DetectionRun :=
  ((tables.detections.filter fun run => run.dockyard_id = dockyard_id).insertionSort fun a b => b.id ≤ a.id).head?

/-- The id of a detector whose document says that it completed. -/
def completed_id : Json → Option Text
  | .object members =>
    match members.lookup "id".toList, members.lookup "status".toList with
    | some (.str id), some (.str status) => if status = "completed".toList then some id else none
    | _, _ => none
  | _ => none

def present (hash : Option Text) : Bool := hash.any fun t => !t.isEmpty

def successful (detection : Option DetectionRun) : List Text :=
  match detection with
  | none => []
  | some run => if present run.result_sha256 && present run.metadata_sha256 then (run.detectors.getD []).filterMap completed_id else []

/-- One round of the loop, whose two queries see the tables at two moments. -/
def check_coverage (dockyard_id : Nat) (detection : Option DetectionRun) (check : Check) (first second : Tables) : CheckCoverage :=
  let count := (counted_observations first dockyard_id check).length
  let reviewed :=
    if check.detector ∈ successful detection then
      match detection.bind DetectionRun.started_at with
      | none => 0
      | some started_at => (reviewed_observations second dockyard_id check started_at).length
    else 0
  { id := check.id
    title := check.title
    status := if count = 0 then .not_checked else if reviewed = count then .checked else .collected
    observation_count := count
    reviewed_observation_count := reviewed }

/-- `assessment_coverage`: the latest detection run is read from one state of the
    tables, and the two queries of a check from two. -/
def assessment_coverage (dockyard_id : Nat) (latest : Tables) (first second : Check → Tables) : AssessmentCoverage where
  checks := CHECKS.map fun check => check_coverage dockyard_id (latest_detection latest dockyard_id) check (first check) (second check)
  latest_detection_run_id := (latest_detection latest dockyard_id).map DetectionRun.id
  latest_detection_status := (latest_detection latest dockyard_id).map DetectionRun.status
  unsupported := NOT_SUPPORTED
  limitation := LIMITATION

/-! ### The system -/

/-- What a discovery run has written and stamped, and not committed. -/
structure Publication where
  completed_at : Nat
  observations : List (Nat × Text × Nat)
  evidence : List (Text × Bool)

/-- The committed rows, the transactions of the discovery runs that are about to
    publish, and the observations that each detection run has read. -/
structure World where
  tables : Tables
  publishing : Nat → Option Publication := fun _ => none
  snapshots : Nat → Option (List Nat) := fun _ => none

def initial : World := { tables := { discoveries := fun _ => none } }

inductive Action
  | request_discovery (id dockyard_id : Nat)
  /-- A commit that does not publish. -/
  | progress (id : Nat) (status : RunStatus) (completed_at : Option Nat)
  /-- The end of `_perform` of a discovery run, up to its commit. -/
  | stamp (id : Nat) (publication : Publication)
  | publish (id : Nat)
  | rollback (id : Nat)
  | request_detection (id dockyard_id : Nat)
  /-- `execute_run` of a detection run, and `build_context`. -/
  | start (id started_at : Nat)
  | read (id : Nat)
  | finish (id : Nat) (status : DetectionRunStatus) (detectors : List Json) (result_sha256 metadata_sha256 : Text)
  | fail (id : Nat)
  | restart (now : Nat)

def max_detection_observations : Nat := 20000

/-- The rows that a publication adds. -/
def published_observations (id dockyard_id : Nat) (publication : Publication) : List Observation :=
  publication.observations.map fun row =>
    { id := row.1, dockyard_id := dockyard_id, discovery_run_id := id, observation_type := row.2.1, created_at := row.2.2 }

def published_evidence (id dockyard_id : Nat) (publication : Publication) : List EvidenceRecord :=
  publication.evidence.map fun row => { dockyard_id := dockyard_id, discovery_run_id := id, kind := row.1, truncated := row.2 }

/-- A commit that makes a publication visible; the ids of its rows are new. -/
def publish (w : World) (id : Nat) (run : DiscoveryRun) (publication : Publication) : World where
  tables := { w.tables with
    discoveries := Function.update w.tables.discoveries id
      (some { run with status := .completed, completed_at := some publication.completed_at })
    observations := published_observations id run.dockyard_id publication ++ w.tables.observations
    evidence := published_evidence id run.dockyard_id publication ++ w.tables.evidence }
  publishing := Function.update w.publishing id none
  snapshots := w.snapshots

/-- A detection run's row, changed. -/
def update_detection (w : World) (id : Nat) (change : DetectionRun → DetectionRun) : World :=
  { w with tables := { w.tables with detections := w.tables.detections.map fun run => if run.id = id then change run else run } }

def detection_row (w : World) (id : Nat) : Option DetectionRun := w.tables.detections.find? fun run => run.id = id

/-- The observations of a Dockyard that a snapshot holds. -/
def visible_ids (tables : Tables) (dockyard_id : Nat) : List Nat :=
  (tables.observations.filter fun observation => observation.dockyard_id = dockyard_id).map Observation.id

/-- `recover_interrupted_runs` -/
def interrupted (now : Nat) (run : DiscoveryRun) : DiscoveryRun :=
  if run.status ∈ ACTIVE_STATUSES then { run with status := .failed, completed_at := some now } else run

def interrupted_detection (run : DetectionRun) : DetectionRun :=
  if run.status ∈ ACTIVE_DETECTION then { run with status := .failed } else run

def step (w : World) : Action → Option World
  | .request_discovery id dockyard_id =>
    match w.tables.discoveries id with
    | some _ => none
    | none => some { w with tables := { w.tables with
        discoveries := Function.update w.tables.discoveries id (some { dockyard_id := dockyard_id, status := .pending }) } }
  | .progress id status completed_at =>
    match w.tables.discoveries id, w.publishing id with
    | some run, none =>
      if run.status ∈ ACTIVE_STATUSES ∧ status ≠ .completed then
        some { w with tables := { w.tables with
          discoveries := Function.update w.tables.discoveries id (some { run with status := status, completed_at := completed_at }) } }
      else none
    | _, _ => none
  | .stamp id publication =>
    match w.tables.discoveries id, w.publishing id with
    | some run, none =>
      if run.status = .running then some { w with publishing := Function.update w.publishing id (some publication) } else none
    | _, _ => none
  | .publish id =>
    match w.tables.discoveries id, w.publishing id with
    | some run, some publication =>
      if ((published_observations id run.dockyard_id publication ++ w.tables.observations).map Observation.id).Nodup then
        some (publish w id run publication)
      else none
    | _, _ => none
  | .rollback id => some { w with publishing := Function.update w.publishing id none }
  | .request_detection id dockyard_id =>
    if id ∈ w.tables.detections.map DetectionRun.id ∨
        (w.tables.detections.any fun run => run.dockyard_id = dockyard_id && run.status ∈ ACTIVE_DETECTION) then none
    else some { w with tables := { w.tables with
      detections := { id := id, dockyard_id := dockyard_id, status := .pending } :: w.tables.detections } }
  | .start id started_at =>
    match detection_row w id with
    | none => none
    | some run =>
      if run.status = .pending then
        some (update_detection w id fun run => { run with status := .running, started_at := some started_at })
      else none
  | .read id =>
    match detection_row w id with
    | none => none
    | some run =>
      let ids := visible_ids w.tables run.dockyard_id
      if run.status = .running ∧ w.snapshots id = none ∧ ids.length ≤ max_detection_observations then
        some { w with snapshots := Function.update w.snapshots id (some ids) }
      else none
  | .finish id status detectors result_sha256 metadata_sha256 =>
    match detection_row w id with
    | none => none
    | some run =>
      if run.status = .running ∧ (w.snapshots id).isSome ∧ status ∉ ACTIVE_DETECTION then
        some (update_detection w id fun run => { run with
          status := status
          detectors := some detectors
          result_sha256 := some result_sha256
          metadata_sha256 := some metadata_sha256 })
      else none
  | .fail id =>
    match detection_row w id with
    | none => none
    | some run => if run.status ∈ ACTIVE_DETECTION then some (update_detection w id fun run => { run with status := .failed }) else none
  | .restart now => some {
      tables := { w.tables with
        discoveries := fun id => (w.tables.discoveries id).map (interrupted now)
        detections := w.tables.detections.map interrupted_detection }
      publishing := fun _ => none
      snapshots := w.snapshots }

end RedDock.Coverage
