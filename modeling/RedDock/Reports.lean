import RedDock.ReportTexts
import RedDock.ZipFiles
import RedDock.Publishing
import RedDock.Runs

/-!
# Reports

How a report is built of one database state, published in the evidence store,
and served; report runs among the writers of evidence, changes of the other
tables, and restarts.
-/
set_option autoImplicit false
namespace RedDock.Reporting
open Text
open Detection (Json)
open Retained
open ZipFiles (Member written)
open Publishing (ARTIFACT_NAME)

/-! ### Building -/

def DOCKPACK_SCHEMA : Text := "reddock.dockpack/1".toList
def DOCKPACK : Text := "dockpack.json".toList
def SNAPSHOT_MEMBER : Text := "reports/technical.json".toList
def TECHNICAL_MEMBER : Text := "reports/technical.md".toList
def EXECUTIVE_MEMBER : Text := "reports/executive.md".toList
def MANIFEST_MEMBER : Text := "evidence/manifest.json".toList

/-- What a report consists of. -/
structure Report where
  snapshot : Snapshot
  verified : List VerifiedArtifact

def Report.snapshot_bytes (report : Report) : Bytes := JsonText.document report.snapshot.document
def Report.technical (report : Report) : Bytes := Bytes.utf8 (technical_markdown report.snapshot)
def Report.executive (report : Report) : Bytes := Bytes.utf8 (executive_markdown report.snapshot)
def Report.manifest_bytes (report : Report) : Bytes := JsonText.document report.snapshot.evidence_manifest.document
/-- What `write_normalized` writes of the snapshot. -/
def Report.normalized (report : Report) : Bytes := JsonText.stored_document report.snapshot.document

/-- `payloads`, before the manifest of the package. -/
def Report.payloads (report : Report) : List (Text × Bytes) :=
  report.verified.foldl (fun payloads artifact => HttpHeaders.put artifact.reference.archive_path artifact.payload payloads)
    [(SNAPSHOT_MEMBER, report.snapshot_bytes), (TECHNICAL_MEMBER, report.technical), (EXECUTIVE_MEMBER, report.executive),
      (MANIFEST_MEMBER, report.manifest_bytes)]

section
variable (library : Library)

/-- What the manifest of the package says of a member. -/
structure Listing where
  path : Text
  bytes : Nat
  sha256 : Text

def Listing.document (listing : Listing) : Json :=
  .object [field "path" (.str listing.path), field "bytes" (json_number listing.bytes), field "sha256" (.str listing.sha256)]

def package_document (snapshot_sha256 : Text) (members : List Listing) : Json :=
  .object [field "schema" (.str DOCKPACK_SCHEMA), field "algorithm" (.str "sha256".toList),
    field "snapshot_sha256" (.str snapshot_sha256), field "members" (.list (members.map Listing.document))]

def listing (payload : Text × Bytes) : Listing where
  path := payload.1
  bytes := payload.2.length
  sha256 := library.sha256 payload.2

/-- `package_manifest` -/
def Report.package_manifest (report : Report) : Json :=
  package_document (library.sha256 report.snapshot_bytes) ((ordered Prod.fst report.payloads).map (listing library))

/-- The members of the package, by name. -/
def Report.members (report : Report) : List Member :=
  (ordered Prod.fst (HttpHeaders.put DOCKPACK (JsonText.document (report.package_manifest library)) report.payloads)).map fun payload =>
    { name := payload.1, content := payload.2 }

/-- `_dockpack`: a name has to fit the records of the file. -/
def Report.dockpack (report : Report) : Except Text Bytes :=
  if ∃ member ∈ report.members library, 65535 < (Bytes.utf8 member.name).length then
    rejected "Reporting failed unexpectedly; see the RedDock container log"
  else .ok (written (report.members library))

/-- `_reject_active_sources` -/
def active_sources (db : Database) (dockyard_id : Nat) : Bool :=
  (db.discovery_runs.any fun run => run.dockyard_id = dockyard_id && run.status ∈ Discovery.ACTIVE_STATUSES) ||
  (db.detection_runs.any fun run => run.dockyard_id = dockyard_id && run.status ∈ Coverage.ACTIVE_DETECTION) ||
  (db.validation_runs.any fun run => run.dockyard_id = dockyard_id && run.status = .running) ||
  (db.correlation_runs.any fun run => run.dockyard_id = dockyard_id && (run.status = .pending || run.status = .running)) ||
  db.intelligence_runs.any fun run => run.dockyard_id = dockyard_id && run.status = .running

def reject_active_sources (db : Database) (dockyard_id : Nat) : Except Text Unit :=
  if active_sources db dockyard_id then rejected "Wait for active Dockyard runs to finish before reporting" else .ok ()

variable (files : Files)

/-- The sources of a report, of which there has to be one. -/
def sources (db : Database) (dockyard_id : Nat) : Except Text (List ArtifactReference) := do
  reject_active_sources db dockyard_id
  let references ← artifact_references library files db dockyard_id
  if references = [] then rejected "No retained evidence is available to report"
  else return references

/-- What is read in one transaction. -/
def capture (db : Database) (dockyard_id : Nat) : Except Text Report := do
  let references ← sources library files db dockyard_id
  let verified ← verify_artifacts library files references
  let snapshot ← snapshot db dockyard_id (evidence_manifest verified)
  let snapshot ← enrich_manifest library snapshot
  return { snapshot, verified }

/-- The limits of what is published. -/
def Report.packed (report : Report) : Except Text Bytes := do
  let package ← report.dockpack library
  if max_dockpack_bytes < package.length then rejected "DockPack exceeds the fixed export size limit"
  else if max_dockpack_bytes < report.snapshot_bytes.length ∨ max_dockpack_bytes < report.technical.length then
    rejected "The technical report exceeds the fixed export size limit"
  else if max_dockpack_bytes < report.executive.length then rejected "The executive report exceeds the fixed export size limit"
  else if max_dockpack_bytes < report.manifest_bytes.length then rejected "The evidence manifest exceeds the fixed export size limit"
  else return package

end

/-- What is published of a report. -/
structure Published where
  report : Report
  package : Bytes

/-- The part of `_start_report` from the captured database state to the package. -/
def build (library : Library) (files : Files) (db : Database) (dockyard_id : Nat) : Except Text Published := do
  let report ← capture library files db dockyard_id
  let package ← report.packed library
  return { report, package }

/-! ### The evidence store -/

def REPORTING_SCOPE : Text := "reporting".toList

inductive Scope
  | discovery
  | detection
  | validation
  | correlation
  | intelligence
  | reporting
  deriving DecidableEq

def Scope.parts : Scope → List Text
  | .discovery => []
  | .detection => ["detection".toList]
  | .validation => ["validation".toList]
  | .correlation => ["correlation".toList]
  | .intelligence => ["intelligence".toList]
  | .reporting => [REPORTING_SCOPE]

/-- `run_directory`, below the root. -/
def run_directory (dockyard_id run_id : Nat) (scope : Scope) : List Text := dec dockyard_id :: (scope.parts ++ [dec run_id])

/-- `relative_run_path` -/
def relative_run_path (dockyard_id run_id : Nat) (scope : Scope) : Text := join ['/'] (run_directory dockyard_id run_id scope)

/-- A file of a run, below its directory. -/
inductive Artifact
  | raw (name : Text)
  | normalized
  | metadata
  deriving DecidableEq

def Artifact.relative : Artifact → Text
  | .raw name => "raw/".toList ++ name
  | .normalized => NORMALIZED_FILE
  | .metadata => METADATA_FILE

def Artifact.safe : Artifact → Bool
  | .raw name => ARTIFACT_NAME name
  | _ => true

/-- `destination` of `_write`. -/
def destination (dockyard_id run_id : Nat) (scope : Scope) (artifact : Artifact) : List Text :=
  run_directory dockyard_id run_id scope ++ Members.parts artifact.relative

/-- `write_bytes` -/
def Files.write (files : Files) (path : List Text) (payload : Bytes) : Files := Function.update files path (some payload)

/-- `rmtree` -/
def Files.remove (files : Files) (directory : List Text) : Files := fun path => if directory <+: path then none else files path

/-- The files of a report, in the order they are written. -/
def Published.exports (published : Published) : List (Artifact × Bytes) := [
  (.normalized, published.report.normalized), (.raw "technical.md".toList, published.report.technical),
  (.raw "executive.md".toList, published.report.executive), (.raw "evidence-manifest.json".toList, published.report.manifest_bytes),
  (.raw "dockpack.zip".toList, published.package)]

/-! ### Serving -/

/-- What a report run is asked for. -/
inductive Choice
  | technical
  | executive
  | manifest
  | dockpack
  deriving DecidableEq

def Choice.relative : Choice → Text
  | .technical => "raw/technical.md".toList
  | .executive => "raw/executive.md".toList
  | .manifest => "raw/evidence-manifest.json".toList
  | .dockpack => "raw/dockpack.zip".toList

def Choice.expected (run : ReportRun) : Choice → Option Text
  | .technical => run.technical_sha256
  | .executive => run.executive_sha256
  | .manifest => run.manifest_sha256
  | .dockpack => run.dockpack_sha256

def Choice.payload (published : Published) : Choice → Bytes
  | .technical => published.report.technical
  | .executive => published.report.executive
  | .manifest => published.report.manifest_bytes
  | .dockpack => published.package

/-- `artifact_path`, and what is then read at the path. -/
def artifact_path (library : Library) (files : Files) (run : ReportRun) (choice : Choice) : Except Text Bytes :=
  if run.status ≠ .completed ∨ present run.evidence_path = false ∨ present (choice.expected run) = false then
    rejected "Report artifact is not available"
  else do
    let file ← safe_file files (below (run.evidence_path.getD []) choice.relative)
    let payload ← read_bounded file max_dockpack_bytes "Report artifact exceeds the fixed download size limit"
    if library.sha256 payload ≠ (choice.expected run).getD [] then rejected "Report artifact no longer matches its retained SHA-256"
    else return payload

/-! ### Report runs -/

def max_report_runs_per_dockyard : Nat := 200

/-- The run in progress, under `_CREATE_LOCK`: once it is built, what remains to
    be written of it. -/
structure Current where
  dockyard_id : Nat
  run_id : Nat
  published : Option (Published × List (Artifact × Bytes)) := none

/-- The application, and what each run was built of. -/
structure State where
  db : Database
  files : Files
  current : Option Current := none
  built_of : Nat → Option (Database × Files) := fun _ => none

inductive Action
  /-- `start_report`, up to the commit of the run; `permitted` is what authorization says before and after the run has its row. -/
  | request (dockyard_id run_id : Nat) (permitted permitted_again : Bool)
  | build (now : Nat)
  | write
  /-- An error while the report is written. -/
  | interrupt (error : Text) (now : Nat)
  | finish (permitted : Bool) (now : Nat)
  /-- The end of the process, and `recover_interrupted_runs` of the next one. -/
  | restart (now : Nat)
  /-- A write of another kind of run. -/
  | evidence (dockyard_id run_id : Nat) (scope : Scope) (artifact : Artifact) (payload : Bytes)
  /-- A commit that has nothing to do with reports. -/
  | others (db : Database)

/-- A change of one row. -/
def update_report (db : Database) (run_id : Nat) (change : ReportRun → ReportRun) : Database :=
  { db with report_runs := db.report_runs.map fun run => if run.id = run_id then change run else run }

def failed (error : Text) (now : Nat) (run : ReportRun) : ReportRun :=
  { run with status := .failed, error := some (error.take 500), completed_at := some now }

/-- A security event of a report run. -/
def report_event (action reason_code : String) (run_id : Nat) : SecurityEvent where
  action := action.toList
  target_id := dec run_id
  reason_code := reason_code.toList

def State.with_event (s : State) (event : SecurityEvent) : State :=
  { s with db := { s.db with security_events := s.db.security_events ++ [event] } }

/-- `_remove_partial_report`, and the row of the failed run. -/
def State.discard (s : State) (dockyard_id run_id : Nat) (error : Text) (now : Nat) : State :=
  { s with db := update_report s.db run_id (failed error now), files := s.files.remove (run_directory dockyard_id run_id .reporting) }

def State.fail (s : State) (run : Current) (error : Text) (now : Nat) : State :=
  { s.discard run.dockyard_id run.run_id error now with current := none }

section
variable (library : Library)

def completed (published : Published) (dockyard_id : Nat) (now : Nat) (run : ReportRun) : ReportRun :=
  { run with
    status := .completed
    snapshot_sha256 := some (library.sha256 published.report.normalized)
    technical_sha256 := some (library.sha256 published.report.technical)
    executive_sha256 := some (library.sha256 published.report.executive)
    manifest_sha256 := some (library.sha256 published.report.manifest_bytes)
    dockpack_sha256 := some (library.sha256 published.package)
    dockpack_bytes := some published.package.length
    evidence_path := some (relative_run_path dockyard_id run.id .reporting)
    source_counts := some published.report.snapshot.counts.document
    completed_at := some now }

/-- The rows and the files that a restart leaves of the interrupted runs. -/
def recovered (s : State) (now : Nat) : State :=
  (s.db.report_runs.filter fun run => run.status = .running).foldl
    (fun s run => s.discard run.dockyard_id run.id "Reporting was interrupted by an application restart".toList now) s

/-- The row of a new run. -/
def requested (dockyard_id run_id : Nat) : ReportRun := { id := run_id, dockyard_id, status := .running, report_schema := REPORT_SCHEMA }

def step (s : State) : Action → Option State
  | .request dockyard_id run_id permitted permitted_again =>
    match s.current, sources library s.files s.db dockyard_id with
    | none, .ok _ =>
      if permitted ∧ permitted_again ∧ (s.db.report_runs.filter fun run => run.dockyard_id = dockyard_id).length < max_report_runs_per_dockyard ∧
          run_id ∉ s.db.report_runs.map ReportRun.id then
        some ({ s with db := { s.db with report_runs := s.db.report_runs ++ [requested dockyard_id run_id] },
                       current := some { dockyard_id, run_id } }.with_event (report_event "report.request" "report_requested" run_id))
      else none
    | _, _ => none
  | .build now =>
    match s.current with
    | some { dockyard_id, run_id, published := none } =>
      match build library s.files s.db dockyard_id with
      | .error error => some (s.fail { dockyard_id, run_id } error now)
      | .ok published => some { s with
          current := some { dockyard_id, run_id, published := some (published, published.exports) }
          built_of := Function.update s.built_of run_id (some (s.db, s.files)) }
    | _ => none
  | .write =>
    match s.current with
    | some { dockyard_id, run_id, published := some (published, (artifact, payload) :: rest) } => some { s with
        files := s.files.write (destination dockyard_id run_id .reporting artifact) payload
        current := some { dockyard_id, run_id, published := some (published, rest) } }
    | _ => none
  | .interrupt error now =>
    match s.current with
    | some run => some (s.fail run error now)
    | none => none
  | .finish permitted now =>
    match s.current with
    | some { dockyard_id, run_id, published := some (published, []) } =>
      if permitted then
        some ({ s with db := update_report s.db run_id (completed library published dockyard_id now), current := none }.with_event
          (report_event "report.publish" "report_published" run_id))
      else some (s.fail { dockyard_id, run_id } "Permission denied".toList now)
    | _ => none
  | .restart now => some { recovered s now with current := none }
  | .evidence dockyard_id run_id scope artifact payload =>
    if scope ≠ .reporting ∧ artifact.safe then
      some { s with files := s.files.write (destination dockyard_id run_id scope artifact) payload }
    else none
  | .others db => some { s with db := { db with report_runs := s.db.report_runs } }

end
end RedDock.Reporting
