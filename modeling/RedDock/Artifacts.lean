import RedDock.RetainedRows
import RedDock.Members

/-!
# Retained artifacts

The files that a report refers to: what the rows of a Dockyard say of them, and
what is read and verified of each.
-/
set_option autoImplicit false
namespace RedDock.Reporting
open Text
open Detection (Json)
open Inventory (EvidenceRecord)
open Retained

def hexadecimal (digest : Text) : Bool := digest.length = 64 && digest.all fun c => c ∈ "0123456789abcdef".toList

/-- SHA-256 in hexadecimal, and `json.loads`, absent where it refuses bytes. -/
structure Library where
  sha256 : Bytes → Text
  digest : ∀ bytes, hexadecimal (sha256 bytes) = true
  loads : Bytes → Option Json

/-- What a regular file below the evidence root holds, by the parts of its path. -/
abbrev Files := List Text → Option Bytes

/-- The message of a `ReportRejected`. -/
def rejected {α : Type} (message : String) : Except Text α := .error message.toList

def max_report_evidence_files : Nat := 2000
def max_dockpack_bytes : Nat := 64 * 1024 * 1024
def max_evidence_bytes : Nat := 2 * 1024 * 1024

def METADATA_FILE : Text := "metadata.json".toList
def NORMALIZED_FILE : Text := "normalized/result.json".toList

inductive Source
  | discovery
  | detection
  | validation
  | correlation
  | intelligence
  deriving DecidableEq, Repr

def Source.str : Source → Text
  | .discovery => "discovery".toList
  | .detection => "detection".toList
  | .validation => "validation".toList
  | .correlation => "correlation".toList
  | .intelligence => "intelligence".toList

structure ArtifactReference where
  source : Source
  run_id : Nat
  source_path : Text
  archive_path : Text
  media_type : Text
  expected_sha256 : Text
  truncated : Bool := false

structure VerifiedArtifact where
  reference : ArtifactReference
  payload : Bytes

def VerifiedArtifact.sha256 (artifact : VerifiedArtifact) : Text := artifact.reference.expected_sha256

/-! ### Paths -/

/-- `_safe_relative`: the parts of a path. -/
def safe_relative (value : Text) : Except Text (List Text) :=
  if value = [] ∨ '\\' ∈ value ∨ value.head? = some '/' ∨ ['.', '.'] ∈ Members.parts value then
    rejected "An evidence path is not a safe portable path"
  else .ok (Members.parts value)

/-- `_safe_file`: the file of a path. -/
def safe_file (files : Files) (relative : Text) : Except Text Bytes := do
  let parts ← safe_relative relative
  -- `resolve` raises a `ValueError`
  if Char.ofNat 0 ∈ relative then rejected "embedded null byte"
  else match files parts with
    | none => rejected "A retained evidence path is unavailable"
    | some file => return file

/-- `_read_bounded` -/
def read_bounded (file : Bytes) (max_bytes : Nat) (message : String) : Except Text Bytes :=
  if max_bytes < (file.take (max_bytes + 1)).length then rejected message else .ok (file.take (max_bytes + 1))

/-- `"/".join` of two paths. -/
def below (base relative : Text) : Text := base ++ '/' :: relative

/-! ### References -/

/-- `_reference` -/
def reference (source : Source) (run_id : Nat) (source_path archive_path media_type expected_sha256 : Text) (truncated : Bool := false) :
    Except Text ArtifactReference := do
  if hexadecimal expected_sha256 = false then rejected "A retained evidence reference has an invalid SHA-256"
  else
    let _ ← safe_relative source_path
    let _ ← safe_relative archive_path
    return { source, run_id, source_path, archive_path, media_type, expected_sha256, truncated }

/-- `_add_references` -/
def add_references (target items : List ArtifactReference) : Except Text (List ArtifactReference) :=
  if max_report_evidence_files < target.length + items.length then
    rejected "The evidence manifest exceeds the fixed file-count limit"
  else .ok (target ++ items)

/-- Where a file of a run stands in the archive. -/
def archived (source : Source) (run_id : Nat) (relative : Text) : Text :=
  "evidence/".toList ++ below source.str (below (dec run_id) relative)

def JSON_TYPE : Text := "application/json".toList

def present (value : Option Text) : Bool := value.any fun t => !t.isEmpty

/-- `_known_pair` -/
def known_pair (target : List ArtifactReference) (source : Source) (run_id : Nat) (base result_sha256 metadata_sha256 : Option Text) :
    Except Text (List ArtifactReference) :=
  match base, result_sha256, metadata_sha256 with
  | some base, some result_sha256, some metadata_sha256 =>
    if base = [] ∨ result_sha256 = [] ∨ metadata_sha256 = [] then incomplete
    else do
      let result ← reference source run_id (below base NORMALIZED_FILE) (archived source run_id NORMALIZED_FILE) JSON_TYPE result_sha256
      let metadata ← reference source run_id (below base METADATA_FILE) (archived source run_id METADATA_FILE) JSON_TYPE metadata_sha256
      add_references target [result, metadata]
  | _, _, _ => incomplete
where
  incomplete : Except Text (List ArtifactReference) :=
    .error (["Completed ".toList, source.str, " run #".toList, dec run_id, " has incomplete evidence hashes".toList].flatten)

/-- What a validation manifest says of its raw artifact. -/
structure ManifestEntry where
  path : Text
  media_type : Text
  sha256 : Text
  truncated : Bool

/-- `bool` -/
def truth : Json → Bool
  | .null => false
  | .bool b => b
  | .int i => i ≠ 0
  | .float digits => digits ∉ ["0.0".toList, "-0.0".toList]
  | .str t => !t.isEmpty
  | .list items => !items.isEmpty
  | .object members => !members.isEmpty

def RECHECK_FILE : Text := "raw/http-recheck.json".toList
def MANIFEST_FILE : Text := "raw/manifest.json".toList

/-- The members of an item of the artifact list that names the raw artifact. -/
def recheck_members : Json → Option (List (Text × Json))
  | .object members =>
    match members.lookup "path".toList with
    | some (.str path) => if path = RECHECK_FILE then some members else none
    | _ => none
  | _ => none

/-- `_validation_manifest_entries` -/
def validation_manifest_entries (library : Library) (payload : Bytes) : Except Text (List ManifestEntry) :=
  match library.loads payload with
  | none => rejected "Validation manifest is not valid JSON"
  | some (.object manifest) =>
    match manifest.lookup "schema".toList, manifest.lookup "artifacts".toList with
    | some (.str schema), artifacts =>
      if schema ≠ "reddock.validation-package/1".toList then rejected "Validation manifest has an unsupported schema"
      else match artifacts with
        | some (.list artifacts) =>
          if 4 < artifacts.length then rejected "Validation manifest has an invalid artifact list"
          else match artifacts.filterMap recheck_members with
            | [item] =>
              match item.lookup "media_type".toList, item.lookup "sha256".toList with
              | some (.str media_type), some (.str sha256) =>
                .ok [{ path := RECHECK_FILE, media_type, sha256, truncated := truth ((item.lookup "truncated".toList).getD (.bool false)) }]
              | _, _ => rejected "Validation manifest has an invalid raw artifact entry"
            | _ => rejected "Validation manifest does not name exactly one raw recheck artifact"
        | _ => rejected "Validation manifest has an invalid artifact list"
    | _, _ => rejected "Validation manifest has an unsupported schema"
  | some _ => rejected "Validation manifest has an unsupported schema"

section
variable (library : Library) (files : Files)

def record_references (dockyard_id : Nat) (target : List ArtifactReference) (record : EvidenceRecord) :
    Except Text (List ArtifactReference) := do
  let item ← reference .discovery record.discovery_run_id (below (dec dockyard_id) (below (dec record.discovery_run_id) record.relative_path))
    (archived .discovery record.discovery_run_id record.relative_path) record.media_type record.sha256 record.truncated
  add_references target [item]

def detection_references (target : List ArtifactReference) (run : DetectionRun) : Except Text (List ArtifactReference) :=
  known_pair target .detection run.id run.evidence_path run.result_sha256 run.metadata_sha256

def entry_references (run_id : Nat) (base : Text) (target : List ArtifactReference) (artifact : ManifestEntry) :
    Except Text (List ArtifactReference) := do
  let item ← reference .validation run_id (below base artifact.path) (archived .validation run_id artifact.path) artifact.media_type
    artifact.sha256 artifact.truncated
  add_references target [item]

/-- The files of a validation run behind its manifest. -/
def manifest_references (target : List ArtifactReference) (run_id : Nat) (base manifest_sha256 : Text) :
    Except Text (List ArtifactReference) := do
  let item ← reference .validation run_id (below base MANIFEST_FILE) (archived .validation run_id MANIFEST_FILE) JSON_TYPE manifest_sha256
  let target ← add_references target [item]
  let file ← safe_file files (below base MANIFEST_FILE)
  let payload ← read_bounded file max_evidence_bytes "Validation manifest exceeds the fixed evidence size limit"
  if library.sha256 payload ≠ manifest_sha256 then rejected "Validation manifest no longer matches its retained SHA-256"
  else
    let entries ← validation_manifest_entries library payload
    entries.foldlM (entry_references run_id base) target

def validation_references (target : List ArtifactReference) (run : ValidationRun) : Except Text (List ArtifactReference) := do
  let target ← known_pair target .validation run.id run.evidence_path run.result_sha256 run.metadata_sha256
  if present run.manifest_sha256 then
    manifest_references library files target run.id (run.evidence_path.getD []) (run.manifest_sha256.getD [])
  else return target

def correlation_references (target : List ArtifactReference) (run : CorrelationRun) : Except Text (List ArtifactReference) :=
  known_pair target .correlation run.id run.evidence_path run.result_sha256 run.metadata_sha256

/-- The packet of an intelligence run, and the advice of a completed one. -/
def intelligence_references (target : List ArtifactReference) (run : IntelligenceRun) : Except Text (List ArtifactReference) := do
  let base := run.evidence_path.getD []
  let target ←
    if run.input_sha256 = [] then pure target
    else do
      let packet ← reference .intelligence run.id (below base NORMALIZED_FILE) (archived .intelligence run.id NORMALIZED_FILE) JSON_TYPE
        run.input_sha256
      add_references target [packet]
  if run.status = .completed ∧ present run.result_sha256 = true ∧ present run.metadata_sha256 = true then
    let advice ← reference .intelligence run.id (below base "raw/advice.json".toList) (archived .intelligence run.id "raw/advice.json".toList)
      JSON_TYPE (run.result_sha256.getD [])
    let metadata ← reference .intelligence run.id (below base METADATA_FILE) (archived .intelligence run.id METADATA_FILE) JSON_TYPE
      (run.metadata_sha256.getD [])
    add_references target [advice, metadata]
  else return target

/-- `_deduplicate` -/
def deduplicate (references : List ArtifactReference) : Except Text (List ArtifactReference) :=
  if (references.map ArtifactReference.archive_path).Nodup then .ok (ordered ArtifactReference.archive_path references)
  else rejected "Duplicate retained evidence references share one export path"

/-- `_artifact_references` -/
def artifact_references (db : Database) (dockyard_id : Nat) : Except Text (List ArtifactReference) := do
  let references ← (evidence_records db dockyard_id).foldlM (record_references dockyard_id) []
  let references ← ((detection_runs db dockyard_id).filter fun run => run.status = .completed && run.evidence_path.isSome).foldlM
    detection_references references
  let references ← ((validation_runs db dockyard_id).filter fun run => run.status = .completed && run.evidence_path.isSome).foldlM
    (validation_references library files) references
  let references ← ((correlation_runs db dockyard_id).filter fun run => run.status = .completed && run.evidence_path.isSome).foldlM
    correlation_references references
  let references ← ((intelligence_runs db dockyard_id).filter fun run => run.evidence_path.isSome && run.status ≠ .running).foldlM
    intelligence_references references
  deduplicate references

/-! ### Verification -/

/-- The loop of `_verify_artifacts`, after artifacts of `total` bytes. -/
def verify_from : (total : Nat) → List ArtifactReference → Except Text (List VerifiedArtifact)
  | _, [] => .ok []
  | total, reference :: references => do
    let file ← safe_file files reference.source_path
    let payload ← read_bounded file (max_dockpack_bytes - total) "Retained evidence exceeds the fixed DockPack size limit"
    if library.sha256 payload ≠ reference.expected_sha256 then
      .error ("Retained evidence no longer matches its SHA-256: ".toList ++ reference.source_path)
    else return { reference, payload } :: (← verify_from (total + payload.length) references)

/-- `_verify_artifacts` -/
def verify_artifacts (references : List ArtifactReference) : Except Text (List VerifiedArtifact) :=
  if max_report_evidence_files < references.length then rejected "The evidence manifest exceeds the fixed file-count limit"
  else verify_from library files 0 references

end
end RedDock.Reporting
