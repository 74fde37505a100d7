import RedDock.Transactions
import RedDock.Inventory
import RedDock.Executions

/-!
# From the adapter to the final commit

The second half of a discovery run: the answer of the adapter, the decision at
the commit boundary, the inventory, the evidence and the run row in one
transaction, and the two ways a failure is recorded. The query and the flush of
one reconciled row are one call.
-/
set_option autoImplicit false
namespace RedDock.Publishing
open Text Targets DockGuard Detection Inventory Transactions
open Discovery hiding World Phase Action step
open Executions (recheck)

/-- A run row, with the columns of its end. -/
structure RunRow extends DiscoveryRun where
  id : Nat
  dockyard_id : Nat
  adapter : Text
  normalized_target : Option Text
  asset_count : Nat := 0
  service_count : Nat := 0
  observation_count : Nat := 0
  evidence_path : Option Text := none

/-- What a session of the run sees. -/
structure State where
  tables : Tables
  run : RunRow

abbrev Raised := Executions.Raised

/-! ### The inventory -/

/-- The ids of the rows of this run. -/
structure Ids where
  assets : List (Text × Nat) := []
  services : List ((Text × Text × Nat) × Nat) := []
  service_count : Nat := 0

/-- A function of the tables, on the state of a session. -/
def on_tables {α : Type} (f : Tables → α × Tables) (s : State) : α × State := ((f s.tables).1, { s with tables := (f s.tables).2 })

section
variable (fails : Nat → Option Raised)

def persist_service (identity : Text) (asset_id : Nat) (observed_at : Nat) (ids : Ids) (discovered : DiscoveredService) :
    Transaction State Raised Ids := do
  match ← call fails (on_tables (upsert_service asset_id discovered observed_at)) with
  | none => return ids
  | some service_id => return { ids with
      services := ((identity, discovered.transport, discovered.port), service_id) :: ids.services
      service_count := ids.service_count + 1 }

def persist_asset (dockyard_id : Nat) (observed_at : Nat) (ids : Ids) (discovered : DiscoveredAsset) :
    Transaction State Raised Ids := do
  let asset_id ← call fails (on_tables (upsert_asset dockyard_id discovered observed_at))
  discovered.services.foldlM (persist_service fails discovered.identity asset_id observed_at)
    { ids with assets := (discovered.identity, asset_id) :: ids.assets }

/-- The asset and the service an observation is about. -/
def subject (ids : Ids) (observation : DiscoveredObservation) : Option Nat × Option Nat :=
  (ids.assets.lookup (observation.asset_identity.getD []),
    match observation.asset_identity, observation.service_port with
    | some (c :: cs), some (transport, port) => ids.services.lookup (c :: cs, transport, port)
    | _, _ => none)

def persist_observation (recording : Recording) (ids : Ids) (observation : DiscoveredObservation) : Transaction State Raised Unit :=
  call fails (on_tables fun tables =>
    ((), record_observation recording (subject ids observation).1 (subject ids observation).2 observation tables))

/-- `EvidenceStore.relative_run_path` -/
def relative_run_path (dockyard_id run_id : Nat) : Text := dec dockyard_id ++ "/".toList ++ dec run_id

def recording (run : RunRow) (observed_at : Nat) : Recording where
  dockyard_id := run.dockyard_id
  run_id := run.id
  adapter := run.adapter
  observed_at := observed_at
  raw_reference := relative_run_path run.dockyard_id run.id

/-- The counts of assets, services and observations. -/
abbrev Counts := Nat × Nat × Nat

/-- `_persist` -/
def persist (run : RunRow) (result : AdapterResult) (observations : List DiscoveredObservation) (observed_at : Nat) :
    Transaction State Raised Counts := do
  let ids ← result.assets.foldlM (persist_asset fails run.dockyard_id observed_at) {}
  observations.foldlM (fun _ observation => persist_observation fails (recording run observed_at) ids observation) ()
  read fails fun _ => ()
  return (result.assets.length, ids.service_count, observations.length)

/-! ### The evidence -/

structure StoredArtifact where
  kind : Text
  relative_path : Text
  media_type : Text
  size_bytes : Nat
  sha256 : Text
  truncated : Bool

/-- The documents of a run, and what the store takes from Python and its
    settings. -/
structure Evidence where
  max_bytes : Nat
  sha256 : List UInt8 → Text
  normalized : AdapterResult → List DiscoveredObservation → List UInt8
  metadata : RunRow → AdapterResult → Evaluation → Counts → List StoredArtifact → List UInt8

variable (evidence : Evidence)

/-- `_ARTIFACT_NAME.fullmatch` -/
def ARTIFACT_NAME : Text → Bool
  | [] => false
  | first :: rest => (first.isLower || first.isDigit) && decide (rest.length ≤ 63) &&
      rest.all fun c => c.isLower || c.isDigit || c == '.' || c == '_' || c == '-'

/-- `_write`, outside the transaction. -/
def write (kind relative_path media_type : Text) (payload : List UInt8) (truncated : Bool) :
    Transaction State Raised StoredArtifact :=
  read fails fun _ => {
    kind := kind
    relative_path := relative_path
    media_type := media_type
    size_bytes := payload.length
    sha256 := evidence.sha256 payload
    truncated := truncated }

def write_raw (artifact : RawArtifact) : Transaction State Raised StoredArtifact :=
  if !ARTIFACT_NAME artifact.name then raise .unexpected
  else write fails evidence "raw".toList ("raw/".toList ++ artifact.name) artifact.media_type
    (artifact.content.take evidence.max_bytes) (decide (evidence.max_bytes < artifact.content.length))

def write_document (kind relative_path : Text) (payload : List UInt8) : Transaction State Raised StoredArtifact :=
  write fails evidence kind relative_path "application/json".toList payload false

def evidence_record (run : RunRow) (id : Nat) (artifact : StoredArtifact) : EvidenceRecord where
  id := id
  dockyard_id := run.dockyard_id
  discovery_run_id := run.id
  kind := artifact.kind
  relative_path := artifact.relative_path
  media_type := artifact.media_type
  size_bytes := artifact.size_bytes
  sha256 := artifact.sha256
  truncated := artifact.truncated

/-- The rows of the stored artifacts, one after another. -/
def add_records (run : RunRow) : List StoredArtifact → Tables → Tables
  | [], tables => tables
  | artifact :: stored, tables => add_records run stored { tables with
      evidence_records := tables.evidence_records ++
        [evidence_record run (fresh (tables.evidence_records.map (·.id))) artifact] }

/-- `_store_evidence` -/
def store_evidence (run : RunRow) (result : AdapterResult) (observations : List DiscoveredObservation) (evaluation : Evaluation)
    (counts : Counts) : Transaction State Raised Unit := do
  let raw ← result.artifacts.mapM' (write_raw fails evidence)
  let normalized ← write_document fails evidence "normalized".toList "normalized/result.json".toList
    (evidence.normalized result observations)
  let stored := raw ++ [normalized]
  let metadata ← write_document fails evidence "metadata".toList "metadata.json".toList
    (evidence.metadata run result evaluation counts stored)
  call fails fun s => ((), {
    tables := add_records run (stored ++ [metadata]) s.tables
    run := { s.run with evidence_path := some (relative_run_path run.dockyard_id run.id) } })

/-! ### The run -/

/-- `_resolution_observation` -/
def resolution_observation (run : RunRow) (evaluation : Evaluation) : DiscoveredObservation where
  observation_type := "dns_resolution".toList
  summary := run.normalized_target.getD "None".toList ++ " resolved to ".toList ++
    join ", ".toList evaluation.resolved_addresses
  confidence := .observed
  detail := some [("addresses".toList, .list (evaluation.resolved_addresses.map .str))]

/-- The observations of a run: the resolution it relied on, and the adapter's. -/
def run_observations (run : RunRow) (evaluation : Evaluation) (result : AdapterResult) : List DiscoveredObservation :=
  if evaluation.resolved_addresses.isEmpty then result.observations
  else resolution_observation run evaluation :: result.observations

/-- What happens outside the session while a run is performed: the answer of the
    adapter, its time, and the scope when it is checked again. -/
structure Contact where
  evaluation : Evaluation
  answer : Except Raised AdapterResult
  observed_at : Nat
  entries : List ScopeEntry

variable {Row : Type} (config : Config AdapterResult Row) (contact : Contact)

/-- `_perform` from the call of the adapter on. -/
def perform (run : RunRow) : Transaction State Raised Unit := do
  let result ← lift contact.answer
  let observations := run_observations run contact.evaluation result
  let entries ← read fails fun _ => contact.entries
  match recheck config entries run.toDiscoveryRun contact.evaluation with
  | .error _ => raise .unexpected
  | .ok (some decision) =>
    set fun s => { s with run := { s.run with
      status := .denied
      decision := decision
      decision_reason := "Scope changed during execution; results were discarded".toList } }
    commit fails
  | .ok none =>
    let counts ← persist fails run result observations contact.observed_at
    store_evidence fails evidence run result observations contact.evaluation counts
    set fun s => { s with run := { s.run with
      status := .completed
      asset_count := counts.1
      service_count := counts.2.1
      observation_count := counts.2.2 } }
    commit fails

/-- `_fail` -/
def fail (message : Text) : Transaction State Raised Unit := do
  rollback fails
  set fun s => { s with run := { s.run with status := .failed, error := some (message.take 500) } }
  commit fails

/-- `_fail_detached`, in a session of its own; its update finds active runs
    only. -/
def fail_detached : Transaction State Raised Unit := do
  rollback fails
  call fails fun s =>
    ((), { s with run := { s.run with toDiscoveryRun := Executions.fail_detached s.run.toDiscoveryRun } })
  commit fails

/-- The handlers of `_execute_run` and `execute_run` around what was performed. -/
def execute (s : Session State) : Session State :=
  match perform fails evidence config contact s.working.run s with
  | (.ok (), s') => s'
  | (.error raised, s') =>
    match fail fails raised.message s' with
    | (.ok (), t) => t
    | (.error _, t) => (fail_detached fails t).2

end
end RedDock.Publishing
