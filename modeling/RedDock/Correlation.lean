import RedDock.RetainedRows

/-!
# Correlation runs

What one run derives from the rows it has read: relationships between assets,
correlations of findings, mappings to a framework and the graph of them. The
run stores all of its rows or, when it is rejected, none.
-/
set_option autoImplicit false
namespace RedDock.Correlation
open Text Retained
open Detection (Json)
open Inventory (Asset EvidenceRecord fresh truthy)

structure Settings where
  max_correlation_assets : Nat := 2000
  max_correlation_findings : Nat := 2000
  max_correlation_edges : Nat := 5000

/-- The run, by its keys. -/
structure Run where
  id : Nat
  dockyard_id : Nat

structure AssetRelationship where
  id : Nat
  correlation_run_id : Nat
  dockyard_id : Nat
  source_asset_id : Nat
  target_asset_id : Nat
  relationship_type : Text
  confidence : Text
  basis : Text
  observation_id : Nat
  discovery_run_id : Nat
  evidence_record_id : Nat
  evidence_sha256 : Text

structure FindingCorrelation where
  id : Nat
  correlation_run_id : Nat
  dockyard_id : Nat
  source_finding_id : Nat
  target_finding_id : Nat
  relationship_type : Text
  confidence : Text
  basis : Text
  asset_relationship_id : Option Nat
  source_evidence_sha256 : Text
  target_evidence_sha256 : Text

structure FrameworkMapping where
  id : Nat
  correlation_run_id : Nat
  dockyard_id : Nat
  finding_id : Nat
  framework : Text
  external_id : Text
  title : Text
  basis : Text
  mapping_version : Text
  evidence_sha256 : Text

/-- The rows that correlation runs store. -/
structure Store where
  asset_relationships : List AssetRelationship := []
  finding_correlations : List FindingCorrelation := []
  framework_mappings : List FrameworkMapping := []

/-- Rows numbered from an id on, as a flush does. -/
def numbered {α β : Type} (make : Nat → α → β) (first : Nat) (items : List α) : List β :=
  items.mapIdx fun index item => make (first + index) item

/-! ### What a run reads -/

section
variable (db : Database) (dockyard_id : Nat)

def assets_of : List Asset := ordered (fun row => row.id) (db.assets.filter fun row => row.dockyard_id = dockyard_id)
def findings_of : List Finding := ordered Finding.id (db.findings.filter fun row => row.dockyard_id = dockyard_id)

/-- `_finding_hashes`: the hash of a finding is the first one here. -/
def finding_hashes (findings : List Finding) : List (Nat × Text) :=
  (ordered (fun link => toLex (link.finding_id, link.id))
    (db.finding_evidence.filter fun link => link.finding_id ∈ findings.map Finding.id)).filterMap fun link =>
      (db.evidence_records.find? fun record => link.evidence_record_id = some record.id).map fun record =>
        (link.finding_id, record.sha256)

/-- The latest response that was recorded at the address of a web asset. -/
def response_at (web : Asset) : Option Observation :=
  ((ordered (fun row => toLex (row.observed_at, row.id)) (db.observations.filter fun row =>
    row.dockyard_id = dockyard_id && row.asset_id = some web.id && row.observation_type = "http_response".toList)).reverse.take 100).find?
      fun row => (row.detail.bind fun detail => detail.lookup "address".toList).any fun value => match value with
        | .str address => web.ip_address = some address
        | _ => false

def normalized_record (discovery_run_id : Nat) : Option EvidenceRecord :=
  (ordered (fun row => row.id) (db.evidence_records.filter fun row =>
    row.dockyard_id = dockyard_id && row.discovery_run_id = discovery_run_id && row.kind = "normalized".toList)).head?

end

/-! ### Related assets -/

/-- The host recorded at an address: of several, the last. -/
def host_at (assets : List Asset) (address : Text) : Option Asset :=
  (assets.filter fun asset => asset.asset_type = "host".toList && asset.ip_address = some asset.identity && asset.identity = address).getLast?

def webs (assets : List Asset) : List Asset := assets.filter fun asset => asset.asset_type = "web".toList && truthy asset.ip_address

/-- The host of a web asset. -/
def host_of (assets : List Asset) (web : Asset) : Option Asset :=
  (host_at assets (web.ip_address.getD [])).filter fun host => host.id ≠ web.id

/-- A relationship before it is numbered. -/
structure Relation where
  web : Asset
  host : Asset
  observation : Observation
  evidence : EvidenceRecord

def asset_relationship (run : Run) (id : Nat) (relation : Relation) : AssetRelationship where
  id := id
  correlation_run_id := run.id
  dockyard_id := run.dockyard_id
  source_asset_id := relation.web.id
  target_asset_id := relation.host.id
  relationship_type := "observed_at_address".toList
  confidence := "observed".toList
  basis := "Stored observation #".toList ++ dec relation.observation.id ++ " places ".toList ++ relation.web.identity ++
    " at the exact address recorded by host asset ".toList ++ relation.host.identity ++ ".".toList
  observation_id := relation.observation.id
  discovery_run_id := relation.observation.discovery_run_id
  evidence_record_id := relation.evidence.id
  evidence_sha256 := relation.evidence.sha256

/-- What relates one web asset. -/
def relation (db : Database) (dockyard_id : Nat) (assets : List Asset) (web : Asset) : Option Relation := do
  let host ← host_of assets web
  let observation ← response_at db dockyard_id web
  let evidence ← normalized_record db dockyard_id observation.discovery_run_id
  return ⟨web, host, observation, evidence⟩

/-- `_asset_relationships`, before they are numbered. -/
def relations (db : Database) (dockyard_id : Nat) (assets : List Asset) : List Relation :=
  (webs assets).filterMap (relation db dockyard_id assets)

/-! ### Correlated findings -/

/-- `finding.id in hashes` -/
def supported (hashes : List (Nat × Text)) (finding : Finding) : Bool := (hashes.lookup finding.id).isSome

/-- The findings of `by_asset` on one asset. -/
def group (findings : List Finding) (hashes : List (Nat × Text)) (asset_id : Nat) : List Finding :=
  findings.filter fun finding => finding.asset_id = some asset_id && supported hashes finding

/-- The keys of `by_asset`, in the order they are put there. -/
def grouped_assets (findings : List Finding) (hashes : List (Nat × Text)) : List Nat :=
  ((findings.filter (supported hashes)).filterMap Finding.asset_id).eraseDups

/-- Each item with each later one. -/
def pairs {α : Type} : List α → List (α × α)
  | [] => []
  | left :: rest => (rest.map fun right => (left, right)) ++ pairs rest

/-- A call of `add`. -/
structure Call where
  left : Finding
  right : Finding
  kind : Text
  basis : Text
  relation_id : Option Nat

def same_asset_calls (findings : List Finding) (hashes : List (Nat × Text)) (asset_id : Nat) : List Call :=
  (pairs (group findings hashes asset_id)).map fun pair => {
    left := pair.1
    right := pair.2
    kind := "same_asset".toList
    basis := "Both findings cite observations attached to asset #".toList ++ dec asset_id ++ ".".toList
    relation_id := none }

def related_calls (findings : List Finding) (hashes : List (Nat × Text)) (relationship : AssetRelationship) : List Call :=
  (group findings hashes relationship.source_asset_id).flatMap fun left =>
    (group findings hashes relationship.target_asset_id).map fun right => {
      left := left
      right := right
      kind := "related_assets".toList
      basis := "The findings belong to assets joined by asset relationship #".toList ++ dec relationship.id ++ ".".toList
      relation_id := some relationship.id }

/-- The two loops of `_finding_correlations`. -/
def calls (findings : List Finding) (hashes : List (Nat × Text)) (relationships : List AssetRelationship) : List Call :=
  (grouped_assets findings hashes).flatMap (same_asset_calls findings hashes) ++ relationships.flatMap (related_calls findings hashes)

/-- `sorted((left, right), key=...)` -/
def Call.source (call : Call) : Finding := if call.right.id < call.left.id then call.right else call.left
def Call.target (call : Call) : Finding := if call.right.id < call.left.id then call.left else call.right
def Call.key (call : Call) : Nat × Nat × Text := (call.source.id, call.target.id, call.kind)

def finding_correlation (run : Run) (hashes : List (Nat × Text)) (id : Nat) (call : Call) : FindingCorrelation where
  id := id
  correlation_run_id := run.id
  dockyard_id := run.dockyard_id
  source_finding_id := call.source.id
  target_finding_id := call.target.id
  relationship_type := call.kind
  confidence := "observed".toList
  basis := call.basis
  asset_relationship_id := call.relation_id
  source_evidence_sha256 := (hashes.lookup call.source.id).getD []
  target_evidence_sha256 := (hashes.lookup call.target.id).getD []

def too_many_edges (settings : Settings) : Text :=
  "Correlation would create more than ".toList ++ dec settings.max_correlation_edges ++ " edges".toList

/-- `add`, on the calls that have added a row; `seen` holds their keys. -/
def add (settings : Settings) (limit : Nat) (added : List Call) (call : Call) : Except Text (List Call) :=
  if call.source.id = call.target.id ∨ call.key ∈ added.map Call.key then .ok added
  else if limit ≤ added.length then .error (too_many_edges settings)
  else .ok (added ++ [call])

/-- `_finding_correlations`, before they are numbered. -/
def finding_correlations (settings : Settings) (findings : List Finding) (hashes : List (Nat × Text))
    (relationships : List AssetRelationship) (limit : Nat) : Except Text (List Call) :=
  (calls findings hashes relationships).foldlM (add settings limit) []

/-! ### Mappings -/

def FRAMEWORK : Text := "CWE".toList
def VERSION : Text := "1.0.0".toList

def RULE_MAPPINGS : List (Text × Text × Text) := [
  ("plaintext-http".toList, "CWE-319".toList, "Cleartext Transmission of Sensitive Information".toList),
  ("hsts-not-set".toList, "CWE-319".toList, "Cleartext Transmission of Sensitive Information".toList),
  ("content-type-options-not-nosniff".toList, "CWE-693".toList, "Protection Mechanism Failure".toList),
  ("content-security-policy-not-set".toList, "CWE-693".toList, "Protection Mechanism Failure".toList),
  ("frame-protection-not-set".toList, "CWE-1021".toList, "Improper Restriction of Rendered UI Layers".toList),
  ("cleartext-remote-administration".toList, "CWE-319".toList, "Cleartext Transmission of Sensitive Information".toList),
  ("cleartext-file-transfer".toList, "CWE-319".toList, "Cleartext Transmission of Sensitive Information".toList),
  ("service-version-disclosed".toList, "CWE-200".toList,
    "Exposure of Sensitive Information to an Unauthorized Actor".toList),
  ("certificate-expired".toList, "CWE-295".toList, "Improper Certificate Validation".toList),
  ("certificate-not-trusted".toList, "CWE-295".toList, "Improper Certificate Validation".toList)]

/-- A finding with its mapping and its hash. -/
structure Mapped where
  finding : Finding
  external_id : Text
  title : Text
  digest : Text

/-- `_framework_mappings`, before they are numbered. -/
def framework_mappings (findings : List Finding) (hashes : List (Nat × Text)) : List Mapped :=
  findings.filterMap fun finding => do
    let mapping ← RULE_MAPPINGS.lookup finding.rule_id
    let digest ← hashes.lookup finding.id
    return ⟨finding, mapping.1, mapping.2, digest⟩

def framework_mapping (run : Run) (id : Nat) (mapped : Mapped) : FrameworkMapping where
  id := id
  correlation_run_id := run.id
  dockyard_id := run.dockyard_id
  finding_id := mapped.finding.id
  framework := FRAMEWORK
  external_id := mapped.external_id
  title := mapped.title
  basis := "Fixed RedDock mapping for detector rule ".toList ++ mapped.finding.detector ++ "/".toList ++ mapped.finding.rule_id ++
    ".".toList
  mapping_version := VERSION
  evidence_sha256 := mapped.digest

/-! ### The graph -/

def asset_node_id (asset_id : Nat) : Text := "asset:".toList ++ dec asset_id
def finding_node_id (finding_id : Nat) : Text := "finding:".toList ++ dec finding_id

def asset_node (asset : Asset) : Node where
  id := asset_node_id asset.id
  kind := "asset".toList
  label := asset.display_name
  subtitle := asset.asset_type

def finding_node (finding : Finding) : Node where
  id := finding_node_id finding.id
  kind := "finding".toList
  label := finding.title
  subtitle := finding.rule_id
  status := some finding.status
  severity := some finding.severity

def relationship_edge (row : AssetRelationship) : Edge where
  id := "asset-relationship:".toList ++ dec row.id
  source := asset_node_id row.source_asset_id
  target := asset_node_id row.target_asset_id
  kind := "asset_relationship".toList
  label := row.relationship_type
  confidence := row.confidence
  basis := row.basis
  evidence_sha256 := if row.evidence_sha256.isEmpty then [] else [row.evidence_sha256]

/-- The edge of a finding to its asset, where it has one and a hash. -/
def subject_edge (hashes : List (Nat × Text)) (finding : Finding) : Option Edge := do
  let asset_id ← finding.asset_id
  let digest ← hashes.lookup finding.id
  return {
    id := "finding-subject:".toList ++ dec finding.id
    source := asset_node_id asset_id
    target := finding_node_id finding.id
    kind := "finding_subject".toList
    label := "supported finding".toList
    confidence := finding.confidence
    basis := "Finding #".toList ++ dec finding.id ++ " cites observations attached to asset #".toList ++ dec asset_id ++ ".".toList
    evidence_sha256 := [digest] }

def correlation_edge (row : FindingCorrelation) : Edge where
  id := "finding-correlation:".toList ++ dec row.id
  source := finding_node_id row.source_finding_id
  target := finding_node_id row.target_finding_id
  kind := "finding_correlation".toList
  label := row.relationship_type
  confidence := row.confidence
  basis := row.basis
  evidence_sha256 := [row.source_evidence_sha256, row.target_evidence_sha256].filter (!·.isEmpty)

def mapping_document (row : FrameworkMapping) : Mapping where
  id := row.id
  finding_id := row.finding_id
  framework := row.framework
  external_id := row.external_id
  title := row.title
  basis := row.basis
  mapping_version := row.mapping_version
  evidence_sha256 := row.evidence_sha256

/-- `_graph_document` -/
def graph_document (assets : List Asset) (findings : List Finding) (hashes : List (Nat × Text)) (rows : Store) : Graph where
  nodes := assets.map asset_node ++ findings.map finding_node
  edges := rows.asset_relationships.map relationship_edge ++ findings.filterMap (subject_edge hashes) ++
    rows.finding_correlations.map correlation_edge
  mappings := rows.framework_mappings.map mapping_document

/-! ### The run -/

/-- The findings with an edge to their asset. -/
def subject_edge_count (findings : List Finding) (hashes : List (Nat × Text)) : Nat :=
  findings.countP fun finding => finding.asset_id.isSome && supported hashes finding

/-- The rows of a run, numbered after those that are stored. -/
def numbered_rows (run : Run) (store : Store) (hashes : List (Nat × Text)) (relations : List Relation) (correlations : List Call)
    (mappings : List Mapped) : Store where
  asset_relationships := numbered (asset_relationship run) (fresh (store.asset_relationships.map (·.id))) relations
  finding_correlations := numbered (finding_correlation run hashes) (fresh (store.finding_correlations.map (·.id))) correlations
  framework_mappings := numbered (framework_mapping run) (fresh (store.framework_mappings.map (·.id))) mappings

section
variable (settings : Settings)

/-- `_perform` up to its evidence, from what it has read: the rows it adds and
    the graph of them, or why it is rejected. -/
def derive (run : Run) (store : Store) (assets : List Asset) (findings : List Finding) (hashes : List (Nat × Text))
    (relations : List Relation) : Except Text (Store × Graph) :=
  let relationships := numbered (asset_relationship run) (fresh (store.asset_relationships.map (·.id))) relations
  let fixed_edge_count := relationships.length + subject_edge_count findings hashes
  if settings.max_correlation_edges < fixed_edge_count then .error (too_many_edges settings)
  else do
    let correlations ← finding_correlations settings findings hashes relationships (settings.max_correlation_edges - fixed_edge_count)
    let rows := numbered_rows run store hashes relations correlations (framework_mappings findings hashes)
    return (rows, graph_document assets findings hashes rows)

def within_inputs (assets : List Asset) (findings : List Finding) : Except Text Unit :=
  if settings.max_correlation_assets < assets.length then
    .error ("Correlation input has ".toList ++ dec assets.length ++ " assets; fixed limit is ".toList ++
      dec settings.max_correlation_assets)
  else if settings.max_correlation_findings < findings.length then
    .error ("Correlation input has ".toList ++ dec findings.length ++ " findings; fixed limit is ".toList ++
      dec settings.max_correlation_findings)
  else .ok ()

/-- `_perform` on one state of the database. -/
def perform (db : Database) (store : Store) (run : Run) : Except Text (Store × Graph) := do
  let assets := assets_of db run.dockyard_id
  let findings := findings_of db run.dockyard_id
  within_inputs settings assets findings
  derive settings run store assets findings (finding_hashes db findings) (relations db run.dockyard_id assets)

/-- How a run ends. -/
inductive Outcome
  | completed (graph : Graph)
  | rejected (error : Text)
  /-- Writing its evidence or its last authorization has raised. -/
  | failed

def Store.append (store rows : Store) : Store where
  asset_relationships := store.asset_relationships ++ rows.asset_relationships
  finding_correlations := store.finding_correlations ++ rows.finding_correlations
  framework_mappings := store.framework_mappings ++ rows.framework_mappings

/-- `_execute`: the rows are committed with the run, or rolled back. -/
def execute (db : Database) (store : Store) (run : Run) (published : Bool) : Store × Outcome :=
  match perform settings db store run with
  | .error error => (store, .rejected (error.take 500))
  | .ok (rows, graph) => if published then (store.append rows, .completed graph) else (store, .failed)

end
end RedDock.Correlation
