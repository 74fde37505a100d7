import RedDock.Detection

/-!
# Assets, services and observations

The rows discovery writes. Assets and services are reconciled with what is
known; observations are appended. Every function maps the tables before it to
the tables after it.
-/
set_option autoImplicit false
namespace RedDock.Inventory
open Text Detection

/-! ### What an adapter reports -/

inductive AssetType
  | host
  | web
  deriving DecidableEq, Repr

def AssetType.str : AssetType → Text
  | host => "host".toList
  | web => "web".toList

inductive Confidence
  | observed
  | reported
  deriving DecidableEq, Repr

def Confidence.str : Confidence → Text
  | observed => "observed".toList
  | reported => "reported".toList

structure DiscoveredService where
  transport : Text
  port : Nat
  state : Text
  service_name : Option Text := none
  product : Option Text := none
  version : Option Text := none
  deriving DecidableEq

structure DiscoveredAsset where
  asset_type : AssetType
  identity : Text
  display_name : Text
  ip_address : Option Text := none
  hostname : Option Text := none
  services : List DiscoveredService := []
  deriving DecidableEq

structure DiscoveredObservation where
  observation_type : Text
  summary : Text
  confidence : Confidence
  asset_identity : Option Text := none
  service_port : Option (Text × Nat) := none
  detail : Option (List (Text × Json)) := none

structure RawArtifact where
  name : Text
  media_type : Text
  content : List UInt8

structure AdapterResult where
  assets : List DiscoveredAsset := []
  observations : List DiscoveredObservation := []
  artifacts : List RawArtifact := []
  tool_version : Option Text := none
  invocation : List Text := []

/-! ### Rows -/

structure Asset where
  id : Nat
  dockyard_id : Nat
  asset_type : Text
  identity : Text
  display_name : Text
  ip_address : Option Text
  hostname : Option Text
  first_seen : Nat
  last_seen : Nat
  deriving DecidableEq

structure Service where
  id : Nat
  asset_id : Nat
  transport : Text
  port : Nat
  state : Text
  service_name : Option Text
  product : Option Text
  version : Option Text
  first_seen : Nat
  last_seen : Nat
  deriving DecidableEq

structure Observation where
  id : Nat
  dockyard_id : Nat
  discovery_run_id : Nat
  asset_id : Option Nat
  service_id : Option Nat
  adapter : Text
  observation_type : Text
  summary : Text
  detail : Option (List (Text × Json))
  confidence : Text
  raw_reference : Text
  observed_at : Nat

structure EvidenceRecord where
  id : Nat
  dockyard_id : Nat
  discovery_run_id : Nat
  kind : Text
  relative_path : Text
  media_type : Text
  size_bytes : Nat
  sha256 : Text
  truncated : Bool
  deriving DecidableEq

structure Tables where
  assets : List Asset := []
  services : List Service := []
  observations : List Observation := []
  evidence_records : List EvidenceRecord := []

/-- The id of the next row. -/
def fresh (ids : List Nat) : Nat := ids.foldr max 0 + 1

theorem lt_fresh {ids : List Nat} {id : Nat} (member : id ∈ ids) : id < fresh ids := by
  induction ids with
  | nil => simp at member
  | cons first ids ih =>
    simp only [fresh, List.foldr_cons] at ih ⊢
    rcases List.mem_cons.mp member with rfl | later
    · omega
    · have := ih later
      omega

/-- `value or other`, for optional texts. -/
def or_else : Option Text → Option Text → Option Text
  | some (c :: cs), _ => some (c :: cs)
  | _, other => other

/-- `bool(value)` -/
def truthy (value : Option Text) : Bool := value.any fun t => !t.isEmpty

/-! ### Reconciling -/

def OPEN_SERVICE_STATES : List Text := ["open".toList, "open|filtered".toList]

/-- What `upsert_asset` makes of a known asset. -/
def refresh_asset (discovered : DiscoveredAsset) (seen_at : Nat) (asset : Asset) : Asset :=
  { asset with
    last_seen := seen_at
    ip_address := or_else discovered.ip_address asset.ip_address
    hostname := or_else discovered.hostname asset.hostname
    display_name := if !discovered.display_name.isEmpty && asset.display_name = asset.identity then discovered.display_name
      else asset.display_name }

def new_asset (id dockyard_id : Nat) (discovered : DiscoveredAsset) (seen_at : Nat) : Asset where
  id := id
  dockyard_id := dockyard_id
  asset_type := discovered.asset_type.str
  identity := discovered.identity
  display_name := discovered.display_name
  ip_address := discovered.ip_address
  hostname := discovered.hostname
  first_seen := seen_at
  last_seen := seen_at

/-- `upsert_asset`: the id of the asset, and the tables it leaves. -/
def upsert_asset (dockyard_id : Nat) (discovered : DiscoveredAsset) (seen_at : Nat) (tables : Tables) : Nat × Tables :=
  match tables.assets.find? fun asset =>
    asset.dockyard_id = dockyard_id && asset.asset_type = discovered.asset_type.str && asset.identity = discovered.identity with
  | none =>
    let id := fresh (tables.assets.map (·.id))
    (id, { tables with assets := tables.assets ++ [new_asset id dockyard_id discovered seen_at] })
  | some known => (known.id, { tables with
      assets := tables.assets.map fun asset => if asset.id = known.id then refresh_asset discovered seen_at asset else asset })

/-- An identification: a name, a product or a version. -/
def DiscoveredService.identified (discovered : DiscoveredService) : Bool :=
  truthy discovered.service_name || truthy discovered.product || truthy discovered.version

/-- What `upsert_service` makes of a known service. -/
def refresh_service (discovered : DiscoveredService) (seen_at : Nat) (service : Service) : Service :=
  let reopened := !decide (service.state ∈ OPEN_SERVICE_STATES) && decide (discovered.state ∈ OPEN_SERVICE_STATES)
  let seen := { service with last_seen := seen_at, state := discovered.state }
  if discovered.identified then
    { seen with
      service_name := discovered.service_name
      product := discovered.product
      version := discovered.version }
  else if reopened then { seen with service_name := none, product := none, version := none }
  else seen

def new_service (id asset_id : Nat) (discovered : DiscoveredService) (seen_at : Nat) : Service where
  id := id
  asset_id := asset_id
  transport := discovered.transport
  port := discovered.port
  state := discovered.state
  service_name := discovered.service_name
  product := discovered.product
  version := discovered.version
  first_seen := seen_at
  last_seen := seen_at

/-- `upsert_service`: the id of the service, unless there is no row for it. -/
def upsert_service (asset_id : Nat) (discovered : DiscoveredService) (seen_at : Nat) (tables : Tables) : Option Nat × Tables :=
  match tables.services.find? fun service =>
    service.asset_id = asset_id && service.transport = discovered.transport && service.port = discovered.port with
  | none =>
    if discovered.state ∉ OPEN_SERVICE_STATES then (none, tables)
    else
      let id := fresh (tables.services.map (·.id))
      (some id, { tables with services := tables.services ++ [new_service id asset_id discovered seen_at] })
  | some known => (some known.id, { tables with
      services := tables.services.map fun service =>
        if service.id = known.id then refresh_service discovered seen_at service else service })

/-- What `record_observation` is called with besides the observation. -/
structure Recording where
  dockyard_id : Nat
  run_id : Nat
  adapter : Text
  observed_at : Nat
  raw_reference : Text

def new_observation (id : Nat) (recording : Recording) (asset_id service_id : Option Nat) (discovered : DiscoveredObservation) :
    Observation where
  id := id
  dockyard_id := recording.dockyard_id
  discovery_run_id := recording.run_id
  asset_id := asset_id
  service_id := service_id
  adapter := recording.adapter
  observation_type := discovered.observation_type
  summary := discovered.summary.take 500
  detail := discovered.detail
  confidence := discovered.confidence.str
  raw_reference := recording.raw_reference
  observed_at := recording.observed_at

def record_observation (recording : Recording) (asset_id service_id : Option Nat) (discovered : DiscoveredObservation)
    (tables : Tables) : Tables :=
  { tables with
    observations := tables.observations ++
      [new_observation (fresh (tables.observations.map (·.id))) recording asset_id service_id discovered] }

end RedDock.Inventory
