import RedDock.Inventory

/-!
# Detection snapshots

`build_context`: the recorded rows of one Dockyard as a detector sees them,
within fixed bounds.
-/
set_option autoImplicit false
namespace RedDock.Snapshots
open Text Detection Inventory

structure Limits where
  max_detection_assets : Nat := 2000
  max_detection_services : Nat := 20000
  max_detection_observations : Nat := 20000

/-- `SnapshotLimitExceeded` -/
def exceeded (limit : Nat) (what : String) : Text :=
  "Detection snapshot exceeds the ".toList ++ dec limit ++ (" " ++ what ++ " safety limit").toList

def service_view (service : Service) : ServiceView where
  id := service.id
  asset_id := service.asset_id
  transport := service.transport
  port := service.port
  state := service.state
  service_name := service.service_name
  product := service.product
  version := service.version

def asset_view (services : List ServiceView) (asset : Asset) : AssetView where
  id := asset.id
  asset_type := asset.asset_type
  identity := asset.identity
  display_name := asset.display_name
  services := services.filter fun service => service.asset_id = asset.id

def observation_view (observation : Observation) : ObservationView where
  id := observation.id
  discovery_run_id := some observation.discovery_run_id
  asset_id := observation.asset_id.map Int.ofNat
  service_id := observation.service_id.map Int.ofNat
  observation_type := observation.observation_type
  observed_at := observation.observed_at
  detail := observation.detail.getD []

section
variable (limits : Limits)

/-- `_assets` -/
def assets (tables : Tables) (dockyard_id : Nat) : Except Text (List AssetView) :=
  let rows := (tables.assets.filter fun asset => asset.dockyard_id = dockyard_id).insertionSort fun a b => a.id ≤ b.id
  if limits.max_detection_assets < rows.length then .error (exceeded limits.max_detection_assets "asset")
  else
    let services := (tables.services.filter fun service => service.asset_id ∈ rows.map (·.id)).insertionSort fun a b => a.id ≤ b.id
    if limits.max_detection_services < services.length then .error (exceeded limits.max_detection_services "service")
    else .ok (rows.map (asset_view (services.map service_view)))

/-- `_observations`, oldest first. -/
def observations (tables : Tables) (dockyard_id : Nat) : Except Text (List ObservationView) :=
  let rows := (tables.observations.filter fun observation => observation.dockyard_id = dockyard_id).insertionSort
    fun a b => a.id ≤ b.id
  if limits.max_detection_observations < rows.length then .error (exceeded limits.max_detection_observations "observation")
  else .ok (rows.map observation_view)

/-- `build_context` -/
def build_context (tables : Tables) (dockyard_id generated_at : Nat) (lookup : Option (Text → Text → List CveReference)) :
    Except Text DetectionContext := do
  let assets ← assets limits tables dockyard_id
  let observations ← observations limits tables dockyard_id
  return { generated_at := generated_at, assets := assets, observations := observations, lookup := lookup }

end
end RedDock.Snapshots
