import RedDock.Publications
import RedDock.NmapReport
import RedDock.HttpProbe
import RedDock.StoredRules

/-!
# The widths of the columns

A database that holds texts to the widths of their columns refuses the statement
that would leave a longer one, and with it everything the run has found. So the
tables are looked at after every statement of a run.
-/
set_option autoImplicit false
namespace RedDock.ColumnWidths
open Text Targets DockGuard Inventory Transactions Publishing Publications Fallible
open NmapReport (Strings Element Ports Port Report Reported PORT_STATES)
open HttpProbe (ProbeOutcome)
open Canonical (Written normalize_target_form addressTarget networkTarget nameTarget originTarget scheme_cases)
open IpText (str_length)

/-! ### Rows within their columns -/

/-- A text, if there is one, no longer than its column. -/
def Within (width : Nat) (value : Option Text) : Prop := ∀ text, value = some text → text.length ≤ width

theorem within_none (width : Nat) : Within width none := fun _ is => by cases is

theorem within_some {width : Nat} {text : Text} : Within width (some text) ↔ text.length ≤ width :=
  ⟨fun within => within text rfl, fun short _ is => by cases is; exact short⟩

theorem within_or_else {width : Nat} {value other : Option Text} (first : Within width value) (second : Within width other) :
    Within width (or_else value other) := by
  unfold or_else
  split
  · exact first
  · exact second

structure AssetFits (asset : Asset) : Prop where
  asset_type : asset.asset_type.length ≤ 16
  identity : asset.identity.length ≤ 255
  display_name : asset.display_name.length ≤ 255
  ip_address : Within 45 asset.ip_address
  hostname : Within 253 asset.hostname

structure ServiceFits (service : Service) : Prop where
  transport : service.transport.length ≤ 8
  state : service.state.length ≤ 16
  service_name : Within 64 service.service_name
  product : Within 128 service.product
  version : Within 64 service.version

structure ObservationFits (observation : Observation) : Prop where
  adapter : observation.adapter.length ≤ 32
  observation_type : observation.observation_type.length ≤ 32
  summary : observation.summary.length ≤ 500
  confidence : observation.confidence.length ≤ 16
  raw_reference : observation.raw_reference.length ≤ 255

/-- Every row is within its columns. -/
structure Fits (tables : Tables) : Prop where
  assets : ∀ asset ∈ tables.assets, AssetFits asset
  services : ∀ service ∈ tables.services, ServiceFits service
  observations : ∀ observation ∈ tables.observations, ObservationFits observation

/-! ### The statements of a run -/

/-- The tables after each service of an asset. -/
def service_writes (asset_id observed_at : Nat) : List DiscoveredService → Tables → List Tables
  | [], _ => []
  | discovered :: services, tables =>
    let written := (upsert_service asset_id discovered observed_at tables).2
    written :: service_writes asset_id observed_at services written

/-- The tables after each asset and service. -/
def asset_writes (dockyard_id observed_at : Nat) : List DiscoveredAsset → Ids → Tables → List Tables
  | [], _, _ => []
  | discovered :: assets, ids, tables =>
    let upserted := upsert_asset dockyard_id discovered observed_at tables
    let reconciled := reconcile_asset dockyard_id observed_at ids discovered tables
    upserted.2 :: service_writes upserted.1 observed_at discovered.services upserted.2 ++
      asset_writes dockyard_id observed_at assets reconciled.1 reconciled.2

/-- The tables after each observation. -/
def observation_writes (recording : Recording) (ids : Ids) : List DiscoveredObservation → Tables → List Tables
  | [], _ => []
  | observation :: observations, tables =>
    let written := record_observation recording (subject ids observation).1 (subject ids observation).2 observation tables
    written :: observation_writes recording ids observations written

/-- The tables after each statement of a run. -/
def writes (run : RunRow) (evaluation : Evaluation) (result : AdapterResult) (observed_at : Nat) (tables : Tables) : List Tables :=
  let reconciled := reconcile run.dockyard_id observed_at result.assets tables
  asset_writes run.dockyard_id observed_at result.assets {} tables ++
    observation_writes (recording run observed_at) reconciled.1 (run_observations run evaluation result) reconciled.2

theorem reconcile_service_tables (identity : Text) (asset_id observed_at : Nat) (ids : Ids) (discovered : DiscoveredService)
    (tables : Tables) :
    (reconcile_service identity asset_id observed_at ids discovered tables).2 =
      (upsert_service asset_id discovered observed_at tables).2 := by
  unfold reconcile_service
  split
  · rename_i upserted
    rw [upserted]
  · rename_i upserted
    rw [upserted]

/-- The services of an asset leave the last of their tables. -/
theorem service_writes_last (identity : Text) (asset_id observed_at : Nat) (services : List DiscoveredService) (ids : Ids)
    (tables : Tables) :
    (foldlState (reconcile_service identity asset_id observed_at) services ids tables).2 ∈
      tables :: service_writes asset_id observed_at services tables := by
  induction services generalizing ids tables with
  | nil => exact List.mem_cons_self
  | cons discovered services ih =>
    have later := ih (reconcile_service identity asset_id observed_at ids discovered tables).1
      (reconcile_service identity asset_id observed_at ids discovered tables).2
    refine List.mem_cons_of_mem _ ?_
    rw [reconcile_service_tables] at later
    rw [foldlState, reconcile_service_tables]
    exact later

theorem asset_writes_last (dockyard_id observed_at : Nat) (assets : List DiscoveredAsset) (ids : Ids) (tables : Tables) :
    (foldlState (reconcile_asset dockyard_id observed_at) assets ids tables).2 ∈
      tables :: asset_writes dockyard_id observed_at assets ids tables := by
  induction assets generalizing ids tables with
  | nil => exact List.mem_cons_self
  | cons discovered assets ih =>
    have here := service_writes_last discovered.identity (upsert_asset dockyard_id discovered observed_at tables).1 observed_at
      discovered.services
      { ids with assets := (discovered.identity, (upsert_asset dockyard_id discovered observed_at tables).1) :: ids.assets }
      (upsert_asset dockyard_id discovered observed_at tables).2
    refine List.mem_cons_of_mem _ ?_
    rcases List.mem_cons.mp (ih (reconcile_asset dockyard_id observed_at ids discovered tables).1
      (reconcile_asset dockyard_id observed_at ids discovered tables).2) with last | later
    · refine List.mem_append_left _ ?_
      show (foldlState (reconcile_asset dockyard_id observed_at) assets _ _).2 ∈ _
      rw [last]
      exact here
    · exact List.mem_append_right _ later

theorem observation_writes_last (recording : Recording) (ids : Ids) (observations : List DiscoveredObservation) (tables : Tables) :
    record_all recording ids observations tables ∈ tables :: observation_writes recording ids observations tables := by
  induction observations generalizing tables with
  | nil => exact List.mem_cons_self
  | cons observation observations ih => exact List.mem_cons_of_mem _ (ih _)

/-- The rows that are published are those after the last statement. -/
theorem writes_last (run : RunRow) (evaluation : Evaluation) (result : AdapterResult) (observed_at : Nat) (tables : Tables) :
    record_all (recording run observed_at) (reconcile run.dockyard_id observed_at result.assets tables).1
        (run_observations run evaluation result) (reconcile run.dockyard_id observed_at result.assets tables).2 ∈
      tables :: writes run evaluation result observed_at tables := by
  have reconciled := asset_writes_last run.dockyard_id observed_at result.assets {} tables
  rcases List.mem_cons.mp (observation_writes_last (recording run observed_at)
    (reconcile run.dockyard_id observed_at result.assets tables).1 (run_observations run evaluation result)
    (reconcile run.dockyard_id observed_at result.assets tables).2) with last | later
  · rw [last]
    rcases List.mem_cons.mp reconciled with first | earlier
    · exact List.mem_cons.mpr (Or.inl first)
    · exact List.mem_cons_of_mem _ (List.mem_append_left _ earlier)
  · exact List.mem_cons_of_mem _ (List.mem_append_right _ later)

/-! ### One service -/

/-- A service whose texts fit their columns. -/
structure ShortService (discovered : DiscoveredService) : Prop where
  transport : discovered.transport.length ≤ 8
  service_name : Within 64 discovered.service_name
  product : Within 128 discovered.product
  version : Within 64 discovered.version

/-- Only what is open is written whole. -/
def Storable (discovered : DiscoveredService) : Prop := discovered.state ∈ OPEN_SERVICE_STATES → ShortService discovered

/-- A service as adapters report it. -/
structure Shaped (discovered : DiscoveredService) : Prop where
  state : discovered.state.length ≤ 16
  reported : Reported discovered

section
variable {asset_id observed_at : Nat} {discovered : DiscoveredService} {tables : Tables}

theorem refresh_service_fits {service : Service} (before : ServiceFits service) (shaped : Shaped discovered)
    (storable : Storable discovered) : ServiceFits (refresh_service discovered observed_at service) := by
  unfold refresh_service
  simp only
  split
  · rename_i identified
    have short := storable (shaped.reported.identified_open identified)
    exact ⟨before.transport, shaped.state, short.service_name, short.product, short.version⟩
  split
  · exact ⟨before.transport, shaped.state, within_none _, within_none _, within_none _⟩
  · exact ⟨before.transport, shaped.state, before.service_name, before.product, before.version⟩

/-- What is open is written with its identification. -/
theorem upsert_service_writes (asset_id observed_at : Nat) (tables : Tables) (is_open : discovered.state ∈ OPEN_SERVICE_STATES) :
    ∃ row ∈ (upsert_service asset_id discovered observed_at tables).2.services, row.transport = discovered.transport ∧
      (discovered.identified = true → row.service_name = discovered.service_name ∧ row.product = discovered.product ∧
        row.version = discovered.version) := by
  unfold upsert_service
  split
  · simp only [is_open, not_true_eq_false, if_false]
    exact ⟨_, List.mem_append_right _ (List.mem_singleton.mpr rfl), rfl, fun _ => ⟨rfl, rfl, rfl⟩⟩
  · rename_i known found
    have same := List.find?_some found
    simp only [Bool.and_eq_true, decide_eq_true_eq] at same
    refine ⟨refresh_service discovered observed_at known,
      List.mem_map.mpr ⟨known, List.mem_of_find?_eq_some found, if_pos rfl⟩, ?_, fun identified => ?_⟩
    · rw [← same.1.2]
      unfold refresh_service
      simp only
      split
      · rfl
      · split <;> rfl
    · unfold refresh_service
      simp only [identified, if_true, and_self]

/-- A service is written within the columns exactly when what is open is short. -/
theorem service_written (asset_id observed_at : Nat) (fits : Fits tables) (shaped : Shaped discovered) :
    Fits (upsert_service asset_id discovered observed_at tables).2 ↔ Storable discovered := by
  constructor
  · intro written is_open
    obtain ⟨row, member, transport, identification⟩ :=
      upsert_service_writes asset_id observed_at tables is_open
    have row_fits := written.services row member
    have short_transport : discovered.transport.length ≤ 8 := transport ▸ row_fits.transport
    cases identified : discovered.identified with
    | true =>
      obtain ⟨name, product, version⟩ := identification identified
      exact ⟨short_transport, name ▸ row_fits.service_name, product ▸ row_fits.product, version ▸ row_fits.version⟩
    | false =>
      obtain ⟨name, product, version⟩ := shaped.reported.plain identified
      exact ⟨short_transport, name ▸ within_none _, product ▸ within_none _, version ▸ within_none _⟩
  · intro storable
    have observations := (upsert_service_frame asset_id observed_at discovered tables).1
    have assets : (upsert_service asset_id discovered observed_at tables).2.assets = tables.assets := by
      unfold upsert_service
      split
      · split <;> rfl
      · rfl
    refine ⟨assets ▸ fits.assets, fun service member => ?_, observations ▸ fits.observations⟩
    unfold upsert_service at member
    split at member
    · split at member
      · exact fits.services service member
      · rename_i is_open
        rcases List.mem_append.mp member with old | new
        · exact fits.services service old
        · have short := storable (not_not.mp is_open)
          rw [List.mem_singleton.mp new]
          exact ⟨short.transport, shaped.state, short.service_name, short.product, short.version⟩
    · obtain ⟨before, there, is⟩ := List.mem_map.mp member
      rw [← is]
      split
      · exact refresh_service_fits (fits.services before there) shaped storable
      · exact fits.services before there

theorem service_writes_fit (asset_id observed_at : Nat) {services : List DiscoveredService} (fits : Fits tables) (shaped : ∀ service ∈ services, Shaped service) :
    (∀ t ∈ service_writes asset_id observed_at services tables, Fits t) ↔ ∀ service ∈ services, Storable service := by
  induction services generalizing tables with
  | nil => simp [service_writes]
  | cons discovered services ih =>
    obtain ⟨first, rest⟩ := List.forall_mem_cons.mp shaped
    have here := service_written asset_id observed_at fits first
    simp only [service_writes, List.forall_mem_cons, here]
    refine and_congr_right fun storable => ih (here.mpr storable) rest

end

/-! ### One asset -/

/-- An asset whose texts fit their columns. -/
structure ShortAsset (discovered : DiscoveredAsset) : Prop where
  identity : discovered.identity.length ≤ 255
  display_name : discovered.display_name.length ≤ 255
  ip_address : Within 45 discovered.ip_address
  hostname : Within 253 discovered.hostname

/-- An asset as adapters report it: its names are short where its identity and
    its address are. -/
structure Named (discovered : DiscoveredAsset) : Prop where
  short : discovered.identity.length ≤ 255 → Within 45 discovered.ip_address → ShortAsset discovered
  services : ∀ service ∈ discovered.services, Shaped service

section
variable {dockyard_id observed_at : Nat} {discovered : DiscoveredAsset} {tables : Tables}

theorem refresh_asset_fits {asset : Asset} (before : AssetFits asset) (short : ShortAsset discovered) :
    AssetFits (refresh_asset discovered observed_at asset) where
  asset_type := before.asset_type
  identity := before.identity
  display_name := by
    unfold refresh_asset
    simp only
    split
    · exact short.display_name
    · exact before.display_name
  ip_address := within_or_else short.ip_address before.ip_address
  hostname := within_or_else short.hostname before.hostname

/-- An asset is written with its identity and its address. -/
theorem upsert_asset_writes (dockyard_id observed_at : Nat) (discovered : DiscoveredAsset) (tables : Tables) : ∃ row ∈ (upsert_asset dockyard_id discovered observed_at tables).2.assets,
    row.identity = discovered.identity ∧ (truthy discovered.ip_address = true → row.ip_address = discovered.ip_address) := by
  unfold upsert_asset
  split
  · exact ⟨_, List.mem_append_right _ (List.mem_singleton.mpr rfl), rfl, fun _ => rfl⟩
  · rename_i known found
    have same := List.find?_some found
    simp only [Bool.and_eq_true, decide_eq_true_eq] at same
    refine ⟨refresh_asset discovered observed_at known,
      List.mem_map.mpr ⟨known, List.mem_of_find?_eq_some found, if_pos rfl⟩, same.2, fun given => ?_⟩
    unfold refresh_asset or_else
    simp only
    split
    · rename_i is
      exact is.symm
    · rename_i other
      cases address : discovered.ip_address with
      | none => simp [truthy, address] at given
      | some text =>
        cases text with
        | nil => simp [truthy, address] at given
        | cons c cs => exact absurd address (other c cs)

/-- An asset is written within the columns exactly when it is short. -/
theorem asset_written (dockyard_id observed_at : Nat) (fits : Fits tables) (named : Named discovered) :
    Fits (upsert_asset dockyard_id discovered observed_at tables).2 ↔ ShortAsset discovered := by
  constructor
  · intro written
    obtain ⟨row, member, identity, address⟩ :=
      upsert_asset_writes dockyard_id observed_at discovered tables
    have row_fits := written.assets row member
    refine named.short (identity ▸ row_fits.identity) fun text is => ?_
    cases text with
    | nil => simp
    | cons c cs =>
      have written_address := address (by simp [truthy, is])
      exact row_fits.ip_address _ (written_address.trans is)
  · intro short
    have observations := (upsert_asset_frame dockyard_id observed_at discovered tables).1
    have services : (upsert_asset dockyard_id discovered observed_at tables).2.services = tables.services := by
      unfold upsert_asset
      split <;> rfl
    refine ⟨fun asset member => ?_, services ▸ fits.services, observations ▸ fits.observations⟩
    unfold upsert_asset at member
    split at member
    · rcases List.mem_append.mp member with old | new
      · exact fits.assets asset old
      · rw [List.mem_singleton.mp new]
        refine ⟨?_, short.identity, short.display_name, short.ip_address, short.hostname⟩
        show discovered.asset_type.str.length ≤ 16
        cases discovered.asset_type <;> decide
    · obtain ⟨before, there, is⟩ := List.mem_map.mp member
      rw [← is]
      split
      · exact refresh_asset_fits (fits.assets before there) short
      · exact fits.assets before there

theorem asset_writes_fit (dockyard_id observed_at : Nat) (ids : Ids) {assets : List DiscoveredAsset} (fits : Fits tables) (named : ∀ asset ∈ assets, Named asset) :
    (∀ t ∈ asset_writes dockyard_id observed_at assets ids tables, Fits t) ↔
      ∀ asset ∈ assets, ShortAsset asset ∧ ∀ service ∈ asset.services, Storable service := by
  induction assets generalizing ids tables with
  | nil => simp [asset_writes]
  | cons discovered assets ih =>
    obtain ⟨first, rest⟩ := List.forall_mem_cons.mp named
    have here := asset_written dockyard_id observed_at fits first
    simp only [asset_writes, List.cons_append, List.forall_mem_cons, List.forall_mem_append, here, and_assoc]
    refine and_congr_right fun short => ?_
    have there := service_writes_fit (upsert_asset dockyard_id discovered observed_at tables).1 observed_at (here.mpr short) first.services
    rw [← there]
    refine and_congr_right fun written => ih _ ?_ rest
    rcases List.mem_cons.mp (service_writes_last discovered.identity _ observed_at discovered.services _ _) with last | later
    · exact last ▸ here.mpr short
    · exact written _ later

end

/-! ### A run -/

/-- A run whose own row is stored: its adapter fits its column, and the keys are
    integers of the database. -/
structure Stored (run : RunRow) : Prop where
  adapter : run.adapter.length ≤ 32
  id : run.id < 2 ^ 63
  dockyard_id : run.dockyard_id < 2 ^ 63

theorem observation_writes_fit {recording : Recording} {ids : Ids} {observations : List DiscoveredObservation} {tables : Tables}
    (adapter : recording.adapter.length ≤ 32) (reference : recording.raw_reference.length ≤ 255)
    (typed : ∀ observation ∈ observations, observation.observation_type.length ≤ 32) (fits : Fits tables) :
    ∀ t ∈ observation_writes recording ids observations tables, Fits t := by
  induction observations generalizing tables with
  | nil => simp [observation_writes]
  | cons observation observations ih =>
    obtain ⟨first, rest⟩ := List.forall_mem_cons.mp typed
    have here : Fits (record_observation recording (subject ids observation).1 (subject ids observation).2 observation tables) := by
      refine ⟨fits.assets, fits.services, fun row member => ?_⟩
      rcases List.mem_append.mp member with old | new
      · exact fits.observations row old
      · rw [List.mem_singleton.mp new]
        refine ⟨adapter, first, List.length_take_le _ _, ?_, reference⟩
        show observation.confidence.str.length ≤ 16
        cases observation.confidence <;> decide
    exact List.forall_mem_cons.mpr ⟨here, ih rest here⟩

theorem raw_reference_short {run : RunRow} (stored : Stored run) (observed_at : Nat) :
    (recording run observed_at).raw_reference.length ≤ 255 := by
  have id : (dec run.id).length ≤ 19 := dec_length_le (by decide) (by have := stored.id; omega)
  have dockyard : (dec run.dockyard_id).length ≤ 19 := dec_length_le (by decide) (by have := stored.dockyard_id; omega)
  show (dec run.dockyard_id ++ "/".toList ++ dec run.id).length ≤ 255
  have slash : "/".toList.length = 1 := rfl
  simp only [List.length_append, slash]
  omega

/-- The statements of a run are within the columns exactly when its assets and
    their open services are short. -/
theorem writes_fit {run : RunRow} {evaluation : Evaluation} {result : AdapterResult} {observed_at : Nat} {tables : Tables}
    (stored : Stored run) (fits : Fits tables) (named : ∀ asset ∈ result.assets, Named asset)
    (typed : ∀ observation ∈ result.observations, observation.observation_type.length ≤ 32) :
    (∀ t ∈ writes run evaluation result observed_at tables, Fits t) ↔
      ∀ asset ∈ result.assets, ShortAsset asset ∧ ∀ service ∈ asset.services, Storable service := by
  have assets := asset_writes_fit run.dockyard_id observed_at {} fits named
  have kinds : ∀ observation ∈ run_observations run evaluation result, observation.observation_type.length ≤ 32 := by
    unfold run_observations
    split
    · exact typed
    · exact List.forall_mem_cons.mpr ⟨by show "dns_resolution".toList.length ≤ 32; decide, typed⟩
  rw [← assets, writes, List.forall_mem_append]
  refine and_iff_left_of_imp fun written => ?_
  refine observation_writes_fit stored.adapter (raw_reference_short stored observed_at) kinds ?_
  rcases List.mem_cons.mp (asset_writes_last run.dockyard_id observed_at result.assets {} tables) with last | later
  · rw [reconcile, last]
    exact fits
  · exact written _ later

/-! ### What nmap reports -/

/-- The texts of an open port are within the columns. -/
def PortFits (strings : Strings) (port : Element) : Prop :=
  ∀ state_element, port.find "state" = some state_element →
    (state_element.get "state").getD "unknown".toList ∈ OPEN_SERVICE_STATES →
    (∃ number, NmapReport.port_number strings (port.get "portid") = .ok (some number)) →
    ((port.get "protocol").getD "tcp".toList).length ≤ 8 ∧
      Within 64 ((NmapReport.identified_service port).lookup "name".toList) ∧
      Within 128 ((NmapReport.identified_service port).lookup "product".toList) ∧
      Within 64 ((NmapReport.identified_service port).lookup "version".toList)

/-- So is the address of a host that is up, with its open ports. -/
def HostFits (strings : Strings) (host : Element) : Prop :=
  ∀ address, NmapReport.host_address host = some address →
    ((host.find "status").bind (·.get "state")).getD "unknown".toList = "up".toList →
    address.length ≤ 45 ∧ ∀ port ∈ host.findall_in "ports" "port", PortFits strings port

def DocumentFits (strings : Strings) (document : Element) : Prop := ∀ host ∈ document.findall "host", HostFits strings host

/-- What is collected of a host: known states and types of observations. -/
structure Typed (ports : Ports) : Prop where
  states : ∀ service ∈ ports.services, service.state ∈ PORT_STATES
  observations : ∀ observation ∈ ports.observations, observation.observation_type.length ≤ 32

section
variable {strings : Strings} {address : Text} {ports ports' : Ports}

theorem append_port_typed {port : Port} (known : port.state ∈ PORT_STATES) (typed : Typed ports)
    (ran : NmapReport.append_port strings address ports port = .ok ports') : Typed ports' := by
  unfold NmapReport.append_port at ran
  split at ran
  · cases ran
  cases ran
  refine ⟨List.forall_mem_append.mpr ⟨typed.states, List.forall_mem_singleton.mpr known⟩,
    List.forall_mem_append.mpr ⟨typed.observations, List.forall_mem_cons.mpr ⟨?_, fun observation member => ?_⟩⟩⟩
  · show "port_state".toList.length ≤ 32
    decide
  · split at member
    · cases member
    · rw [List.mem_singleton.mp member]
      show "service_identified".toList.length ≤ 32
      decide

theorem append_port_storable {port : Port} (ran : NmapReport.append_port strings address ports port = .ok ports') :
    (∀ service ∈ ports'.services, Storable service) ↔
      (∀ service ∈ ports.services, Storable service) ∧ Storable (NmapReport.discovered_service port) := by
  unfold NmapReport.append_port at ran
  split at ran
  · cases ran
  cases ran
  rw [List.forall_mem_append, List.forall_mem_singleton]

theorem normalize_port_step {port : Element} (typed : Typed ports)
    (ran : NmapReport.normalize_port strings address ports port = .ok ports') :
    Typed ports' ∧ ((∀ service ∈ ports'.services, Storable service) ↔
      (∀ service ∈ ports.services, Storable service) ∧ PortFits strings port) := by
  unfold NmapReport.normalize_port at ran
  split at ran
  · rename_i absent
    cases ran
    exact ⟨typed, (and_iff_left fun state_element is => by rw [absent] at is; cases is).symm⟩
  rename_i state_element is_state
  obtain ⟨number, read, ran⟩ := bind_eq_ok.mp ran
  split at ran
  · cases ran
    refine ⟨typed, (and_iff_left fun _ _ _ numbered => ?_).symm⟩
    obtain ⟨number, is⟩ := numbered
    rw [read] at is
    cases is
  rename_i number
  simp only at ran
  split at ran
  · rename_i unknown
    cases ran
    refine ⟨typed, (and_iff_left fun element is is_open => ?_).symm⟩
    rw [is_state] at is
    cases is
    exact absurd (List.mem_append_left _ is_open) unknown
  rename_i known
  refine ⟨append_port_typed (not_not.mp known) typed ran, (append_port_storable ran).trans (and_congr_right fun _ => ?_)⟩
  constructor
  · intro storable element is is_open _
    rw [is_state] at is
    cases is
    have short := storable is_open
    simp only [NmapReport.discovered_service, Port.get, if_pos is_open] at short
    exact ⟨short.transport, short.service_name, short.product, short.version⟩
  · intro fits is_open
    have is_open : (state_element.get "state").getD "unknown".toList ∈ OPEN_SERVICE_STATES := is_open
    obtain ⟨transport, name, product, version⟩ := fits state_element is_state is_open ⟨number, read⟩
    simp only [NmapReport.discovered_service, Port.get, if_pos is_open]
    exact ⟨transport, name, product, version⟩

/-- A compacted port is TCP and identifies nothing. -/
theorem normalize_summary_step {state : Text} {reason : Element} (known : state ∈ PORT_STATES) (typed : Typed ports)
    (ran : NmapReport.normalize_summary strings address state ports reason = .ok ports') :
    Typed ports' ∧ ((∀ service ∈ ports'.services, Storable service) ↔ ∀ service ∈ ports.services, Storable service) := by
  unfold NmapReport.normalize_summary at ran
  split at ran
  · split at ran
    · cases ran
      exact ⟨typed, Iff.rfl⟩
    rename_i transport raw_ports _ _ is_tcp
    obtain ⟨numbers, _, ran⟩ := bind_eq_ok.mp ran
    split at ran
    · cases ran
    split at ran
    · cases ran
    split at ran
    · cases ran
    split at ran
    · cases ran
    have each := foldlM_forall (Q := fun _ => True) (fun collected number after (typed : Typed collected) ran =>
      ⟨append_port_typed known typed ran, (append_port_storable ran).trans (and_congr_right fun _ => ?_)⟩) typed ran
    · exact ⟨each.1, each.2.trans (and_iff_left fun _ _ => trivial)⟩
    · refine iff_of_true (fun _ => ⟨?_, within_none _, within_none _, within_none _⟩) trivial
      show transport.length ≤ 8
      rw [not_not.mp is_tcp]
      decide
  · cases ran
    exact ⟨typed, Iff.rfl⟩

theorem normalize_extra_step {extra : Element} (typed : Typed ports)
    (ran : NmapReport.normalize_extra strings address ports extra = .ok ports') :
    Typed ports' ∧ ((∀ service ∈ ports'.services, Storable service) ↔ ∀ service ∈ ports.services, Storable service) := by
  unfold NmapReport.normalize_extra at ran
  simp only at ran
  split at ran
  · cases ran
    exact ⟨typed, Iff.rfl⟩
  rename_i known
  have each := foldlM_forall (Q := fun _ => True) (fun collected reason after (typed : Typed collected) ran =>
    (normalize_summary_step (not_not.mp known) typed ran).imp_right fun same => same.trans (and_iff_left trivial).symm) typed ran
  exact ⟨each.1, each.2.trans (and_iff_left fun _ _ => trivial)⟩

theorem normalize_ports_step {host : Element} (ran : NmapReport.normalize_ports strings host address = .ok ports) :
    Typed ports ∧ ((∀ service ∈ ports.services, Storable service) ↔
      ∀ port ∈ host.findall_in "ports" "port", PortFits strings port) := by
  obtain ⟨listed, first, second⟩ := bind_eq_ok.mp ran
  have empty : Typed {} := ⟨(fun _ none => by cases none), (fun _ none => by cases none)⟩
  have direct := foldlM_forall (fun _ _ _ typed ran => normalize_port_step typed ran) empty first
  have compacted := foldlM_forall (Q := fun _ => True) (fun _ _ _ (typed : Typed _) ran =>
    (normalize_extra_step typed ran).imp_right fun same => same.trans (and_iff_left trivial).symm) direct.1 second
  refine ⟨compacted.1, (compacted.2.trans (and_iff_left fun _ _ => trivial)).trans (direct.2.trans ?_)⟩
  exact and_iff_right fun service none => by cases none

end

theorem port_state_short : ∀ state ∈ PORT_STATES, state.length ≤ 16 := by decide +kernel

/-- What a report has of its hosts. -/
structure TypedReport (report : Report) : Prop where
  assets : ∀ asset ∈ report.assets, Named asset
  observations : ∀ observation ∈ report.observations, observation.observation_type.length ≤ 32

theorem host_asset_named {hostname : Option Text} (address : Text) {services : List DiscoveredService} (short : Within 253 hostname)
    (shaped : ∀ service ∈ services, Shaped service) : Named (NmapReport.host_asset hostname address services) where
  short := by
    intro identity fits
    refine ⟨identity, ?_, fits, short⟩
    show ((or_else hostname (some address)).getD []).length ≤ 255
    unfold or_else
    split
    · exact (within_some.mp short).trans (by decide)
    · exact identity
  services := shaped

section
variable {strings : Strings} {hostname : Option Text}

theorem normalize_host_step {report report' : Report} {host : Element} (short : Within 253 hostname) (typed : TypedReport report)
    (ran : NmapReport.normalize_host strings hostname report host = .ok report') :
    TypedReport report' ∧ ((∀ asset ∈ report'.assets, ShortAsset asset ∧ ∀ service ∈ asset.services, Storable service) ↔
      (∀ asset ∈ report.assets, ShortAsset asset ∧ ∀ service ∈ asset.services, Storable service) ∧ HostFits strings host) := by
  unfold NmapReport.normalize_host at ran
  split at ran
  · rename_i absent
    cases ran
    exact ⟨typed, (and_iff_left fun address is => by rw [absent] at is; cases is).symm⟩
  rename_i address is_address
  simp only at ran
  split at ran
  · rename_i down
    cases ran
    exact ⟨typed, (and_iff_left fun _ _ up => absurd up down).symm⟩
  rename_i up
  obtain ⟨ports, normalized, ran⟩ := bind_eq_ok.mp ran
  cases ran
  obtain ⟨collected, storable⟩ := normalize_ports_step normalized
  have aligned := NmapReport.normalize_ports_aligned normalized
  have shaped : ∀ service ∈ ports.services, Shaped service := fun service member =>
    ⟨port_state_short _ (collected.states service member),
      aligned.reported (address, service) (List.mem_map.mpr ⟨service, member, rfl⟩)⟩
  have named := host_asset_named address short shaped
  refine ⟨⟨List.forall_mem_append.mpr ⟨typed.assets, List.forall_mem_singleton.mpr named⟩,
    List.forall_mem_append.mpr ⟨typed.observations, List.forall_mem_cons.mpr ⟨?_, collected.observations⟩⟩⟩, ?_⟩
  · show "host_responded".toList.length ≤ 32
    decide
  · rw [List.forall_mem_append, List.forall_mem_singleton]
    refine and_congr_right fun _ => ?_
    constructor
    · rintro ⟨fits, services⟩ other is _
      rw [is_address] at is
      cases is
      exact ⟨within_some.mp fits.ip_address, storable.mp services⟩
    · intro fits
      obtain ⟨at_most, services⟩ := fits address is_address (not_not.mp up)
      exact ⟨named.short (at_most.trans (by decide)) (within_some.mpr at_most), storable.mpr services⟩

/-- The assets of a report are short exactly when its document is. -/
theorem normalize_step {document : Element} {report : Report} (short : Within 253 hostname)
    (ran : NmapReport.normalize strings document hostname = .ok report) :
    TypedReport report ∧ ((∀ asset ∈ report.assets, ShortAsset asset ∧ ∀ service ∈ asset.services, Storable service) ↔
      DocumentFits strings document) := by
  have empty : TypedReport {} := ⟨(fun _ none => by cases none), (fun _ none => by cases none)⟩
  have each := foldlM_forall (fun _ _ _ typed ran => normalize_host_step short typed ran) empty ran
  exact ⟨each.1, each.2.trans (and_iff_right fun _ none => by cases none)⟩

end

/-! ### Admitted targets -/

/-- What is short of every target. -/
structure ShortTarget (u : Unicode) (target : Target) : Prop where
  hostname : target.is_named u = true → target.host.length ≤ 253
  scheme : Within 64 target.scheme
  present : target.scheme ≠ some []

theorem written_short {host written : Text} (is_written : Written host written) : host.length ≤ 253 := by
  cases is_written with
  | name name => exact name.short
  | v4 usable _ => exact (str_length usable.plain).trans (by decide)
  | v6 usable _ => exact (str_length usable.plain).trans (by decide)

theorem target_short {u : Unicode} {raw : Text} {target : Target} (normal : normalize_target u raw = .ok target) :
    ShortTarget u target := by
  cases normalize_target_form normal with
  | address usable =>
    rename_i a
    refine ⟨fun named => ?_, within_none _, by simp [addressTarget]⟩
    cases a <;> simp [Target.is_named, addressTarget, address_kind, IPAddress.version] at named
  | network usable =>
    rename_i n
    refine ⟨fun named => ?_, within_none _, by simp [networkTarget]⟩
    cases n <;> simp [Target.is_named, networkTarget, network_kind, IPNetwork.version] at named
  | name name => exact ⟨fun _ => name.short, within_none _, by simp [nameTarget]⟩
  | origin known is_written _ _ =>
    rename_i scheme host written default port
    refine ⟨fun _ => written_short is_written, within_some.mpr ?_, ?_⟩
    · rcases scheme_cases known with rfl | rfl <;> decide
    · rcases scheme_cases known with rfl | rfl <;> simp [originTarget]

/-- What the probe reports of an origin. -/
theorem web_asset_named {u : Unicode} {target : Target} (short : ShortTarget u target) (address : Text) :
    Named (HttpProbe.web_asset u target address) where
  short := by
    intro identity fits
    refine ⟨identity, identity, fits, ?_⟩
    show Within 253 (if target.is_named u then some target.host else none)
    split
    · rename_i named
      exact within_some.mpr (short.hostname named)
    · exact within_none _
  services := by
    refine List.forall_mem_singleton.mpr ⟨by show "open".toList.length ≤ 16; decide, ?_, fun plain => ?_⟩
    · exact fun _ => List.mem_cons_self
    · refine ⟨?_, rfl, rfl⟩
      show target.scheme = none
      cases is : target.scheme with
      | none => rfl
      | some text =>
        cases text with
        | nil => exact absurd is short.present
        | cons c cs => simp [DiscoveredService.identified, truthy, is] at plain

/-- The host name a scan knows. -/
def scanned_name (u : Unicode) (target : Target) : Option Text := if target.is_named u then some target.host else none

def nmap_result (report : Report) : AdapterResult where
  assets := report.assets
  observations := report.observations

def http_result (u : Unicode) (target : Target) (address : Text) (outcome : ProbeOutcome) : AdapterResult where
  assets := (HttpProbe.normalize u target address outcome).1
  observations := (HttpProbe.normalize u target address outcome).2

section
variable {u : Unicode} {target : Target} {run : RunRow} {tables : Tables}

theorem nmap_rows_fit (short : ShortTarget u target) (stored : Stored run) (fits : Fits tables) {strings : Strings}
    {document : Element} {report : Report} (ran : NmapReport.normalize strings document (scanned_name u target) = .ok report)
    (evaluation : Evaluation) (observed_at : Nat) :
    (∀ t ∈ writes run evaluation (nmap_result report) observed_at tables, Fits t) ↔ DocumentFits strings document := by
  have hostname : Within 253 (scanned_name u target) := by
    unfold scanned_name
    split
    · rename_i named
      exact within_some.mpr (short.hostname named)
    · exact within_none _
  obtain ⟨typed, same⟩ := normalize_step hostname ran
  exact (writes_fit stored fits typed.assets typed.observations).trans same

theorem http_rows_fit (short : ShortTarget u target) (stored : Stored run) (fits : Fits tables) (address : Text)
    (outcome : ProbeOutcome) (evaluation : Evaluation) (observed_at : Nat) :
    (∀ t ∈ writes run evaluation (http_result u target address outcome) observed_at tables, Fits t) ↔
      (outcome.status ≠ none → target.value.length ≤ 255 ∧ address.length ≤ 45) := by
  have named := web_asset_named short address
  cases answered : outcome.status with
  | none =>
    refine (writes_fit stored fits ?_ ?_).trans ?_
    · simp [http_result, HttpProbe.normalize, answered]
    · simp only [http_result, HttpProbe.normalize, answered, List.forall_mem_singleton]
      show "endpoint_unreachable".toList.length ≤ 32
      decide
    · simp [http_result, HttpProbe.normalize, answered]
  | some status =>
    refine (writes_fit stored fits ?_ ?_).trans ?_
    · simpa [http_result, HttpProbe.normalize, answered] using named
    · simp only [http_result, HttpProbe.normalize, answered]
      refine List.forall_mem_append.mpr ⟨List.forall_mem_cons.mpr ⟨?_, fun observation member => ?_⟩, fun observation member => ?_⟩
      · show "http_response".toList.length ≤ 32
        decide
      · obtain ⟨header, _, rfl⟩ := List.mem_map.mp member
        show "http_header".toList.length ≤ 32
        decide
      · obtain ⟨tls, _, rfl⟩ := Option.map_eq_some_iff.mp (Option.mem_toList.mp member)
        show "tls_session".toList.length ≤ 32
        decide
    · have services : ∀ service ∈ (HttpProbe.web_asset u target address).services, Storable service :=
        List.forall_mem_singleton.mpr fun _ => ⟨by show "tcp".toList.length ≤ 8; decide, short.scheme, within_none _, within_none _⟩
      simp only [http_result, HttpProbe.normalize, answered, List.forall_mem_singleton, and_iff_left services]
      constructor
      · exact fun fits _ => ⟨fits.identity, within_some.mp fits.ip_address⟩
      · intro given
        obtain ⟨identity, at_most⟩ := given (by simp)
        exact named.short identity (within_some.mpr at_most)

/-- Every statement of a run leaves its rows within their columns exactly when
    the report of nmap is short, and for every response of a probed origin,
    whatever its headers, exactly when the origin and its address are. -/
theorem discovery_rows_fit_iff {raw : Text} (normal : normalize_target u raw = .ok target) (stored : Stored run) (fits : Fits tables)
    (evaluation : Evaluation) (observed_at : Nat) :
    (∀ strings document report, NmapReport.normalize strings document (scanned_name u target) = .ok report →
      ((∀ t ∈ writes run evaluation (nmap_result report) observed_at tables, Fits t) ↔ DocumentFits strings document)) ∧
    ∀ address outcome, (∀ t ∈ writes run evaluation (http_result u target address outcome) observed_at tables, Fits t) ↔
      (outcome.status ≠ none → target.value.length ≤ 255 ∧ address.length ≤ 45) := by
  have short := target_short normal
  exact ⟨fun strings document report ran => nmap_rows_fit short stored fits ran evaluation observed_at,
    fun address outcome => http_rows_fit short stored fits address outcome evaluation observed_at⟩

end

def ascii_strings : Strings where
  isdigit := fun text => !text.isEmpty && text.all Char.isDigit
  int := fun text => some (ofDec text)
  upper := fun text => text.map Char.toUpper

/-- A run of nmap on `10.0.0.1`. -/
def banner_target : Target := { kind := .ipv4, value := "10.0.0.1".toList, host := "10.0.0.1".toList }

def banner_run : RunRow where
  requested_target := "10.0.0.1".toList
  status := .running
  decision := .allowed
  decision_reason := []
  id := 1
  dockyard_id := 1
  adapter := "nmap".toList
  normalized_target := some "10.0.0.1".toList

def banner_evaluation : Evaluation where
  decision := .allowed
  target := "10.0.0.1".toList
  reason := []

/-- Port 80 reports a product of the given length. -/
def banner_document (length : Nat) : Element :=
  .node "nmaprun".toList [] [.node "host".toList []
    [.node "status".toList [("state".toList, "up".toList)] [],
      .node "address".toList [("addrtype".toList, "ipv4".toList), ("addr".toList, "10.0.0.1".toList)] [],
      .node "ports".toList [] [.node "port".toList [("protocol".toList, "tcp".toList), ("portid".toList, "80".toList)]
        [.node "state".toList [("state".toList, "open".toList)] [],
          .node "service".toList [("method".toList, "probed".toList), ("name".toList, "http".toList),
            ("product".toList, List.replicate length 'x')] []]]]]

theorem banner_stored : Stored banner_run := ⟨by decide, by decide, by decide⟩

theorem empty_fits : Fits {} := ⟨(fun _ none => by cases none), (fun _ none => by cases none), (fun _ none => by cases none)⟩

theorem banner_normal : normalize_target .plain "10.0.0.1".toList = .ok banner_target := by decide +kernel

/-- A product of 129 characters is written into a column of 128. -/
theorem long_banner_overflows : ∃ report,
    NmapReport.normalize ascii_strings (banner_document 129) (scanned_name .plain banner_target) = .ok report ∧
      ¬∀ t ∈ writes banner_run banner_evaluation (nmap_result report) 0 {}, Fits t := by
  have named : scanned_name .plain banner_target = none := by decide +kernel
  cases ran : NmapReport.normalize ascii_strings (banner_document 129) (scanned_name .plain banner_target) with
  | error raised =>
    have returns : (NmapReport.normalize ascii_strings (banner_document 129) none).isOk = true := by decide +kernel
    rw [← named, ran] at returns
    cases returns
  | ok report =>
    refine ⟨report, rfl, fun written => ?_⟩
    have fits := (nmap_rows_fit (target_short banner_normal) banner_stored empty_fits ran banner_evaluation 0).mp written
    obtain ⟨-, ports⟩ := fits _ (by exact List.mem_cons_self) "10.0.0.1".toList rfl rfl
    obtain ⟨-, -, product, -⟩ := ports _ (by exact List.mem_cons_self) _ rfl (by decide) ⟨80, rfl⟩
    have long := product (List.replicate 129 'x') rfl
    rw [List.length_replicate] at long
    exact absurd long (by decide)

/-- A response is stored. -/
theorem discovery_rows_fit_example :
    writes banner_run banner_evaluation (http_result .plain banner_target "10.0.0.1".toList { status := some 200 }) 0 {} ≠ [] ∧
      ∀ t ∈ writes banner_run banner_evaluation (http_result .plain banner_target "10.0.0.1".toList { status := some 200 }) 0 {}, Fits t :=
  ⟨List.cons_ne_nil _ _, ((discovery_rows_fit_iff banner_normal banner_stored empty_fits banner_evaluation 0).2 "10.0.0.1".toList
    { status := some 200 }).mpr fun _ => ⟨by decide, by decide⟩⟩

end RedDock.ColumnWidths
