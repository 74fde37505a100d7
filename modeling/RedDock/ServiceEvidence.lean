import RedDock.FailureAtomicity
import RedDock.Reconciliation
import RedDock.ServiceRules
import RedDock.Snapshots
import RedDock.Runs

/-!
# What a service rule cites

Runs of the nmap adapter publish in any order, each with the time its tool
answered. A finding of the service rules takes its claim from the service row
and its evidence from the latest observation; the two agree as long as no run
publishes an older identification over a newer one that differs.
-/
set_option autoImplicit false
namespace RedDock.ServiceEvidence
open Text DockGuard Inventory Transactions Publishing Publications NmapReport Reconciliation Snapshots
open Detection hiding Raised
open ServiceRules (newer not_before)

/-! ### The latest identification -/

/-- The identification of a service that the detector keeps. -/
def latest (observations : List Observation) (service_id : Nat) : Option ObservationView :=
  ((observations.map observation_view).filter fun observation =>
    observation.observation_type = ServiceRules.IDENTIFICATION && observation.service_id = some (service_id : Int)).foldl newer none

/-- Views of one time with growing ids, all of them after a view. -/
structure After (current : ObservationView) (time : Nat) (views : List ObservationView) : Prop where
  time : ∀ view ∈ views, view.observed_at = time
  ids : ∀ view ∈ views, current.id < view.id
  growing : views.Pairwise fun a b => a.id < b.id

theorem foldl_newer_some {current : ObservationView} {time : Nat} {views : List ObservationView} (later : After current time views) :
    (current.observed_at ≤ time → views.foldl newer (some current) = (current :: views).getLast?) ∧
      (time < current.observed_at → views.foldl newer (some current) = some current) := by
  induction views generalizing current with
  | nil => simp
  | cons view views ih =>
    have here := later.time view List.mem_cons_self
    have above := later.ids view List.mem_cons_self
    obtain ⟨heads, growing⟩ := List.pairwise_cons.mp later.growing
    have rest : ∀ view ∈ views, view.observed_at = time := fun _ member => later.time _ (List.mem_cons_of_mem _ member)
    constructor
    · intro older
      have replaces : not_before current view = true := by
        simp only [not_before, here, Bool.or_eq_true, Bool.and_eq_true, decide_eq_true_eq]
        omega
      have next := (ih ⟨rest, heads, growing⟩).1 (by omega)
      simpa [newer, replaces] using next
    · intro newest
      have stays : not_before current view = false := by
        simp only [not_before, here, Bool.or_eq_false_iff, Bool.and_eq_false_iff, decide_eq_false_iff_not]
        omega
      have next := (ih ⟨rest, fun _ member => later.ids _ (List.mem_cons_of_mem _ member), growing⟩).2 newest
      simpa [newer, stays] using next

/-! ### Observations that identify a service -/

/-- A detail carries a product and a version. -/
def Carries (detail : List (Text × Json)) (product version : Option Text) : Prop :=
  detail.lookup "product".toList = product.map Json.str ∧ detail.lookup "version".toList = version.map Json.str

theorem lookup_map_str (members : List (Text × Text)) (key : Text) :
    (members.map fun member => (member.1, Json.str member.2)).lookup key = (members.lookup key).map Json.str := by
  induction members with
  | nil => rfl
  | cons member members ih =>
    simp only [List.map_cons, List.lookup]
    split
    · rfl
    · exact ih

theorem details_carries (discovered : DiscoveredService) : Carries (details discovered) discovered.product discovered.version := by
  have members : details discovered = (fields discovered.service_name discovered.product discovered.version).map
      fun member => (member.1, Json.str member.2) := by
    unfold details fields present
    cases discovered.service_name <;> cases discovered.product <;> cases discovered.version <;> rfl
  have found : (fields discovered.service_name discovered.product discovered.version).lookup "name".toList = discovered.service_name ∧
      (fields discovered.service_name discovered.product discovered.version).lookup "product".toList = discovered.product ∧
      (fields discovered.service_name discovered.product discovered.version).lookup "version".toList = discovered.version :=
    present_lookup (by decide) (by decide) (by decide) _ _ _
  refine ⟨?_, ?_⟩
  · rw [members, lookup_map_str, found.2.1]
  · rw [members, lookup_map_str, found.2.2]

/-- The service an identified socket got in a run. -/
def socket_service (ids : Ids) (socket : Socket) : Option Nat := if socket.1 = [] then none else ids.services.lookup socket

theorem identification_subject (ids : Ids) {observation : DiscoveredObservation} {socket : Socket} {detail : List (Text × Json)}
    (identified : identification observation = some (socket, detail)) :
    observation.observation_type = NmapReport.IDENTIFICATION ∧ observation.detail = some detail ∧
      subject ids observation = (ids.assets.lookup socket.1, socket_service ids socket) := by
  unfold identification at identified
  split at identified
  · rename_i identity transport port members asset_identity service_port recorded
    split at identified
    · rename_i kind
      cases identified
      refine ⟨kind, recorded, ?_⟩
      simp only [subject, asset_identity, service_port, socket_service, Option.getD_some]
      cases identity <;> simp
    · simp at identified
  · simp at identified

/-- The observations of a run that identify a service. -/
def citing (ids : Ids) (service_id : Nat) (observations : List DiscoveredObservation) : List DiscoveredObservation :=
  observations.filter fun observation =>
    observation.observation_type = NmapReport.IDENTIFICATION && (subject ids observation).2 = some service_id

theorem citing_identifications {ids : Ids} {service_id : Nat} {observations : List DiscoveredObservation}
    (named : ∀ observation ∈ observations, observation.observation_type = NmapReport.IDENTIFICATION →
      (identification observation).isSome = true) :
    (citing ids service_id observations).filterMap identification =
      (observations.filterMap identification).filter fun found => socket_service ids found.1 = some service_id := by
  induction observations with
  | nil => rfl
  | cons observation observations ih =>
    obtain ⟨here, rest⟩ := List.forall_mem_cons.mp named
    have tail := ih rest
    unfold citing at tail ⊢
    cases identified : identification observation with
    | none =>
      have other : observation.observation_type ≠ NmapReport.IDENTIFICATION := by
        intro kind
        have some := here kind
        rw [identified] at some
        cases some
      rw [List.filter_cons_of_neg (by simp [other]), List.filterMap_cons_none identified]
      exact tail
    | some found =>
      obtain ⟨socket, detail⟩ := found
      obtain ⟨kind, _, is⟩ := identification_subject ids identified
      rw [List.filterMap_cons_some identified]
      by_cases own : socket_service ids socket = some service_id
      · rw [List.filter_cons_of_pos (by simp [kind, is, own]), List.filter_cons_of_pos (by simp [own]),
          List.filterMap_cons_some identified, tail]
      · rw [List.filter_cons_of_neg (by simp [kind, is, own]), List.filter_cons_of_neg (by simp [own])]
        exact tail

/-- The identified services of a socket. -/
theorem identifications_of_socket (services : List (Text × DiscoveredService)) (socket : Socket) :
    ((services.filterMap fun service => service_identification service.1 service.2).filter fun found => found.1 = socket) =
      (services.filter fun service => socket_of service = socket && service.2.identified).map
        fun service => (socket_of service, details service.2) := by
  induction services with
  | nil => rfl
  | cons service services ih =>
    cases identified : service.2.identified with
    | false => simpa [service_identification, identified] using ih
    | true =>
      by_cases own : socket_of service = socket
      · have same : (service.1, service.2.transport, service.2.port) = socket := own
        simpa [service_identification, identified, own, same] using ih
      · have other : (service.1, service.2.transport, service.2.port) ≠ socket := own
        simpa [service_identification, identified, own, other] using ih

/-! ### Consistent tables -/

/-- The rows of a Dockyard's discovery: what identifies a service names its
    host, and the latest identification carries the product and version of the
    service row, unless the row has none. -/
structure Consistent (tables : Tables) : Prop where
  keyed : Keyed tables
  growing : (tables.observations.map (·.id)).Pairwise (· < ·)
  cited : ∀ row ∈ tables.observations, row.observation_type = NmapReport.IDENTIFICATION → ∀ service_id, row.service_id = some service_id →
    ∃ asset_id identity port, identity ≠ [] ∧ row.asset_id = some asset_id ∧
      (asset_id, host row.dockyard_id identity) ∈ asset_keys tables ∧ (service_id, asset_id, port) ∈ service_keys tables
  supported : ∀ service ∈ tables.services, ∀ observation, latest tables.observations service.id = some observation →
    identity_of service = blank ∨ Carries observation.detail service.product service.version

/-- Whatever a run identifies has no newer identification, unless that one
    carries the same product and version. -/
def Ordered (tables : Tables) (dockyard_id : Nat) (result : AdapterResult) (observed_at : Nat) : Prop :=
  ∀ service_id observation, latest tables.observations service_id = some observation →
    ∀ asset_id (socket : Socket), (service_id, asset_id, socket.2) ∈ service_keys tables →
      (asset_id, host dockyard_id socket.1) ∈ asset_keys tables →
        ∀ discovered, last (reported_services result.assets) socket = some discovered →
          observation.observed_at ≤ observed_at ∨ Carries observation.detail discovered.product discovered.version

theorem foldl_newer_mem {current : Option ObservationView} {views : List ObservationView} {view : ObservationView}
    (folded : views.foldl newer current = some view) : view ∈ views ∨ current = some view := by
  induction views generalizing current with
  | nil => exact Or.inr folded
  | cons first views ih =>
    rcases ih folded with later | here
    · exact Or.inl (List.mem_cons_of_mem _ later)
    · unfold newer at here
      split at here
      · cases here
        exact Or.inl List.mem_cons_self
      · split at here
        · cases here
          exact Or.inl List.mem_cons_self
        · exact Or.inr here

theorem latest_mem {observations : List Observation} {service_id : Nat} {observation : ObservationView}
    (found : latest observations service_id = some observation) : ∃ row ∈ observations, observation = observation_view row ∧
      row.observation_type = NmapReport.IDENTIFICATION ∧ row.service_id = some service_id := by
  rcases foldl_newer_mem found with member | nothing
  · obtain ⟨inside, matching⟩ := List.mem_filter.mp member
    obtain ⟨row, listed, rfl⟩ := List.mem_map.mp inside
    simp only [Bool.and_eq_true, decide_eq_true_eq] at matching
    have viewed : row.service_id.map Int.ofNat = some (service_id : Int) := matching.2
    obtain ⟨id, service, same⟩ := Option.map_eq_some_iff.mp viewed
    exact ⟨row, listed, rfl, matching.1, by rw [service, Int.ofNat.inj same]⟩
  · cases nothing

/-- The rows that identify a service. -/
def identifying (service_id : Nat) (rows : List Observation) : List Observation :=
  rows.filter fun row => row.observation_type = NmapReport.IDENTIFICATION && row.service_id = some service_id

theorem latest_eq (observations : List Observation) (service_id : Nat) :
    latest observations service_id = ((identifying service_id observations).map observation_view).foldl newer none := by
  rw [latest, List.filter_map]
  congr 2
  refine List.filter_congr fun row _ => ?_
  have same : (row.service_id.map Int.ofNat = some (service_id : Int)) ↔ row.service_id = some service_id := by
    cases row.service_id with
    | none => simp
    | some id => simp
  rw [Bool.eq_iff_iff]
  simp only [Function.comp, Bool.and_eq_true, decide_eq_true_eq]
  exact and_congr_right fun _ => same

/-- How the identifications of one run change the latest one. -/
theorem latest_append {before rows : List Observation} {service_id time : Nat}
    (growing : ((before ++ rows).map (·.id)).Pairwise (· < ·)) (times : ∀ row ∈ rows, row.observed_at = time) :
    (identifying service_id rows = [] → latest (before ++ rows) service_id = latest before service_id) ∧
      ∀ row, (identifying service_id rows).getLast? = some row →
        ((∀ old, latest before service_id = some old → old.observed_at ≤ time) →
          latest (before ++ rows) service_id = some (observation_view row)) ∧
        ∀ old, latest before service_id = some old → time < old.observed_at → latest (before ++ rows) service_id = some old := by
  have split : latest (before ++ rows) service_id =
      ((identifying service_id rows).map observation_view).foldl newer (latest before service_id) := by
    rw [latest_eq, latest_eq, identifying, List.filter_append, List.map_append, List.foldl_append]
    rfl
  rw [List.map_append] at growing
  obtain ⟨_, later_ids, across⟩ := List.pairwise_append.mp growing
  have views : ∀ view ∈ (identifying service_id rows).map observation_view, view.observed_at = time := by
    intro view member
    obtain ⟨row, listed, rfl⟩ := List.mem_map.mp member
    exact times row (List.mem_filter.mp listed).1
  have pairs : ((identifying service_id rows).map observation_view).Pairwise fun a b => a.id < b.id := by
    rw [List.pairwise_map]
    refine ((List.pairwise_map.mp later_ids).sublist List.filter_sublist).imp ?_
    intro a b less
    exact Int.ofNat_lt.mpr less
  have above : ∀ old, latest before service_id = some old → After old time ((identifying service_id rows).map observation_view) := by
    intro old found
    obtain ⟨row, listed, rfl, _⟩ := latest_mem found
    refine ⟨views, fun view member => ?_, pairs⟩
    obtain ⟨other, inside, rfl⟩ := List.mem_map.mp member
    exact Int.ofNat_lt.mpr (across _ (List.mem_map_of_mem listed) _ (List.mem_map_of_mem (List.mem_filter.mp inside).1))
  refine ⟨fun nothing => by rw [split, nothing]; rfl, fun row final => ⟨fun older => ?_, fun old found newest => ?_⟩⟩
  · rw [split]
    have final_view : ((identifying service_id rows).map observation_view).getLast? = some (observation_view row) := by
      rw [List.getLast?_map, final]
      rfl
    cases found : latest before service_id with
    | some old =>
      rw [(foldl_newer_some (above old found)).1 (older old found), List.getLast?_cons, final_view]
      rfl
    | none =>
      generalize (identifying service_id rows).map observation_view = mine at views pairs final_view
      cases mine with
      | nil => simp at final_view
      | cons first mine =>
        obtain ⟨heads, pairs⟩ := List.pairwise_cons.mp pairs
        have rest : After first time mine := ⟨fun _ member => views _ (List.mem_cons_of_mem _ member), heads, pairs⟩
        have all := (foldl_newer_some rest).1 (views first List.mem_cons_self).le
        rw [List.foldl_cons, show newer none first = some first from rfl, all]
        exact final_view
  · rw [split, found]
    exact (foldl_newer_some (above old found)).2 newest

/-! ### What one run publishes -/

section
variable {before tables : Tables} {dockyard_id : Nat} {services : List (Text × DiscoveredService)} {ids : Ids}
  {recording : Recording} {observations : List DiscoveredObservation} {rows : List Observation}

/-- An identified socket of the run belongs to the service it is recorded for. -/
theorem socket_at (state : Reconciled before tables dockyard_id services ids) {socket : Socket} {service : Service}
    (member : service ∈ tables.services) (found : socket_service ids socket = some service.id) :
    socket.1 ≠ [] ∧ At tables dockyard_id service socket := by
  unfold socket_service at found
  split at found
  · cases found
  rename_i named
  obtain ⟨asset_id, asset, key⟩ := state.sockets _ (lookup_mem found)
  have own := state.services_once.value (key_mem member) key
  rw [Prod.mk.injEq] at own
  exact ⟨named, own.1.symm ▸ asset, own.2.symm⟩

/-- An identified service of the run is recorded under its socket. -/
theorem at_socket (state : Reconciled before tables dockyard_id services ids) {reported : Text × DiscoveredService}
    (listed : reported ∈ services) (identified : reported.2.identified = true) (named : reported.1 ≠ []) {service : Service}
    (member : service ∈ tables.services) (here : At tables dockyard_id service (socket_of reported)) :
    socket_service ids (socket_of reported) = some service.id := by
  obtain ⟨id, found⟩ := Option.isSome_iff_exists.mp (state.found reported listed identified).2
  obtain ⟨asset_id, asset, key⟩ := state.sockets _ (lookup_mem found)
  have owner := state.assets_once.id asset here.asset
  have own := state.services_once.id (key_mem member) ((owner ▸ here.port ▸ key : (id, service.asset_id, service.transport, service.port) ∈ _))
  rw [socket_service, if_neg (show (socket_of reported).1 ≠ [] from named), found, own]

theorem last_isSome_of_mem {reported : Text × DiscoveredService} (listed : reported ∈ services)
    (identified : reported.2.identified = true) : last services (socket_of reported) ≠ none := by
  intro nothing
  rw [last, Option.map_eq_none_iff, List.getLast?_eq_none_iff] at nothing
  have inside : reported ∈ services.filter fun other => socket_of other = socket_of reported && other.2.identified :=
    List.mem_filter.mpr ⟨listed, by simp [identified]⟩
  rw [nothing] at inside
  cases inside

theorem identification_mem {found : Socket × List (Text × Json)}
    (member : found ∈ services.filterMap fun service => service_identification service.1 service.2) :
    ∃ reported ∈ services, reported.2.identified = true ∧ found = (socket_of reported, details reported.2) := by
  obtain ⟨reported, listed, is⟩ := List.mem_filterMap.mp member
  unfold service_identification at is
  split at is
  · rename_i identified
    cases is
    exact ⟨reported, listed, identified, rfl⟩
  · cases is

theorem citing_rows (recorded : List.Forall₂ (Records recording ids) observations rows) (service_id : Nat) :
    List.Forall₂ (Records recording ids) (citing ids service_id observations) (identifying service_id rows) :=
  Fallible.forall₂_filter (fun observation row records => by rw [records.kind, records.service]) recorded

theorem citing_identified (aligned : Aligned services observations) {service_id : Nat} :
    ∀ observation ∈ citing ids service_id observations, (identification observation).isSome = true := by
  intro observation member
  obtain ⟨listed, cites⟩ := List.mem_filter.mp member
  rw [Bool.and_eq_true, decide_eq_true_eq] at cites
  exact aligned.named observation listed cites.1

/-- A run that identifies no socket of a service records nothing that
    identifies it. -/
theorem identifying_none (state : Reconciled before tables dockyard_id services ids) (aligned : Aligned services observations)
    (recorded : List.Forall₂ (Records recording ids) observations rows) {service : Service} (member : service ∈ tables.services)
    (nothing : ∀ socket, socket.1 ≠ [] → At tables dockyard_id service socket → last services socket = none) :
    identifying service.id rows = [] := by
  have found : (citing ids service.id observations).filterMap identification = [] := by
    rw [citing_identifications aligned.named, aligned.together, List.filter_eq_nil_iff]
    intro found listed cites
    obtain ⟨reported, inside, identified, rfl⟩ := identification_mem listed
    obtain ⟨named, here⟩ := socket_at state member (of_decide_eq_true cites)
    exact last_isSome_of_mem inside identified (nothing _ named here)
  have none_cited : citing ids service.id observations = [] := by
    rw [List.eq_nil_iff_forall_not_mem]
    intro observation cited
    have some := citing_identified aligned observation cited
    rw [List.filterMap_eq_nil_iff.mp found observation cited] at some
    cases some
  have same := (citing_rows recorded service.id).length_eq
  rw [none_cited] at same
  exact List.length_eq_zero_iff.mp same.symm

/-- The last row of a run that identifies a service has the details of the last
    report of its socket. -/
theorem identifying_last (state : Reconciled before tables dockyard_id services ids) (aligned : Aligned services observations)
    (recorded : List.Forall₂ (Records recording ids) observations rows) {service : Service} (member : service ∈ tables.services)
    {socket : Socket} (named : socket.1 ≠ []) (here : At tables dockyard_id service socket) {discovered : DiscoveredService}
    (reported : last services socket = some discovered) :
    ∃ row, (identifying service.id rows).getLast? = some row ∧ row.detail = some (details discovered) := by
  have found : (citing ids service.id observations).filterMap identification =
      (services.filter fun other => socket_of other = socket && other.2.identified).map
        fun other => (socket_of other, details other.2) := by
    rw [citing_identifications aligned.named, aligned.together, ← identifications_of_socket]
    refine List.filter_congr fun found listed => decide_eq_decide.mpr ⟨fun cites => ?_, fun same => ?_⟩
    · exact At.unique state.assets_once (socket_at state member cites).2 here
    · obtain ⟨other, inside, identified, rfl⟩ := identification_mem listed
      have same : socket_of other = socket := same
      refine at_socket state inside identified ?_ member (same ▸ here)
      rw [← same] at named
      exact named
  obtain ⟨last_reported, is, rfl⟩ := Option.map_eq_some_iff.mp reported
  have ends : ((citing ids service.id observations).filterMap identification).getLast? =
      some (socket_of last_reported, details last_reported.2) := by
    rw [found, List.getLast?_map, is]
    rfl
  rw [Fallible.filterMap_last (citing_identified aligned)] at ends
  obtain ⟨observation, final, identified⟩ := Option.bind_eq_some_iff.mp ends
  obtain ⟨row, final_row, records⟩ := Fallible.forall₂_last (citing_rows recorded service.id) final
  exact ⟨row, final_row, by rw [records.detail, (identification_subject ids identified).2.1]⟩

end

/-- The resolution a run relied on identifies nothing. -/
theorem run_observations_aligned {services : List (Text × DiscoveredService)} {result : AdapterResult}
    (aligned : Aligned services result.observations) (run : RunRow) (evaluation : Evaluation) :
    Aligned services (run_observations run evaluation result) := by
  unfold run_observations
  split
  · exact aligned
  · have resolution : Aligned [] [resolution_observation run evaluation] := by
      refine aligned_other ?_
      show "dns_resolution".toList ≠ NmapReport.IDENTIFICATION
      decide
    exact resolution.append aligned

/-- What a run publishes in order keeps the tables consistent. -/
theorem published_consistent {tables : Tables} (consistent : Consistent tables) {run : RunRow} {result : AdapterResult}
    {evaluation : Evaluation} {observed_at : Nat} {stored : List StoredArtifact}
    (aligned : AlignedReport ⟨result.assets, result.observations⟩) (ordered : Ordered tables run.dockyard_id result observed_at) :
    Consistent (published run result (run_observations run evaluation result) observed_at stored tables) := by
  have state := reconcile_reconciled consistent.keyed run.dockyard_id observed_at aligned.1 aligned.2.reported
  have report := run_observations_aligned aligned.2 run evaluation
  generalize run_observations run evaluation result = observations at report ⊢
  simp only [published]
  generalize reconcile run.dockyard_id observed_at result.assets tables = reconciled at state ⊢
  obtain ⟨ids, after⟩ := reconciled
  simp only at state ⊢
  obtain ⟨same_assets, same_services, _, rows, appended, recorded, growing⟩ :=
    record_all_appends (recording run observed_at) ids observations after
  obtain ⟨last_assets, last_services, last_observations⟩ :=
    add_records_frame run stored (record_all (recording run observed_at) ids observations after)
  generalize add_records run stored (record_all (recording run observed_at) ids observations after) = final
    at last_assets last_services last_observations ⊢
  rw [same_assets] at last_assets
  rw [same_services] at last_services
  rw [appended, state.observations] at last_observations
  rw [state.observations] at growing
  have asset_keys_same : asset_keys final = asset_keys after := by rw [asset_keys, last_assets]; rfl
  have service_keys_same : service_keys final = service_keys after := by rw [service_keys, last_services]; rfl
  have increasing := growing consistent.growing
  have times : ∀ row ∈ rows, row.observed_at = observed_at := by
    intro row member
    obtain ⟨observation, _, records⟩ := Fallible.forall₂_right recorded member
    exact records.time
  refine ⟨?_, by rw [last_observations]; exact increasing, ?_, ?_⟩
  · refine ⟨by rw [asset_keys_same]; exact state.assets_once, by rw [service_keys_same]; exact state.services_once, ?_⟩
    rw [last_services, asset_keys_same]
    exact state.foreign
  · intro row member kind service_id cites
    rw [asset_keys_same, service_keys_same]
    rw [last_observations] at member
    rcases List.mem_append.mp member with old | new
    · obtain ⟨asset_id, identity, port, named, is, asset, service⟩ := consistent.cited row old kind service_id cites
      exact ⟨asset_id, identity, port, named, is, state.kept_assets _ asset, state.kept_services _ service⟩
    · obtain ⟨observation, listed, records⟩ := Fallible.forall₂_right recorded new
      have kind' : observation.observation_type = NmapReport.IDENTIFICATION := records.kind.symm.trans kind
      obtain ⟨⟨socket, detail⟩, identified⟩ := Option.isSome_iff_exists.mp (report.named observation listed kind')
      obtain ⟨_, _, is⟩ := identification_subject ids identified
      have found : socket_service ids socket = some service_id := by
        rw [← cites, records.service, is]
      have in_report := List.mem_filterMap.mpr ⟨observation, listed, identified⟩
      rw [report.together] at in_report
      obtain ⟨reported, inside, names, same⟩ := identification_mem in_report
      rw [Prod.mk.injEq] at same
      obtain ⟨asset_id, given⟩ := Option.isSome_iff_exists.mp (state.found reported inside names).1
      have asset := state.assets _ (lookup_mem given)
      unfold socket_service at found
      split at found
      · cases found
      rename_i named
      obtain ⟨owner, owned, key⟩ := state.sockets _ (lookup_mem found)
      have first : socket.1 = reported.1 := by rw [same.1]; rfl
      rw [first] at owned named
      have one : asset_id = owner := state.assets_once.id asset owned
      refine ⟨asset_id, reported.1, socket.2, named, ?_, ?_, one ▸ key⟩
      · rw [records.asset, is, first]
        exact given
      · rw [records.dockyard]
        exact asset
  · intro service member observation found
    rw [last_services] at member
    rw [last_observations] at found
    obtain ⟨unchanged, changed⟩ := latest_append increasing times
    have explained := state.rows service member
    -- the run reported the socket of the service, or it did not
    by_cases reported : ∃ socket discovered, socket.1 ≠ [] ∧ At after run.dockyard_id service socket ∧
        last (reported_services result.assets) socket = some discovered
    · obtain ⟨socket, discovered, named, here, is⟩ := reported
      rcases explained.reported socket discovered here is with gone | same
      · exact Or.inl gone
      right
      have products : service.product = discovered.product ∧ service.version = discovered.version :=
        ⟨congrArg (fun identity => identity.2.1) same, congrArg (fun identity => identity.2.2) same⟩
      rw [products.1, products.2]
      obtain ⟨row, final_row, detail⟩ := identifying_last state report recorded member named here is
      obtain ⟨replaced, kept⟩ := changed row final_row
      have own : Carries (observation_view row).detail discovered.product discovered.version := by
        have shown : (observation_view row).detail = details discovered := by
          show row.detail.getD [] = _
          rw [detail, Option.getD_some]
        rw [shown]
        exact details_carries discovered
      cases before : latest tables.observations service.id with
      | none =>
        rw [replaced (by simp [before])] at found
        cases found
        exact own
      | some old =>
        by_cases older : old.observed_at ≤ observed_at
        · rw [replaced (by simp [before, older])] at found
          cases found
          exact own
        · rw [kept old before (by omega)] at found
          cases found
          obtain ⟨row', listed, rfl, kind, cites⟩ := latest_mem before
          obtain ⟨asset_id, identity, port, _, _, asset, key⟩ := consistent.cited row' listed kind service.id cites
          have same_key := state.services_once.value (key_mem member) (state.kept_services _ key)
          rw [Prod.mk.injEq] at same_key
          have known_here : (service.id, asset_id, socket.2) ∈ service_keys tables := by
            rw [here.port, same_key.2]
            exact key
          have asset_here : (asset_id, host run.dockyard_id socket.1) ∈ asset_keys tables := by
            have same_host := state.assets_once.value (same_key.1 ▸ here.asset) (state.kept_assets _ asset)
            rw [same_host]
            exact asset
          exact (ordered service.id _ before asset_id socket known_here asset_here discovered is).resolve_left (by
            show ¬row'.observed_at ≤ observed_at
            exact older)
    · have none_reported : ∀ socket : Socket, socket.1 ≠ [] → At after run.dockyard_id service socket →
          last (reported_services result.assets) socket = none := by
        intro socket named here
        by_contra some
        obtain ⟨discovered, is⟩ := Option.ne_none_iff_exists'.mp some
        exact reported ⟨socket, discovered, named, here, is⟩
      rw [unchanged (identifying_none state report recorded member none_reported)] at found
      have named_only : ∀ socket, At after run.dockyard_id service socket → socket.1 ≠ [] := by
        intro socket here
        obtain ⟨row', listed, _, kind, cites⟩ := latest_mem found
        obtain ⟨asset_id, identity, port, named, _, asset, key⟩ := consistent.cited row' listed kind service.id cites
        have same_key := state.services_once.value (key_mem member) (state.kept_services _ key)
        rw [Prod.mk.injEq] at same_key
        have same_host := state.assets_once.value (same_key.1 ▸ here.asset) (state.kept_assets _ asset)
        simp only [host, Prod.mk.injEq] at same_host
        rw [same_host.2.2]
        exact named
      rcases explained.unreported fun socket here => none_reported socket (named_only socket here) here with gone | ⟨old, listed, id, same⟩
      · exact Or.inl gone
      · rw [← id] at found
        have products : service.product = old.product ∧ service.version = old.version :=
          ⟨congrArg (fun identity => identity.2.1) same, congrArg (fun identity => identity.2.2) same⟩
        rw [same, products.1, products.2]
        exact consistent.supported old listed observation found

/-! ### Runs in any order -/

/-- One run of the nmap adapter: what it was asked, what its tool answered and
    when, and the calls that fail while it publishes. -/
structure Execution where
  run : RunRow
  evaluation : Evaluation
  output : Except Raised Element
  hostname : Option Text
  stdout : List UInt8
  tool_version : Option Text
  invocation : List Text
  observed_at : Nat
  entries : List Discovery.ScopeEntry
  fails : Nat → Option Raised
  evidence : Evidence

section
variable {Row : Type} (strings : Strings) (config : Discovery.Config AdapterResult Row)

/-- `NmapAdapter.run` after the tool. -/
def nmap_answer (execution : Execution) : Except Raised AdapterResult := do
  let document ← execution.output
  let report ← normalize strings document execution.hostname
  return {
    assets := report.assets
    observations := report.observations
    artifacts := [{ name := "nmap.xml".toList, media_type := "application/xml".toList, content := execution.stdout }]
    tool_version := execution.tool_version
    invocation := execution.invocation }

def contact (execution : Execution) : Contact where
  evaluation := execution.evaluation
  answer := nmap_answer strings execution
  observed_at := execution.observed_at
  entries := execution.entries

def session (tables : Tables) (execution : Execution) : Session State where
  committed := { tables := tables, run := execution.run }
  working := { tables := tables, run := execution.run }

/-- The next run publishes, or fails. -/
def step (tables : Tables) (execution : Execution) : Option Tables :=
  some (execute execution.fails execution.evidence config (contact strings execution) (session tables execution)).committed.tables

/-- A run publishes nothing, or what it identifies has no newer and different
    identification. -/
def InOrder (tables : Tables) (execution : Execution) : Prop :=
  step strings config tables execution = some tables ∨
    ∀ result, nmap_answer strings execution = .ok result → Ordered tables execution.run.dockyard_id result execution.observed_at

end

section
variable {Row : Type} {strings : Strings} {config : Discovery.Config AdapterResult Row}

theorem nmap_answer_aligned {execution : Execution} {result : AdapterResult} (answered : nmap_answer strings execution = .ok result) :
    AlignedReport ⟨result.assets, result.observations⟩ := by
  obtain ⟨document, _, answered⟩ := Fallible.bind_eq_ok.mp answered
  obtain ⟨report, normalized, answered⟩ := Fallible.bind_eq_ok.mp answered
  cases answered
  exact normalize_aligned normalized

theorem step_consistent (tables : Tables) (execution : Execution) (tables' : Tables) (consistent : Consistent tables)
    (in_order : InOrder strings config tables execution) (stepped : step strings config tables execution = some tables') :
    Consistent tables' := by
  rcases in_order with nothing | ordered
  · rw [nothing] at stepped
    cases stepped
    exact consistent
  cases stepped
  rcases execute_cases (s := session tables execution) rfl with same | ⟨result, stored, answered, _, _, tables_eq⟩
  · rw [same]
    exact consistent
  · rw [tables_eq]
    exact published_consistent consistent (nmap_answer_aligned answered) (ordered result answered)

theorem empty_consistent : Consistent {} :=
  ⟨⟨⟨by simp [asset_keys], by simp [asset_keys]⟩, ⟨by simp [service_keys], by simp [service_keys]⟩, by simp⟩, by simp, by simp, by simp⟩

end

/-! ### What the detector cites -/

/-- The views of a service, of one type. -/
def of_service (service_id : Int) (views : List ObservationView) : List ObservationView :=
  views.filter fun observation => observation.service_id = some service_id

theorem newer_isSome (current : Option ObservationView) (observation : ObservationView) :
    ∃ view, newer current observation = some view := by
  unfold newer
  split
  · exact ⟨_, rfl⟩
  · split <;> exact ⟨_, rfl⟩

theorem keep_lookup (kept : List (Int × ObservationView)) (view : ObservationView) (service_id : Int) :
    (ServiceRules.keep kept view).lookup service_id =
      if view.service_id = some service_id then newer (kept.lookup service_id) view else kept.lookup service_id := by
  unfold ServiceRules.keep
  cases owner : view.service_id with
  | none => simp
  | some owner_id =>
    obtain ⟨next, is⟩ := newer_isSome (kept.lookup owner_id) view
    simp only [is, Option.some.injEq]
    by_cases own : owner_id = service_id
    · subst own
      simp [List.lookup, is]
    · have other : (service_id == owner_id) = false := by simp [Ne.symm own]
      simp [List.lookup, own, other]

theorem identifications_lookup (views : List ObservationView) (kept : List (Int × ObservationView)) (service_id : Int) :
    (views.foldl ServiceRules.keep kept).lookup service_id = (of_service service_id views).foldl newer (kept.lookup service_id) := by
  induction views generalizing kept with
  | nil => rfl
  | cons view views ih =>
    rw [List.foldl_cons, ih, keep_lookup]
    by_cases own : view.service_id = some service_id
    · simp [of_service, own]
    · simp [of_service, own]

section
variable {tables : Tables} {context : DetectionContext} {limits : Limits} {dockyard_id generated_at : Nat}
  {lookup : Option (Text → Text → List CveReference)}

/-- A snapshot holds the rows of its Dockyard. -/
theorem build_context_ok (built : build_context limits tables dockyard_id generated_at lookup = .ok context) :
    (∀ asset ∈ context.assets, ∀ service ∈ asset.services, ∃ row ∈ tables.services, ∃ owner ∈ tables.assets,
      service = service_view row ∧ owner.id = row.asset_id ∧ owner.dockyard_id = dockyard_id ∧ asset.id = row.asset_id) ∧
    ((tables.observations.map (·.id)).Pairwise (· < ·) → context.observations =
      (tables.observations.filter fun observation => observation.dockyard_id = dockyard_id).map observation_view) := by
  obtain ⟨asset_views, assets_built, built⟩ := Fallible.bind_eq_ok.mp built
  obtain ⟨observation_views, observations_built, built⟩ := Fallible.bind_eq_ok.mp built
  cases built
  refine ⟨?_, fun growing => ?_⟩
  · intro asset member service inside
    unfold assets at assets_built
    simp only at assets_built
    split at assets_built
    · cases assets_built
    split at assets_built
    · cases assets_built
    cases assets_built
    obtain ⟨owner, listed, rfl⟩ := List.mem_map.mp member
    obtain ⟨here, owned⟩ := List.mem_filter.mp inside
    obtain ⟨row, row_listed, rfl⟩ := List.mem_map.mp here
    have in_services := List.mem_filter.mp ((List.perm_insertionSort _ _).mem_iff.mp row_listed)
    have in_assets := List.mem_filter.mp ((List.perm_insertionSort _ _).mem_iff.mp listed)
    have same : (row.asset_id : Int) = owner.id := of_decide_eq_true owned
    refine ⟨row, in_services.1, owner, in_assets.1, rfl, (Int.ofNat.inj same).symm, of_decide_eq_true in_assets.2, same.symm⟩
  · unfold observations at observations_built
    simp only at observations_built
    split at observations_built
    · cases observations_built
    cases observations_built
    have sorted : (tables.observations.filter fun observation => observation.dockyard_id = dockyard_id).Pairwise
        fun a b => a.id ≤ b.id :=
      ((List.pairwise_map.mp growing).sublist List.filter_sublist).imp fun less => less.le
    simp only [sorted.insertionSort_eq]

/-- The identification a detector looks up is the latest one of the tables. -/
theorem identifications_latest (consistent : Consistent tables)
    (built : build_context limits tables dockyard_id generated_at lookup = .ok context) {row : Service} {owner : Asset}
    (member : row ∈ tables.services) (listed : owner ∈ tables.assets) (owns : owner.id = row.asset_id)
    (dockyard : owner.dockyard_id = dockyard_id) :
    (ServiceRules.identifications context).lookup (row.id : Int) = latest tables.observations row.id := by
  have recorded := (build_context_ok built).2 consistent.growing
  rw [ServiceRules.identifications, identifications_lookup, ServiceRules.of_type, recorded, latest]
  congr 1
  rw [of_service, List.filter_map, List.filter_map, List.filter_map, List.filter_filter, List.filter_filter]
  congr 1
  refine List.filter_congr fun observation inside => ?_
  rw [Bool.eq_iff_iff]
  simp only [Function.comp, Bool.and_eq_true, decide_eq_true_eq]
  constructor
  · rintro ⟨⟨cites, kind⟩, _⟩
    exact ⟨kind, cites⟩
  · rintro ⟨kind, cites⟩
    refine ⟨⟨cites, kind⟩, ?_⟩
    obtain ⟨service_id, service, same⟩ := Option.map_eq_some_iff.mp cites
    cases Int.ofNat.inj same
    -- what identifies a service names its host, so it is of the same Dockyard
    obtain ⟨asset_id, identity, port, _, _, asset, key⟩ := consistent.cited observation inside kind row.id service
    have same_key := consistent.keyed.services_once.value (key_mem member) key
    rw [Prod.mk.injEq] at same_key
    have owner_key : (owner.id, owner.dockyard_id, owner.asset_type, owner.identity) ∈ asset_keys tables :=
      List.mem_map.mpr ⟨owner, listed, rfl⟩
    rw [owns, same_key.1] at owner_key
    have same_host := consistent.keyed.assets_once.value owner_key asset
    simp only [host, Prod.mk.injEq] at same_host
    rw [← same_host.1, dockyard]

end

/-! ### Findings of the service rules -/

/-- What the detail of a finding records under a key. -/
def recorded (finding : DetectedFinding) (key : String) : Option Json :=
  match finding.detail with
  | .other answers => answers.json.lookup key.toList
  | _ => none

/-- A finding names a product or a version. -/
def Names (finding : DetectedFinding) : Prop :=
  ∃ t, recorded finding "product" = some (.str t) ∨ recorded finding "version" = some (.str t)

/-- A finding cites an observation of its own asset and service that carries
    the product and the version it names. -/
def Supported (tables : Tables) (finding : DetectedFinding) : Prop :=
  ∃ row ∈ tables.observations, finding.evidence_observation_ids = .ids [(row.id : Int)] ∧
    (∃ asset_id service_id, row.asset_id = some asset_id ∧ finding.asset_id = .int asset_id ∧
      row.service_id = some service_id ∧ finding.service_id = .int service_id) ∧
    ∃ product version, recorded finding "product" = some (ServiceRules.json_of product) ∧
      recorded finding "version" = some (ServiceRules.json_of version) ∧ Carries (row.detail.getD []) product version

section
variable {casing : ServiceRules.Casing} {context : DetectionContext}

/-- What every finding of the service rules says of a service. -/
structure Claims (finding : DetectedFinding) (asset : AssetView) (service : ServiceView) (observation : ObservationView) : Prop where
  evidence : finding.evidence_observation_ids = .ids [observation.id]
  of_asset : finding.asset_id = .int asset.id
  of_service : finding.service_id = .int service.id
  product : recorded finding "product" = some (ServiceRules.json_of service.product)
  version : recorded finding "version" = some (ServiceRules.json_of service.version)

theorem protocol_claims (rule : ServiceRules.ProtocolRule) (asset : AssetView) (service : ServiceView) (observation : ObservationView) :
    Claims (ServiceRules.protocol casing rule asset service observation) asset service observation := by
  exact ⟨rfl, rfl, rfl, rfl, rfl⟩

theorem version_claims (asset : AssetView) (service : ServiceView) (observation : ObservationView) :
    Claims (ServiceRules.version casing context asset service observation) asset service observation := by
  exact ⟨rfl, rfl, rfl, rfl, rfl⟩

theorem for_service_claims {asset : AssetView} {service : ServiceView} {observation : ObservationView} {finding : DetectedFinding}
    (member : finding ∈ ServiceRules.for_service casing context asset service observation) : Claims finding asset service observation := by
  rcases List.mem_append.mp member with here | here
  · obtain ⟨rule, _, rfl⟩ := List.mem_map.mp here
    exact protocol_claims rule asset service observation
  · split at here
    · rw [List.mem_singleton.mp here]
      exact version_claims asset service observation
    · cases here

theorem detect_claims {finding : DetectedFinding} (member : finding ∈ ServiceRules.detect casing context) :
    ∃ asset ∈ context.assets, ∃ service ∈ asset.services, ∃ observation,
      (ServiceRules.identifications context).lookup service.id = some observation ∧ Claims finding asset service observation := by
  obtain ⟨asset, listed, here⟩ := List.mem_flatMap.mp member
  obtain ⟨service, offered, here⟩ := List.mem_flatMap.mp here
  split at here
  · cases here
  · split at here
    · cases here
    · rename_i observation found
      exact ⟨asset, listed, service, offered, observation, found, for_service_claims here⟩

theorem consistent_supported {tables : Tables} {limits : Limits} {dockyard_id generated_at : Nat}
    {lookup : Option (Text → Text → List CveReference)} (consistent : Consistent tables)
    (built : build_context limits tables dockyard_id generated_at lookup = .ok context) {finding : DetectedFinding}
    (member : finding ∈ ServiceRules.detect casing context) (names : Names finding) : Supported tables finding := by
  obtain ⟨asset, listed, service, offered, observation, found, claims⟩ := detect_claims member
  obtain ⟨row, in_services, owner, in_assets, rfl, owns, dockyard, asset_id⟩ := (build_context_ok built).1 asset listed service offered
  have is_latest : latest tables.observations row.id = some observation := by
    rw [← identifications_latest consistent built in_services in_assets owns dockyard]
    exact found
  obtain ⟨cited, in_observations, rfl, kind, cites⟩ := latest_mem is_latest
  obtain ⟨owner_id, identity, port, _, is, asset_key, key⟩ := consistent.cited cited in_observations kind row.id cites
  have same_key := consistent.keyed.services_once.value (key_mem in_services) key
  rw [Prod.mk.injEq] at same_key
  refine ⟨cited, in_observations, claims.evidence, ⟨owner_id, row.id, is, ?_, cites, claims.of_service⟩,
    row.product, row.version, claims.product, claims.version, ?_⟩
  · rw [claims.of_asset, asset_id, same_key.1]
  · rcases consistent.supported row in_services _ is_latest with gone | carries
    · -- a service without an identification names nothing
      have product : row.product = none := congrArg (fun identity => identity.2.1) gone
      have version : row.version = none := congrArg (fun identity => identity.2.2) gone
      obtain ⟨t, named | named⟩ := names
      · have nothing := claims.product.symm.trans named
        simp [service_view, product, ServiceRules.json_of] at nothing
      · have nothing := claims.version.symm.trans named
        simp [service_view, version, ServiceRules.json_of] at nothing
    · exact carries

end

section
variable {Row : Type} {strings : Strings} {config : Discovery.Config AdapterResult Row}

/-- After runs that publish identifications in the order they were observed,
    every finding of the service rules cites what it claims. -/
theorem findings_supported {executions : List Execution} {tables : Tables} {casing : ServiceRules.Casing} {limits : Limits}
    {dockyard_id generated_at : Nat} {lookup : Option (Text → Text → List CveReference)} {context : DetectionContext}
    (ran : Runs.run (step strings config) {} executions = some tables)
    (ordered : Runs.Along (step strings config) (InOrder strings config) {} executions)
    (built : build_context limits tables dockyard_id generated_at lookup = .ok context) :
    ∀ finding ∈ ServiceRules.detect casing context, Names finding → Supported tables finding := by
  intro finding member names
  have consistent := Runs.invariant_along Consistent (fun tables execution tables' held met stepped =>
    step_consistent tables execution tables' held met stepped) ordered empty_consistent ran
  exact consistent_supported consistent built member names

end

/-! ### Two scans of one port -/

/-- Python's `str` on ASCII digits and letters. -/
def asciiStrings : Strings where
  isdigit := fun t => !t.isEmpty && t.all Char.isDigit
  int := fun t => some (t.foldl (fun n c => 10 * n + (c.toNat - '0'.toNat)) 0)
  upper := fun t => t.map Char.toUpper

def element (tag : String) (attributes : List (String × String)) (children : List Element) : Element :=
  .node tag.toList (attributes.map fun member => (member.1.toList, member.2.toList)) children

/-- A report of one host whose port 22 was probed. -/
def sshReport (version : String) : Element :=
  element "nmaprun" [] [element "host" [] [
    element "status" [("state", "up"), ("reason", "syn-ack")] [],
    element "address" [("addr", "10.0.0.1"), ("addrtype", "ipv4")] [],
    element "ports" [] [element "port" [("protocol", "tcp"), ("portid", "22")] [
      element "state" [("state", "open"), ("reason", "syn-ack")] [],
      element "service" [("name", "ssh"), ("product", "OpenSSH"), ("version", version), ("method", "probed")] []]]]]

def sshScan (id observed_at : Nat) (version : String) : Execution where
  run := { FailureAtomicity.runningState.run with id := id }
  evaluation := FailureAtomicity.sshContact.evaluation
  output := .ok (sshReport version)
  hostname := none
  stdout := []
  tool_version := none
  invocation := []
  observed_at := observed_at
  entries := FailureAtomicity.sshContact.entries
  fails := fun _ => none
  evidence := FailureAtomicity.plainEvidence

def text_of : Json → Option Text
  | .str t => some t
  | _ => none

/-- The text a finding records under a key. -/
def text_recorded (finding : DetectedFinding) (key : String) : Option Text := (recorded finding key).bind text_of

theorem text_recorded_eq {finding : DetectedFinding} {key : String} {t : Text} (is : text_recorded finding key = some t) :
    recorded finding key = some (.str t) := by
  obtain ⟨value, found, text⟩ := Option.bind_eq_some_iff.mp is
  cases value <;> cases text
  exact found

/-- The first finding on recorded rows: what it cites and the version it names. -/
def first_finding (tables : Tables) : Option (DetectedFinding × Option (List Key) × Option Text) :=
  match build_context {} tables 1 0 none with
  | .error _ => none
  | .ok context => (ServiceRules.detect .ascii context).head?.map fun finding =>
      (finding, finding.evidence_observation_ids.members.toOption, text_recorded finding "version")

theorem first_finding_found {tables : Tables} {cited : Option (List Key)} {version : Option Text}
    (found : (first_finding tables).map Prod.snd = some (cited, version)) :
    ∃ context, build_context {} tables 1 0 none = .ok context ∧ ∃ finding ∈ ServiceRules.detect .ascii context,
      finding.evidence_observation_ids.members.toOption = cited ∧ text_recorded finding "version" = version := by
  obtain ⟨⟨finding, facts⟩, first, same⟩ := Option.map_eq_some_iff.mp found
  unfold first_finding at first
  split at first
  · cases first
  · rename_i context built
    obtain ⟨_, head, is⟩ := Option.map_eq_some_iff.mp first
    cases is
    cases same
    exact ⟨context, built, finding, List.mem_of_mem_head? head, rfl, rfl⟩

/-- What scans leave, in the order they publish. -/
def scans (executions : List Execution) : Tables :=
  (Runs.run (step asciiStrings FailureAtomicity.hostConfig) {} executions).getD {}

theorem scans_ran (executions : List Execution) :
    Runs.run (step asciiStrings FailureAtomicity.hostConfig) {} executions = some (scans executions) := by
  have ends : ∀ (executions : List Execution) (tables : Tables),
      (Runs.run (step asciiStrings FailureAtomicity.hostConfig) tables executions).isSome = true := by
    intro executions
    induction executions with
    | nil => intro _; rfl
    | cons execution executions ih => exact fun _ => ih _
  obtain ⟨tables, ran⟩ := Option.isSome_iff_exists.mp (ends executions {})
  rw [scans, ran, Option.getD_some]

theorem ordered_of_times {tables : Tables} {dockyard_id observed_at : Nat} {result : AdapterResult}
    (earlier : ∀ row ∈ tables.observations, row.observed_at ≤ observed_at) : Ordered tables dockyard_id result observed_at := by
  intro service_id observation found
  obtain ⟨row, member, rfl, _⟩ := latest_mem found
  intro _ _ _ _ _ _
  exact Or.inl (earlier row member)

theorem findings_supported_in_order : ∃ context finding, build_context {} (scans [sshScan 1 1 "9.6", sshScan 2 2 "9.7"]) 1 0 none = .ok context ∧
    finding ∈ ServiceRules.detect .ascii context ∧ Names finding ∧
    Supported (scans [sshScan 1 1 "9.6", sshScan 2 2 "9.7"]) finding := by
  have found : (first_finding (scans [sshScan 1 1 "9.6", sshScan 2 2 "9.7"])).map Prod.snd =
      some (some [⟨some 6, 0⟩], some "9.7".toList) := by decide +kernel
  obtain ⟨context, built, finding, member, _, version⟩ := first_finding_found found
  have names : Names finding := ⟨_, Or.inr (text_recorded_eq version)⟩
  have ordered : Runs.Along (step asciiStrings FailureAtomicity.hostConfig) (InOrder asciiStrings FailureAtomicity.hostConfig) {}
      [sshScan 1 1 "9.6", sshScan 2 2 "9.7"] := by
    refine ⟨Or.inr fun _ _ => ordered_of_times (by simp), fun first stepped => ⟨?_, fun _ _ => trivial⟩⟩
    have after_first : first = scans [sshScan 1 1 "9.6"] := by
      have one : Runs.run (step asciiStrings FailureAtomicity.hostConfig) {} [sshScan 1 1 "9.6"] = some first :=
        Runs.run_cons.mpr ⟨first, stepped, rfl⟩
      rw [scans_ran] at one
      exact (Option.some.inj one).symm
    rw [after_first]
    refine Or.inr fun _ _ => ordered_of_times ?_
    decide +kernel
  exact ⟨context, finding, built, member, names, findings_supported (scans_ran _) ordered built finding member names⟩

/-- A scan that publishes after a newer one names what it found, and cites the
    observation of the newer one. -/
theorem late_scan_unsupported : ∃ executions tables context finding,
    Runs.run (step asciiStrings FailureAtomicity.hostConfig) {} executions = some tables ∧
    build_context {} tables 1 0 none = .ok context ∧ finding ∈ ServiceRules.detect .ascii context ∧ Names finding ∧
    ¬Supported tables finding := by
  have found : (first_finding (scans [sshScan 2 2 "9.7", sshScan 1 1 "9.6"])).map Prod.snd =
      some (some [⟨some 3, 0⟩], some "9.6".toList) := by decide +kernel
  obtain ⟨context, built, finding, member, cited, version⟩ := first_finding_found found
  refine ⟨[sshScan 2 2 "9.7", sshScan 1 1 "9.6"], _, context, finding, scans_ran _, built, member,
    ⟨_, Or.inr (text_recorded_eq version)⟩, ?_⟩
  rintro ⟨row, inside, ids, _, product, version', _, named, carries⟩
  have third : row.id = 3 := by
    rw [ids] at cited
    have same : (row.id : Int) = 3 := by simpa [Object.ids, Object.members, Except.toOption] using cited
    exact Int.ofNat.inj same
  have other : ∀ row ∈ (scans [sshScan 2 2 "9.7", sshScan 1 1 "9.6"]).observations, row.id = 3 →
      ((row.detail.getD []).lookup "version".toList).bind text_of = some "9.7".toList := by decide +kernel
  have newer := other row inside third
  rw [text_recorded_eq version] at named
  rw [carries.2] at newer
  cases version' with
  | none => cases newer
  | some t =>
    cases named
    exact absurd newer (by decide)

end RedDock.ServiceEvidence
