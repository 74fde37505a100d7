import RedDock.Publications
import RedDock.NmapReport

/-!
# What reconciling a report leaves

The rows of assets and services after a report of hosts has been reconciled:
every row keeps its identity, and what a service is identified as comes from
the last identification of its socket in the report, or from before.
-/
set_option autoImplicit false
namespace RedDock.Reconciliation
open Text Inventory Transactions Publishing Publications NmapReport

/-! ### Keys -/

/-- Ids and what they stand for, each once. -/
structure OneToOne {α : Type} (keys : List (Nat × α)) : Prop where
  ids : (keys.map Prod.fst).Nodup
  values : (keys.map Prod.snd).Nodup

section
variable {α : Type} {keys : List (Nat × α)}

theorem OneToOne.value {id : Nat} {v w : α} (one : OneToOne keys) (first : (id, v) ∈ keys) (second : (id, w) ∈ keys) : v = w :=
  (Prod.mk.inj (List.inj_on_of_nodup_map one.ids first second rfl)).2

theorem OneToOne.id {a b : Nat} {v : α} (one : OneToOne keys) (first : (a, v) ∈ keys) (second : (b, v) ∈ keys) : a = b :=
  (Prod.mk.inj (List.inj_on_of_nodup_map one.values first second rfl)).1

theorem OneToOne.add {id : Nat} {v : α} (one : OneToOne keys) (fresh_id : id ∉ keys.map Prod.fst)
    (fresh_value : v ∉ keys.map Prod.snd) : OneToOne (keys ++ [(id, v)]) where
  ids := by
    rw [List.map_append, List.map_singleton]
    exact one.ids.append (List.nodup_singleton _) (List.disjoint_singleton.mpr fresh_id)
  values := by
    rw [List.map_append, List.map_singleton]
    exact one.values.append (List.nodup_singleton _) (List.disjoint_singleton.mpr fresh_value)

end

def asset_keys (tables : Tables) : List (Nat × Nat × Text × Text) :=
  tables.assets.map fun asset => (asset.id, asset.dockyard_id, asset.asset_type, asset.identity)

def service_keys (tables : Tables) : List (Nat × Nat × Text × Nat) :=
  tables.services.map fun service => (service.id, service.asset_id, service.transport, service.port)

/-- What identifies a host of a Dockyard. -/
def host (dockyard_id : Nat) (identity : Text) : Nat × Text × Text := (dockyard_id, AssetType.host.str, identity)

theorem fresh_not_mem {α : Type} (keys : List (Nat × α)) : fresh (keys.map Prod.fst) ∉ keys.map Prod.fst :=
  fun member => lt_irrefl _ (lt_fresh member)

theorem asset_ids (tables : Tables) : tables.assets.map (·.id) = (asset_keys tables).map Prod.fst := by
  simp [asset_keys]

theorem service_ids (tables : Tables) : tables.services.map (·.id) = (service_keys tables).map Prod.fst := by
  simp [service_keys]

/-- A reconciled asset has the key it was looked up with. -/
theorem upsert_asset_keys {dockyard_id seen_at id : Nat} {discovered : DiscoveredAsset} {tables tables' : Tables}
    (upserted : upsert_asset dockyard_id discovered seen_at tables = (id, tables')) :
    tables'.services = tables.services ∧ tables'.observations = tables.observations ∧
      tables'.evidence_records = tables.evidence_records ∧
      (id, dockyard_id, discovered.asset_type.str, discovered.identity) ∈ asset_keys tables' ∧
      (asset_keys tables' = asset_keys tables ∨
        id ∉ (asset_keys tables).map Prod.fst ∧
          (dockyard_id, discovered.asset_type.str, discovered.identity) ∉ (asset_keys tables).map Prod.snd ∧
          asset_keys tables' = asset_keys tables ++ [(id, dockyard_id, discovered.asset_type.str, discovered.identity)]) := by
  unfold upsert_asset at upserted
  split at upserted
  · rename_i absent
    cases upserted
    refine ⟨rfl, rfl, rfl, by simp [asset_keys, new_asset], Or.inr ⟨?_, ?_, by simp [asset_keys, new_asset]⟩⟩
    · rw [asset_ids]
      exact fresh_not_mem _
    · intro known
      obtain ⟨key, listed, same⟩ := List.mem_map.mp known
      obtain ⟨asset, member, rfl⟩ := List.mem_map.mp listed
      have other := List.find?_eq_none.mp absent asset member
      simp only [Prod.mk.injEq] at same
      simp [same] at other
  · rename_i known found
    cases upserted
    have matching := List.find?_some found
    simp only [Bool.and_eq_true, decide_eq_true_eq] at matching
    have keys : asset_keys { tables with assets := tables.assets.map fun asset =>
        if asset.id = known.id then refresh_asset discovered seen_at asset else asset } = asset_keys tables := by
      simp only [asset_keys, List.map_map]
      refine List.map_congr_left fun asset _ => ?_
      simp only [Function.comp]
      split <;> rfl
    refine ⟨rfl, rfl, rfl, ?_, Or.inl keys⟩
    rw [keys]
    refine List.mem_map.mpr ⟨known, List.mem_of_find?_eq_some found, ?_⟩
    rw [matching.1.1, matching.1.2, matching.2]

/-- What reconciling one service does. -/
inductive Upserts (asset_id seen_at : Nat) (discovered : DiscoveredService) (tables : Tables) : Option Nat × Tables → Prop
  | known {service : Service} : service ∈ tables.services → service.asset_id = asset_id →
    service.transport = discovered.transport → service.port = discovered.port →
    Upserts asset_id seen_at discovered tables (some service.id, { tables with
      services := tables.services.map fun row => if row.id = service.id then refresh_service discovered seen_at row else row })
  | closed : discovered.state ∉ OPEN_SERVICE_STATES → Upserts asset_id seen_at discovered tables (none, tables)
  | opened : (asset_id, discovered.transport, discovered.port) ∉ (service_keys tables).map Prod.snd →
    Upserts asset_id seen_at discovered tables (some (fresh (tables.services.map (·.id))), { tables with
      services := tables.services ++ [new_service (fresh (tables.services.map (·.id))) asset_id discovered seen_at] })

theorem upsert_service_upserts (asset_id seen_at : Nat) (discovered : DiscoveredService) (tables : Tables) :
    Upserts asset_id seen_at discovered tables (upsert_service asset_id discovered seen_at tables) := by
  unfold upsert_service
  split
  · rename_i absent
    split
    · rename_i closed
      exact .closed closed
    · refine .opened fun known => ?_
      obtain ⟨key, listed, same⟩ := List.mem_map.mp known
      obtain ⟨service, member, rfl⟩ := List.mem_map.mp listed
      have other := List.find?_eq_none.mp absent service member
      simp only [Prod.mk.injEq] at same
      simp [same] at other
  · rename_i service found
    have matching := List.find?_some found
    simp only [Bool.and_eq_true, decide_eq_true_eq] at matching
    exact .known (List.mem_of_find?_eq_some found) matching.1.1 matching.1.2 matching.2

/-! ### What a service is identified as -/

/-- The name, product and version of a row or of a report. -/
abbrev Identity := Option Text × Option Text × Option Text

def identity_of (service : Service) : Identity := (service.service_name, service.product, service.version)

def reported_identity (discovered : DiscoveredService) : Identity := (discovered.service_name, discovered.product, discovered.version)

def blank : Identity := (none, none, none)

theorem refresh_identified {discovered : DiscoveredService} {seen_at : Nat} {service : Service}
    (identified : discovered.identified = true) :
    identity_of (refresh_service discovered seen_at service) = reported_identity discovered := by
  simp [refresh_service, identified, identity_of, reported_identity]

theorem refresh_unidentified {discovered : DiscoveredService} {seen_at : Nat} {service : Service}
    (unidentified : discovered.identified = false) :
    identity_of (refresh_service discovered seen_at service) = blank ∨
      identity_of (refresh_service discovered seen_at service) = identity_of service := by
  simp only [refresh_service, unidentified, Bool.false_eq_true, if_false]
  split
  · exact Or.inl rfl
  · exact Or.inr rfl

def socket_of (service : Text × DiscoveredService) : Socket := (service.1, service.2.transport, service.2.port)

/-- The last identification of a socket in a list of reported services. -/
def last (services : List (Text × DiscoveredService)) (socket : Socket) : Option DiscoveredService :=
  ((services.filter fun service => socket_of service = socket && service.2.identified).getLast?).map Prod.snd

theorem last_append (services : List (Text × DiscoveredService)) (service : Text × DiscoveredService) (socket : Socket) :
    last (services ++ [service]) socket =
      if socket_of service = socket ∧ service.2.identified = true then some service.2 else last services socket := by
  rw [last, List.filter_append]
  by_cases here : socket_of service = socket ∧ service.2.identified = true
  · simp [here]
  · have not_here : (decide (socket_of service = socket) && service.2.identified) = false := by
      rw [Bool.eq_false_iff]
      simpa using here
    simp [here, not_here, last]

/-- A row is that of a socket in a Dockyard. -/
structure At (tables : Tables) (dockyard_id : Nat) (service : Service) (socket : Socket) : Prop where
  asset : (service.asset_id, host dockyard_id socket.1) ∈ asset_keys tables
  port : socket.2 = (service.transport, service.port)

theorem At.unique {tables : Tables} {dockyard_id : Nat} {service : Service} {first second : Socket}
    (one : OneToOne (asset_keys tables)) (left : At tables dockyard_id service first) (right : At tables dockyard_id service second) :
    first = second := by
  have same := one.value left.asset right.asset
  simp only [host, Prod.mk.injEq, true_and] at same
  exact Prod.ext same (left.port.trans right.port.symm)

theorem at_congr {tables tables' : Tables} {dockyard_id : Nat} {service : Service} {socket : Socket}
    (same : asset_keys tables' = asset_keys tables) : At tables' dockyard_id service socket ↔ At tables dockyard_id service socket :=
  ⟨fun ⟨asset, port⟩ => ⟨same ▸ asset, port⟩, fun ⟨asset, port⟩ => ⟨same ▸ asset, port⟩⟩

/-- A row is identified as the last report of its socket says, or as it was
    before the report, or not at all. -/
structure Explained (before tables : Tables) (dockyard_id : Nat) (services : List (Text × DiscoveredService))
    (service : Service) : Prop where
  reported : ∀ socket discovered, At tables dockyard_id service socket → last services socket = some discovered →
    identity_of service = blank ∨ identity_of service = reported_identity discovered
  unreported : (∀ socket, At tables dockyard_id service socket → last services socket = none) →
    identity_of service = blank ∨ ∃ old ∈ before.services, old.id = service.id ∧ identity_of service = identity_of old

/-- What has been reconciled so far, and the ids that were given out. -/
structure Reconciled (before tables : Tables) (dockyard_id : Nat) (services : List (Text × DiscoveredService)) (ids : Ids) :
    Prop where
  assets_once : OneToOne (asset_keys tables)
  services_once : OneToOne (service_keys tables)
  foreign : ∀ service ∈ tables.services, service.asset_id ∈ (asset_keys tables).map Prod.fst
  observations : tables.observations = before.observations
  records : tables.evidence_records = before.evidence_records
  kept_assets : ∀ key ∈ asset_keys before, key ∈ asset_keys tables
  kept_services : ∀ key ∈ service_keys before, key ∈ service_keys tables
  rows : ∀ service ∈ tables.services, Explained before tables dockyard_id services service
  assets : ∀ entry ∈ ids.assets, (entry.2, host dockyard_id entry.1) ∈ asset_keys tables
  sockets : ∀ entry ∈ ids.services, ∃ asset_id, (asset_id, host dockyard_id entry.1.1) ∈ asset_keys tables ∧
    (entry.2, asset_id, entry.1.2) ∈ service_keys tables
  found : ∀ service ∈ services, service.2.identified = true →
    (ids.assets.lookup service.1).isSome = true ∧ (ids.services.lookup (socket_of service)).isSome = true

/-- A known service is refreshed under its key. -/
theorem service_keys_refreshed (tables : Tables) (id : Nat) (discovered : DiscoveredService) (seen_at : Nat) :
    service_keys { tables with
      services := tables.services.map fun row => if row.id = id then refresh_service discovered seen_at row else row } =
        service_keys tables := by
  simp only [service_keys, List.map_map]
  refine List.map_congr_left fun row _ => ?_
  simp only [Function.comp, refresh_service]
  split
  · split
    · rfl
    · split <;> rfl
  · rfl

theorem lookup_cons_isSome {α β : Type} [BEq α] [LawfulBEq α] {key other : α} {value : β} {entries : List (α × β)}
    (found : (entries.lookup other).isSome = true) : (((key, value) :: entries).lookup other).isSome = true := by
  rw [List.lookup]
  split
  · rfl
  · exact found

theorem lookup_mem {α β : Type} [BEq α] [LawfulBEq α] {key : α} {value : β} {entries : List (α × β)}
    (found : entries.lookup key = some value) : (key, value) ∈ entries := by
  induction entries with
  | nil => simp at found
  | cons entry entries ih =>
    obtain ⟨first, second⟩ := entry
    rw [List.lookup] at found
    split at found
    · rename_i same
      cases found
      rw [eq_of_beq same]
      exact List.mem_cons_self
    · exact List.mem_cons_of_mem _ (ih found)

section
variable {before tables tables' : Tables} {dockyard_id : Nat} {services services' : List (Text × DiscoveredService)}
  {row row' : Service} {ids : Ids}

/-- A row whose socket got no later identification. -/
theorem Explained.still (explained : Explained before tables dockyard_id services row)
    (same_socket : ∀ socket, At tables' dockyard_id row' socket ↔ At tables dockyard_id row socket)
    (same_last : ∀ socket, At tables dockyard_id row socket → last services' socket = last services socket)
    (same_id : row'.id = row.id) (identity : identity_of row' = blank ∨ identity_of row' = identity_of row) :
    Explained before tables' dockyard_id services' row' where
  reported socket discovered here latest := by
    rw [same_last socket ((same_socket socket).mp here)] at latest
    rcases identity with gone | same
    · exact Or.inl gone
    · rw [same]
      exact explained.reported socket discovered ((same_socket socket).mp here) latest
  unreported nothing := by
    rcases identity with gone | same
    · exact Or.inl gone
    rw [same, same_id]
    refine explained.unreported fun socket here => ?_
    rw [← same_last socket here]
    exact nothing socket ((same_socket socket).mpr here)

/-- A row that took over the last identification of its socket. -/
theorem Explained.latest {socket : Socket} {discovered : DiscoveredService} (one : OneToOne (asset_keys tables))
    (here : At tables dockyard_id row socket) (latest : last services socket = some discovered)
    (identity : identity_of row = reported_identity discovered) : Explained before tables dockyard_id services row where
  reported other found there again := by
    rw [At.unique one there here, latest, Option.some.injEq] at again
    rw [identity, again]
    exact Or.inr rfl
  unreported nothing := by
    have absent := nothing socket here
    rw [latest] at absent
    cases absent

theorem Explained.of_blank (gone : identity_of row = blank) : Explained before tables dockyard_id services row :=
  ⟨fun _ _ _ _ => Or.inl gone, fun _ => Or.inl gone⟩

theorem last_unidentified {service : Text × DiscoveredService} (unidentified : service.2.identified = false) (socket : Socket) :
    last (services ++ [service]) socket = last services socket := by
  rw [last_append, if_neg (by simp [unidentified])]

theorem last_other {service : Text × DiscoveredService} {socket : Socket} (other : socket_of service ≠ socket) :
    last (services ++ [service]) socket = last services socket := by
  rw [last_append, if_neg (by simp [other])]

/-- The rows of one key are one row. -/
theorem same_row (one : OneToOne (service_keys tables)) (first : row ∈ tables.services) (second : row' ∈ tables.services)
    (same : row.id = row'.id) : row = row' := by
  have ids := one.ids
  rw [← service_ids] at ids
  exact List.inj_on_of_nodup_map ids first second same

theorem key_mem (member : row ∈ tables.services) : (row.id, row.asset_id, row.transport, row.port) ∈ service_keys tables :=
  List.mem_map.mpr ⟨row, member, rfl⟩

/-- A known service is refreshed. -/
theorem Reconciled.refresh (state : Reconciled before tables dockyard_id services ids) {identity : Text} {known : Service}
    {discovered : DiscoveredService} {seen_at : Nat} (asset : (known.asset_id, host dockyard_id identity) ∈ asset_keys tables)
    (given : (ids.assets.lookup identity).isSome = true) (member : known ∈ tables.services)
    (transport : known.transport = discovered.transport) (port : known.port = discovered.port) :
    Reconciled before { tables with services := tables.services.map fun row =>
        if row.id = known.id then refresh_service discovered seen_at row else row } dockyard_id
      (services ++ [(identity, discovered)]) { ids with
        services := ((identity, discovered.transport, discovered.port), known.id) :: ids.services
        service_count := ids.service_count + 1 } := by
  have keys := service_keys_refreshed tables known.id discovered seen_at
  have here : At tables dockyard_id known (socket_of (identity, discovered)) :=
    ⟨asset, by rw [socket_of, transport, port]⟩
  refine ⟨state.assets_once, by rw [keys]; exact state.services_once, ?_, state.observations, state.records, state.kept_assets,
    by rw [keys]; exact state.kept_services, ?_, state.assets, ?_, ?_⟩
  · intro row' listed
    obtain ⟨row, inside, rfl⟩ := List.mem_map.mp listed
    have before := state.foreign row inside
    split
    · simp only [refresh_service]
      split
      · exact before
      · split <;> exact before
    · exact before
  · intro row' listed
    obtain ⟨row, inside, rfl⟩ := List.mem_map.mp listed
    have explained := state.rows row inside
    by_cases own : row.id = known.id
    · have is : row = known := same_row state.services_once inside member own
      subst is
      rw [if_pos rfl]
      have moved : ∀ socket, At { tables with services := tables.services.map fun other =>
          if other.id = row.id then refresh_service discovered seen_at other else other } dockyard_id
            (refresh_service discovered seen_at row) socket ↔ At tables dockyard_id row socket := by
        have fields : (refresh_service discovered seen_at row).asset_id = row.asset_id ∧
            (refresh_service discovered seen_at row).transport = row.transport ∧
              (refresh_service discovered seen_at row).port = row.port := by
          simp only [refresh_service]
          split
          · exact ⟨rfl, rfl, rfl⟩
          · split <;> exact ⟨rfl, rfl, rfl⟩
        intro socket
        constructor
        · rintro ⟨asset, port⟩
          exact ⟨by rw [← fields.1]; exact asset, by rw [port, fields.2.1, fields.2.2]⟩
        · rintro ⟨asset, port⟩
          exact ⟨by rw [fields.1]; exact asset, by rw [port, fields.2.1, fields.2.2]⟩
      cases identified : discovered.identified with
      | true =>
        refine Explained.latest state.assets_once ((moved _).mpr here) ?_
          (refresh_identified identified)
        rw [last_append, if_pos ⟨rfl, identified⟩]
      | false =>
        refine explained.still moved (fun socket _ => last_unidentified identified socket) ?_ (refresh_unidentified identified)
        simp only [refresh_service, identified, Bool.false_eq_true, if_false]
        split <;> rfl
    · rw [if_neg own]
      refine explained.still (fun socket => at_congr rfl) (fun socket there => last_other ?_) rfl (Or.inr rfl)
      rintro rfl
      have assets := state.assets_once.id there.asset asset
      have ports := there.port.symm.trans here.port
      simp only [Prod.mk.injEq] at ports
      refine own (state.services_once.id (key_mem inside) ?_)
      rw [assets, ports.1, ports.2]
      exact key_mem member
  · intro entry listed
    rcases List.mem_cons.mp listed with rfl | listed
    · refine ⟨known.asset_id, asset, ?_⟩
      rw [keys, ← transport, ← port]
      exact key_mem member
    · rw [keys]
      exact state.sockets entry listed
  · intro service listed identified
    rcases List.mem_append.mp listed with old | new
    · obtain ⟨assets, sockets⟩ := state.found service old identified
      exact ⟨assets, lookup_cons_isSome sockets⟩
    · rw [List.mem_singleton] at new
      subst new
      exact ⟨given, by simp [socket_of, List.lookup]⟩

/-- A service that was not known is added. -/
theorem Reconciled.open (state : Reconciled before tables dockyard_id services ids) {identity : Text} {asset_id seen_at : Nat}
    {discovered : DiscoveredService} (asset : (asset_id, host dockyard_id identity) ∈ asset_keys tables)
    (given : (ids.assets.lookup identity).isSome = true) (reported : Reported discovered)
    (absent : (asset_id, discovered.transport, discovered.port) ∉ (service_keys tables).map Prod.snd) :
    Reconciled before { tables with
        services := tables.services ++ [new_service (fresh (tables.services.map (·.id))) asset_id discovered seen_at] } dockyard_id
      (services ++ [(identity, discovered)]) { ids with
        services := ((identity, discovered.transport, discovered.port), fresh (tables.services.map (·.id))) :: ids.services
        service_count := ids.service_count + 1 } := by
  have keys : service_keys { tables with
      services := tables.services ++ [new_service (fresh (tables.services.map (·.id))) asset_id discovered seen_at] } =
        service_keys tables ++ [(fresh (tables.services.map (·.id)), asset_id, discovered.transport, discovered.port)] := by
    simp [service_keys, new_service]
  refine ⟨state.assets_once, ?_, ?_, state.observations, state.records, state.kept_assets, ?_, ?_, state.assets, ?_, ?_⟩
  · rw [keys]
    refine state.services_once.add ?_ absent
    rw [service_ids]
    exact fresh_not_mem _
  · intro row listed
    rcases List.mem_append.mp listed with old | new
    · exact state.foreign row old
    · rw [List.mem_singleton] at new
      subst new
      exact List.mem_map.mpr ⟨_, asset, rfl⟩
  · intro key known
    rw [keys]
    exact List.mem_append_left _ (state.kept_services key known)
  · intro row listed
    rcases List.mem_append.mp listed with old | new
    · refine (state.rows row old).still (fun socket => at_congr rfl) (fun socket there => last_other ?_) rfl (Or.inr rfl)
      rintro rfl
      have assets := state.assets_once.id there.asset asset
      have ports := there.port
      simp only [socket_of, Prod.mk.injEq] at ports
      refine absent (List.mem_map.mpr ⟨_, key_mem old, ?_⟩)
      rw [assets, ports.1, ports.2]
    · rw [List.mem_singleton] at new
      subst new
      cases identified : discovered.identified with
      | true =>
        have here : At tables dockyard_id (new_service (fresh (tables.services.map (·.id))) asset_id discovered seen_at)
            (socket_of (identity, discovered)) := ⟨asset, rfl⟩
        have kept : asset_keys { tables with
            services := tables.services ++ [new_service (fresh (tables.services.map (·.id))) asset_id discovered seen_at] } =
              asset_keys tables := rfl
        refine Explained.latest state.assets_once ((at_congr kept).mpr here) ?_ rfl
        rw [last_append, if_pos ⟨rfl, identified⟩]
      | false =>
        obtain ⟨name, product, version⟩ := reported.plain identified
        exact .of_blank (by rw [identity_of, new_service, name, product, version]; rfl)
  · intro entry listed
    rw [keys]
    rcases List.mem_cons.mp listed with rfl | listed
    · exact ⟨asset_id, asset, List.mem_append_right _ (List.mem_singleton_self _)⟩
    · obtain ⟨other, known, socket⟩ := state.sockets entry listed
      exact ⟨other, known, List.mem_append_left _ socket⟩
  · intro service listed identified
    rcases List.mem_append.mp listed with old | new
    · obtain ⟨assets, sockets⟩ := state.found service old identified
      exact ⟨assets, lookup_cons_isSome sockets⟩
    · rw [List.mem_singleton] at new
      subst new
      exact ⟨given, by simp [socket_of, List.lookup]⟩

/-- A service that is reported closed and was not known. -/
theorem Reconciled.skip (state : Reconciled before tables dockyard_id services ids) {service : Text × DiscoveredService}
    (unidentified : service.2.identified = false) : Reconciled before tables dockyard_id (services ++ [service]) ids where
  assets_once := state.assets_once
  services_once := state.services_once
  foreign := state.foreign
  observations := state.observations
  records := state.records
  kept_assets := state.kept_assets
  kept_services := state.kept_services
  rows row listed := (state.rows row listed).still (fun _ => Iff.rfl) (fun socket _ => last_unidentified unidentified socket) rfl
    (Or.inr rfl)
  assets := state.assets
  sockets := state.sockets
  found other listed identified := by
    rcases List.mem_append.mp listed with old | new
    · exact state.found other old identified
    · rw [List.mem_singleton] at new
      rw [new, unidentified] at identified
      cases identified

theorem reconcile_service_reconciled (state : Reconciled before tables dockyard_id services ids) {identity : Text}
    {asset_id seen_at : Nat} {discovered : DiscoveredService} (asset : (asset_id, host dockyard_id identity) ∈ asset_keys tables)
    (given : (ids.assets.lookup identity).isSome = true) (reported : Reported discovered) :
    Reconciled before (reconcile_service identity asset_id seen_at ids discovered tables).2 dockyard_id
      (services ++ [(identity, discovered)]) (reconcile_service identity asset_id seen_at ids discovered tables).1 := by
  have upserts := upsert_service_upserts asset_id seen_at discovered tables
  unfold reconcile_service
  generalize upsert_service asset_id discovered seen_at tables = upserted at upserts
  cases upserts with
  | known member owner transport port =>
    subst owner
    exact state.refresh asset given member transport port
  | closed closed =>
    refine state.skip ?_
    by_contra identified
    rw [Bool.not_eq_false] at identified
    exact closed (reported.identified_open identified)
  | opened absent => exact state.open asset given reported absent

/-- A host that is reconciled. -/
theorem Reconciled.asset (state : Reconciled before tables dockyard_id services ids) {discovered : DiscoveredAsset}
    {seen_at id : Nat} (kind : discovered.asset_type = .host)
    (upserted : upsert_asset dockyard_id discovered seen_at tables = (id, tables')) :
    Reconciled before tables' dockyard_id services { ids with assets := (discovered.identity, id) :: ids.assets } ∧
      (id, host dockyard_id discovered.identity) ∈ asset_keys tables' := by
  obtain ⟨same_services, same_observations, same_records, listed, keys⟩ := upsert_asset_keys upserted
  rw [kind] at listed keys
  have grown : (∀ key ∈ asset_keys tables, key ∈ asset_keys tables') ∧ OneToOne (asset_keys tables') ∧
      ∀ row ∈ tables.services, ∀ socket, At tables' dockyard_id row socket ↔ At tables dockyard_id row socket := by
    rcases keys with same | ⟨new_id, new_key, same⟩
    · rw [same]
      exact ⟨fun _ known => known, state.assets_once, fun _ _ _ => at_congr same⟩
    · rw [same]
      refine ⟨fun key known => List.mem_append_left _ known, state.assets_once.add new_id new_key, fun row member socket => ?_⟩
      constructor
      · rintro ⟨asset, port⟩
        rw [same] at asset
        rcases List.mem_append.mp asset with old | new
        · exact ⟨old, port⟩
        · -- no row belongs to an asset that did not exist
          rw [List.mem_singleton, Prod.mk.injEq] at new
          exact absurd (new.1 ▸ state.foreign row member) new_id
      · rintro ⟨asset, port⟩
        exact ⟨by rw [same]; exact List.mem_append_left _ asset, port⟩
  obtain ⟨kept, once, sockets⟩ := grown
  have same_keys : service_keys tables' = service_keys tables := by simp [service_keys, same_services]
  refine ⟨⟨once, by rw [same_keys]; exact state.services_once, ?_, same_observations.trans state.observations,
    same_records.trans state.records, fun key known => kept key (state.kept_assets key known),
    by rw [same_keys]; exact state.kept_services, ?_, ?_, ?_, ?_⟩, listed⟩
  · intro row member
    rw [same_services] at member
    obtain ⟨key, known, same⟩ := List.mem_map.mp (state.foreign row member)
    exact List.mem_map.mpr ⟨key, kept key known, same⟩
  · intro row member
    rw [same_services] at member
    exact (state.rows row member).still (sockets row member) (fun _ _ => rfl) rfl (Or.inr rfl)
  · intro entry member
    rcases List.mem_cons.mp member with rfl | member
    · exact listed
    · exact kept _ (state.assets entry member)
  · intro entry member
    obtain ⟨asset_id, asset, socket⟩ := state.sockets entry member
    exact ⟨asset_id, kept _ asset, by rw [same_keys]; exact socket⟩
  · intro service member identified
    obtain ⟨assets, found⟩ := state.found service member identified
    exact ⟨lookup_cons_isSome assets, found⟩

end

theorem reconcile_service_assets (identity : Text) (asset_id seen_at : Nat) (ids : Ids) (discovered : DiscoveredService)
    (tables : Tables) : (reconcile_service identity asset_id seen_at ids discovered tables).2.assets = tables.assets ∧
      (reconcile_service identity asset_id seen_at ids discovered tables).1.assets = ids.assets := by
  have upserts := upsert_service_upserts asset_id seen_at discovered tables
  unfold reconcile_service
  generalize upsert_service asset_id discovered seen_at tables = upserted at upserts
  cases upserts <;> exact ⟨rfl, rfl⟩

theorem reconcile_services_reconciled {before : Tables} {dockyard_id asset_id : Nat} (seen_at : Nat) {identity : Text}
    {discovered : List DiscoveredService} (reported : ∀ service ∈ discovered, Reported service) {tables : Tables}
    {services : List (Text × DiscoveredService)} {ids : Ids} (state : Reconciled before tables dockyard_id services ids)
    (asset : (asset_id, host dockyard_id identity) ∈ asset_keys tables) (given : (ids.assets.lookup identity).isSome = true) :
    Reconciled before (foldlState (reconcile_service identity asset_id seen_at) discovered ids tables).2 dockyard_id
      (services ++ addressed identity discovered) (foldlState (reconcile_service identity asset_id seen_at) discovered ids tables).1 := by
  induction discovered generalizing tables services ids with
  | nil => simpa [addressed, foldlState] using state
  | cons service discovered ih =>
    obtain ⟨here, rest⟩ := List.forall_mem_cons.mp reported
    obtain ⟨same_assets, same_ids⟩ := reconcile_service_assets identity asset_id seen_at ids service tables
    rw [addressed, List.map_cons, List.append_cons]
    refine ih rest (reconcile_service_reconciled state asset given here) ?_ ?_
    · rw [asset_keys, same_assets]
      exact asset
    · rw [same_ids]
      exact given

theorem reconcile_asset_reconciled {before : Tables} {dockyard_id : Nat} (seen_at : Nat) {discovered : DiscoveredAsset}
    (kind : discovered.asset_type = .host) (reported : ∀ service ∈ discovered.services, Reported service) {tables : Tables}
    {services : List (Text × DiscoveredService)} {ids : Ids} (state : Reconciled before tables dockyard_id services ids) :
    Reconciled before (reconcile_asset dockyard_id seen_at ids discovered tables).2 dockyard_id
      (services ++ addressed discovered.identity discovered.services)
      (reconcile_asset dockyard_id seen_at ids discovered tables).1 := by
  rcases upserted : upsert_asset dockyard_id discovered seen_at tables with ⟨id, tables'⟩
  obtain ⟨next, asset⟩ := state.asset kind upserted
  simp only [reconcile_asset, upserted]
  exact reconcile_services_reconciled seen_at reported next asset (by simp [List.lookup])

theorem reconcile_from {before : Tables} {dockyard_id : Nat} (seen_at : Nat) {assets : List DiscoveredAsset}
    (hosts : ∀ asset ∈ assets, asset.asset_type = .host)
    (reported : ∀ asset ∈ assets, ∀ service ∈ asset.services, Reported service) {tables : Tables}
    {services : List (Text × DiscoveredService)} {ids : Ids} (state : Reconciled before tables dockyard_id services ids) :
    Reconciled before (foldlState (reconcile_asset dockyard_id seen_at) assets ids tables).2 dockyard_id
      (services ++ reported_services assets) (foldlState (reconcile_asset dockyard_id seen_at) assets ids tables).1 := by
  induction assets generalizing tables services ids with
  | nil => simpa [reported_services, foldlState] using state
  | cons asset assets ih =>
    obtain ⟨host, hosts⟩ := List.forall_mem_cons.mp hosts
    obtain ⟨here, rest⟩ := List.forall_mem_cons.mp reported
    rw [reported_services, List.flatMap_cons, ← List.append_assoc]
    exact ih hosts rest (reconcile_asset_reconciled seen_at host here state)

/-- Rows under keys of their own, and services of known assets. -/
structure Keyed (tables : Tables) : Prop where
  assets_once : OneToOne (asset_keys tables)
  services_once : OneToOne (service_keys tables)
  foreign : ∀ service ∈ tables.services, service.asset_id ∈ (asset_keys tables).map Prod.fst

theorem Reconciled.keyed {before tables : Tables} {dockyard_id : Nat} {services : List (Text × DiscoveredService)} {ids : Ids}
    (state : Reconciled before tables dockyard_id services ids) : Keyed tables :=
  ⟨state.assets_once, state.services_once, state.foreign⟩

/-- Reconciling a report of hosts. -/
theorem reconcile_reconciled {tables : Tables} (keyed : Keyed tables) (dockyard_id seen_at : Nat) {assets : List DiscoveredAsset}
    (hosts : ∀ asset ∈ assets, asset.asset_type = .host)
    (reported : ∀ service ∈ reported_services assets, Reported service.2) :
    Reconciled tables (reconcile dockyard_id seen_at assets tables).2 dockyard_id (reported_services assets)
      (reconcile dockyard_id seen_at assets tables).1 := by
  have start : Reconciled tables tables dockyard_id [] {} :=
    ⟨keyed.assets_once, keyed.services_once, keyed.foreign, rfl, rfl, fun _ known => known, fun _ known => known,
      fun row member => ⟨fun _ _ _ nothing => by simp [last] at nothing, fun _ => Or.inr ⟨row, member, rfl, rfl⟩⟩,
      by simp, by simp, by simp⟩
  have each : ∀ asset ∈ assets, ∀ service ∈ asset.services, Reported service := by
    intro asset member service inside
    refine reported (asset.identity, service) (List.mem_flatMap.mpr ⟨asset, member, ?_⟩)
    exact List.mem_map.mpr ⟨service, inside, rfl⟩
  exact reconcile_from seen_at hosts each start

end RedDock.Reconciliation
