import RedDock.PlainFindings
import RedDock.Reconciliation
import RedDock.Snapshots

/-!
# Snapshots of stored rows

What the database and discovery keep of assets, services and observations, and
what a snapshot of such rows gives a detector: every subject it may name has a
fingerprint of its own.
-/
set_option autoImplicit false
namespace RedDock.StoredRows
open Text Detection Inventory Snapshots Fallible PlainFindings
open Reconciliation (OneToOne Keyed asset_keys service_keys)

/-- A part of a fingerprint that is there, and is no separator. -/
structure Named (t : Text) : Prop where
  nonempty : t ≠ []
  present : t ≠ ABSENT
  separated : '\x1f' ∉ t

/-- The rows of an installation: unique keys, keys that are named, and
    observations of assets and services that belong together. -/
structure Stored (tables : Tables) : Prop where
  keyed : Keyed tables
  assets : ∀ asset ∈ tables.assets, Named asset.asset_type ∧ Named asset.identity
  transports : ∀ service ∈ tables.services, service.transport ≠ [] ∧ '\x1f' ∉ service.transport
  observed : ∀ observation ∈ tables.observations, ∀ asset_id, observation.asset_id = some asset_id →
    ∃ asset ∈ tables.assets, asset.id = asset_id ∧ asset.dockyard_id = observation.dockyard_id
  of_asset : ∀ observation ∈ tables.observations, ∀ service_id, observation.service_id = some service_id →
    ∃ service ∈ tables.services, service.id = service_id ∧ observation.asset_id = some service.asset_id

/-- An asset and a service of a snapshot, where they are given. -/
structure Known (context : DetectionContext) (asset_id service_id : Option Int) : Prop where
  asset : ∀ id, asset_id = some id → ∃ asset ∈ context.assets, asset.id = id
  service : ∀ id, service_id = some id → ∃ asset ∈ context.assets, asset_id = some asset.id ∧ ∃ service ∈ asset.services, service.id = id

def services_of (context : DetectionContext) : List ServiceView := context.assets.flatMap AssetView.services

structure WellFormed (context : DetectionContext) : Prop where
  asset_ids : (context.assets.map AssetView.id).Nodup
  asset_keys : (context.assets.map fun asset => (asset.asset_type, asset.identity)).Nodup
  service_ids : ((services_of context).map ServiceView.id).Nodup
  sockets : ((services_of context).map fun service => (service.asset_id, service.transport, service.port)).Nodup
  owned : ∀ asset ∈ context.assets, ∀ service ∈ asset.services, service.asset_id = asset.id
  named : ∀ asset ∈ context.assets, Named asset.asset_type ∧ Named asset.identity
  transports : ∀ service ∈ services_of context, service.transport ≠ [] ∧ '\x1f' ∉ service.transport
  subjects : ∀ observation ∈ context.observations, Known context observation.asset_id observation.service_id

/-! ### A snapshot of stored rows is well formed -/

section
variable {limits : Limits} {tables : Tables} {dockyard_id generated_at : Nat} {lookup : Option (Text → Text → List CveReference)}
  {context : DetectionContext}

/-- The rows of a Dockyard's assets. -/
def asset_rows (tables : Tables) (dockyard_id : Nat) : List Asset :=
  (tables.assets.filter fun asset => asset.dockyard_id = dockyard_id).insertionSort fun a b => a.id ≤ b.id

def service_rows (tables : Tables) (dockyard_id : Nat) : List Service :=
  (tables.services.filter fun service => service.asset_id ∈ (asset_rows tables dockyard_id).map (·.id)).insertionSort
    fun a b => a.id ≤ b.id

theorem mem_asset_rows {asset : Asset} :
    asset ∈ asset_rows tables dockyard_id ↔ asset ∈ tables.assets ∧ asset.dockyard_id = dockyard_id := by
  rw [asset_rows, (List.perm_insertionSort _ _).mem_iff, List.mem_filter, decide_eq_true_eq]

theorem mem_service_rows {service : Service} : service ∈ service_rows tables dockyard_id ↔
    service ∈ tables.services ∧ ∃ asset ∈ asset_rows tables dockyard_id, asset.id = service.asset_id := by
  rw [service_rows, (List.perm_insertionSort _ _).mem_iff, List.mem_filter, decide_eq_true_eq, List.mem_map]

theorem build_context_rows (built : build_context limits tables dockyard_id generated_at lookup = .ok context) :
    context.assets = (asset_rows tables dockyard_id).map (asset_view ((service_rows tables dockyard_id).map service_view)) ∧
      ∀ observation ∈ context.observations, ∃ row ∈ tables.observations, row.dockyard_id = dockyard_id ∧
        observation = observation_view row := by
  obtain ⟨asset_views, assets_built, built⟩ := bind_eq_ok.mp built
  obtain ⟨observation_views, observations_built, built⟩ := bind_eq_ok.mp built
  cases built
  constructor
  · unfold Snapshots.assets at assets_built
    simp only at assets_built
    split at assets_built
    · cases assets_built
    split at assets_built
    · cases assets_built
    cases assets_built
    rfl
  · unfold Snapshots.observations at observations_built
    simp only at observations_built
    split at observations_built
    · cases observations_built
    cases observations_built
    intro observation member
    obtain ⟨row, inside, rfl⟩ := List.mem_map.mp member
    have kept := List.mem_filter.mp ((List.perm_insertionSort _ _).mem_iff.mp inside)
    exact ⟨row, kept.1, of_decide_eq_true kept.2, rfl⟩

/-- A column that is unique in a table is unique in some of its rows. -/
theorem nodup_rows {α β : Type} {f : α → β} {rows : List α} (unique : (rows.map f).Nodup) (keep : α → Bool) (le : α → α → Prop)
    [DecidableRel le] : (((rows.filter keep).insertionSort le).map f).Nodup :=
  ((List.perm_insertionSort le _).map f).nodup_iff.mpr (unique.sublist (List.filter_sublist.map f))

theorem asset_rows_ids (stored : Stored tables) : ((asset_rows tables dockyard_id).map (·.id)).Nodup := by
  refine nodup_rows ?_ _ _
  rw [Reconciliation.asset_ids]
  exact stored.keyed.assets_once.ids

theorem service_rows_ids (stored : Stored tables) : ((service_rows tables dockyard_id).map (·.id)).Nodup := by
  refine nodup_rows ?_ _ _
  rw [Reconciliation.service_ids]
  exact stored.keyed.services_once.ids

/-- The services of the assets of a snapshot, each once. -/
theorem services_nodup (stored : Stored tables) : ((asset_rows tables dockyard_id).flatMap fun asset =>
    ((service_rows tables dockyard_id).map service_view).filter fun service => service.asset_id = asset.id).Nodup := by
  have once : ((service_rows tables dockyard_id).map service_view).Nodup := by
    refine List.Nodup.of_map ServiceView.id ?_
    rw [List.map_map]
    have same : ServiceView.id ∘ service_view = Int.ofNat ∘ fun service : Service => service.id := rfl
    rw [same, ← List.map_map]
    exact (service_rows_ids stored).map fun _ _ => Int.ofNat.inj
  refine List.nodup_flatMap.mpr ⟨fun asset _ => once.sublist List.filter_sublist, ?_⟩
  refine (List.pairwise_map.mp (asset_rows_ids stored)).imp fun {first second} different => ?_
  intro service member inside
  have one := of_decide_eq_true (List.mem_filter.mp member).2
  have other := of_decide_eq_true (List.mem_filter.mp inside).2
  exact different (Int.ofNat.inj (one.symm.trans other))

theorem build_context_wellformed (stored : Stored tables)
    (built : build_context limits tables dockyard_id generated_at lookup = .ok context) : WellFormed context := by
  obtain ⟨assets, observations⟩ := build_context_rows built
  have services : services_of context = (asset_rows tables dockyard_id).flatMap fun asset =>
      ((service_rows tables dockyard_id).map service_view).filter fun service => service.asset_id = asset.id := by
    rw [services_of, assets, List.flatMap_map]
    rfl
  -- a service of the snapshot is the view of a row
  have of_row : ∀ service ∈ services_of context, ∃ row ∈ tables.services, service = service_view row := by
    intro service member
    rw [services] at member
    obtain ⟨asset, _, member⟩ := List.mem_flatMap.mp member
    obtain ⟨row, listed, rfl⟩ := List.mem_map.mp (List.mem_filter.mp member).1
    exact ⟨row, (mem_service_rows.mp listed).1, rfl⟩
  have once : (services_of context).Nodup := services ▸ services_nodup stored
  have of_asset : ∀ asset ∈ context.assets, ∃ row ∈ tables.assets, row.dockyard_id = dockyard_id ∧
      asset = asset_view ((service_rows tables dockyard_id).map service_view) row := by
    intro asset member
    rw [assets] at member
    obtain ⟨row, listed, rfl⟩ := List.mem_map.mp member
    exact ⟨row, (mem_asset_rows.mp listed).1, (mem_asset_rows.mp listed).2, rfl⟩
  have known_asset : ∀ row ∈ tables.assets, row.dockyard_id = dockyard_id →
      ∃ asset ∈ context.assets, asset.id = row.id ∧
        asset = asset_view ((service_rows tables dockyard_id).map service_view) row := by
    intro row listed dockyard
    refine ⟨_, ?_, rfl, rfl⟩
    rw [assets]
    exact List.mem_map.mpr ⟨row, mem_asset_rows.mpr ⟨listed, dockyard⟩, rfl⟩
  refine ⟨?_, ?_, ?_, ?_, ?_, ?_, ?_, ?_⟩
  · rw [assets, List.map_map]
    have same : AssetView.id ∘ asset_view ((service_rows tables dockyard_id).map service_view) = Int.ofNat ∘ fun asset : Asset => asset.id := rfl
    rw [same, ← List.map_map]
    exact (asset_rows_ids stored).map fun _ _ => Int.ofNat.inj
  · rw [assets, List.map_map]
    refine List.Nodup.map_on (fun first member second inside same => ?_) (List.Nodup.of_map _ (asset_rows_ids stored))
    have left := mem_asset_rows.mp member
    have right := mem_asset_rows.mp inside
    have keys : (first.id, first.dockyard_id, first.asset_type, first.identity) ∈ asset_keys tables :=
      List.mem_map.mpr ⟨first, left.1, rfl⟩
    have other : (second.id, first.dockyard_id, first.asset_type, first.identity) ∈ asset_keys tables := by
      have kinds : first.asset_type = second.asset_type := congrArg Prod.fst same
      have names : first.identity = second.identity := congrArg Prod.snd same
      rw [left.2, ← right.2, kinds, names]
      exact List.mem_map.mpr ⟨second, right.1, rfl⟩
    have id := stored.keyed.assets_once.id keys other
    have rows : ((asset_rows tables dockyard_id).map (·.id)).Nodup := asset_rows_ids stored
    exact List.inj_on_of_nodup_map rows member inside id
  · refine List.Nodup.map_on (fun first member second inside same => ?_) once
    obtain ⟨left, listed, rfl⟩ := of_row first member
    obtain ⟨right, found, rfl⟩ := of_row second inside
    rw [Reconciliation.same_row stored.keyed.services_once listed found (Int.ofNat.inj same)]
  · refine List.Nodup.map_on (fun first member second inside same => ?_) once
    obtain ⟨left, listed, rfl⟩ := of_row first member
    obtain ⟨right, found, rfl⟩ := of_row second inside
    have key := Reconciliation.key_mem listed
    have other : (right.id, left.asset_id, left.transport, left.port) ∈ service_keys tables := by
      have owners : left.asset_id = right.asset_id := Int.ofNat.inj (congrArg Prod.fst same)
      have transports : left.transport = right.transport := congrArg (fun socket => socket.2.1) same
      have ports : left.port = right.port := congrArg (fun socket => socket.2.2) same
      rw [owners, transports, ports]
      exact Reconciliation.key_mem found
    rw [Reconciliation.same_row stored.keyed.services_once listed found (stored.keyed.services_once.id key other)]
  · intro asset member service inside
    obtain ⟨row, _, _, rfl⟩ := of_asset asset member
    exact of_decide_eq_true (List.mem_filter.mp inside).2
  · intro asset member
    obtain ⟨row, listed, _, rfl⟩ := of_asset asset member
    exact stored.assets row listed
  · intro service member
    obtain ⟨row, listed, rfl⟩ := of_row service member
    exact stored.transports row listed
  · intro observation member
    obtain ⟨row, listed, dockyard, rfl⟩ := observations observation member
    refine ⟨fun id given => ?_, fun id given => ?_⟩
    · obtain ⟨asset_id, is, rfl⟩ := Option.map_eq_some_iff.mp given
      obtain ⟨asset, in_assets, own, same⟩ := stored.observed row listed asset_id is
      obtain ⟨view, in_context, view_id, _⟩ := known_asset asset in_assets (same.trans dockyard)
      exact ⟨view, in_context, by rw [view_id, own]; rfl⟩
    · obtain ⟨service_id, is, rfl⟩ := Option.map_eq_some_iff.mp given
      obtain ⟨service, in_services, own, owner⟩ := stored.of_asset row listed service_id is
      obtain ⟨asset, in_assets, same_id, same⟩ := stored.observed row listed _ owner
      obtain ⟨view, in_context, view_id, rfl⟩ := known_asset asset in_assets (same.trans dockyard)
      refine ⟨_, in_context, ?_, service_view service, List.mem_filter.mpr ⟨List.mem_map.mpr ⟨service, ?_, rfl⟩, ?_⟩, ?_⟩
      · show row.asset_id.map Int.ofNat = _
        rw [owner, view_id, same_id]
        rfl
      · exact mem_service_rows.mpr ⟨in_services, asset, mem_asset_rows.mpr ⟨in_assets, same.trans dockyard⟩, same_id⟩
      · rw [decide_eq_true_eq]
        show (service.asset_id : Int) = asset.id
        rw [same_id]
      · show (service.id : Int) = _
        rw [own]
        rfl

end

/-! ### Parts of a fingerprint -/

theorem or_absent_separated {value : Option Text} (named : ∀ t ∈ value, Named t) : '\x1f' ∉ or_absent value := by
  cases value with
  | none => decide
  | some t =>
    cases t with
    | nil => decide
    | cons c cs => exact (named (c :: cs) rfl).separated

/-- A named part is told from another one, and from none. -/
theorem or_absent_inj {first second : Option Text} (left : ∀ t ∈ first, Named t) (right : ∀ t ∈ second, Named t)
    (same : or_absent first = or_absent second) : first = second := by
  have named : ∀ {t : Text}, Named t → or_absent (some t) = t := by
    intro t is
    cases t with
    | nil => exact absurd rfl is.nonempty
    | cons c cs => rfl
  cases first with
  | none =>
    cases second with
    | none => rfl
    | some t =>
      rw [named (right t rfl)] at same
      exact absurd same.symm (right t rfl).present
  | some t =>
    rw [named (left t rfl)] at same
    cases second with
    | none => exact absurd same (left t rfl).present
    | some u => rw [same, named (right u rfl)]

/-- The endpoint of a fingerprint. -/
def endpoint_part (service : Option ServiceView) : Text :=
  match service with
  | some service => if service.transport.isEmpty then ABSENT else service.transport ++ '/' :: dec service.port
  | none => ABSENT

theorem fingerprint_text_eq (detector rule_id : Text) (asset : Option AssetView) (service : Option ServiceView) (scope_key : Text) :
    fingerprint_text detector rule_id asset service scope_key = FINGERPRINT_SCHEMA ++ '\x1f' :: (detector ++ '\x1f' :: (rule_id ++
      '\x1f' :: (or_absent (asset.map AssetView.asset_type) ++ '\x1f' :: (or_absent (asset.map AssetView.identity) ++
        '\x1f' :: (endpoint_part service ++ '\x1f' :: scope_key))))) := by
  have last : join ['\x1f'] [scope_key] = scope_key := by simp [join, List.intercalate]
  simp only [fingerprint_text, join_cons_cons, last, List.append_assoc, List.singleton_append]
  rfl

theorem dec_no_slash (n : Nat) : '/' ∉ dec n := by
  intro member
  exact absurd (isDigit_of_mem_dec member) (by decide)

theorem endpoint_separated {service : Option ServiceView} (transports : ∀ s ∈ service, s.transport ≠ [] ∧ '\x1f' ∉ s.transport) :
    '\x1f' ∉ endpoint_part service := by
  cases service with
  | none => decide
  | some service =>
    obtain ⟨nonempty, separated⟩ := transports service rfl
    have is : endpoint_part (some service) = service.transport ++ '/' :: dec service.port := by simp [endpoint_part, nonempty]
    rw [is]
    intro member
    rcases List.mem_append.mp member with transport | port
    · exact separated transport
    · rcases List.mem_cons.mp port with slash | digit
      · exact absurd slash (by decide)
      · exact absurd (isDigit_of_mem_dec digit) (by decide)

/-- Endpoints are told apart by their last slash. -/
theorem endpoint_inj {first second : Option ServiceView} (left : ∀ s ∈ first, s.transport ≠ []) (right : ∀ s ∈ second, s.transport ≠ [])
    (same : endpoint_part first = endpoint_part second) :
    first.map (fun s => (s.transport, s.port)) = second.map fun s => (s.transport, s.port) := by
  have present : ∀ {s : ServiceView}, s.transport ≠ [] → endpoint_part (some s) = s.transport ++ '/' :: dec s.port := by
    intro s nonempty
    simp [endpoint_part, nonempty]
  have absent : ∀ {s : ServiceView}, s.transport ≠ [] → endpoint_part (some s) ≠ ABSENT := by
    intro s nonempty equal
    have slash : '/' ∈ ABSENT := by
      rw [← equal, present nonempty]
      simp
    exact absurd slash (by decide)
  cases first with
  | none =>
    cases second with
    | none => rfl
    | some s => exact absurd same.symm (absent (right s rfl))
  | some s =>
    cases second with
    | none => exact absurd same (absent (left s rfl))
    | some t =>
      rw [present (left s rfl), present (right t rfl)] at same
      have reversed := congrArg List.reverse same
      simp only [List.reverse_append, List.reverse_cons, List.append_assoc, List.singleton_append] at reversed
      obtain ⟨ports, transports⟩ := append_sep_inj (fun member => dec_no_slash _ (List.mem_reverse.mp member))
        (fun member => dec_no_slash _ (List.mem_reverse.mp member)) reversed
      have port : s.port = t.port := by
        rw [← ofDec_dec s.port, List.reverse_injective ports, ofDec_dec]
      simp [List.reverse_injective transports, port]

/-! ### Fingerprints of subjects -/

theorem asset_with_some {context : DetectionContext} {asset_id : Option Int} {asset : AssetView}
    (found : asset_with context asset_id = some asset) : asset ∈ context.assets ∧ asset_id = some asset.id := by
  obtain ⟨id, given, found⟩ := Option.bind_eq_some_iff.mp found
  have own : asset.id = id := by simpa using List.find?_some found
  exact ⟨List.mem_of_find?_eq_some found, by rw [given, own]⟩

theorem service_with_some {context : DetectionContext} {service_id : Option Int} {service : ServiceView}
    (found : service_with context service_id = some service) : service ∈ services_of context ∧ service_id = some service.id := by
  obtain ⟨id, given, found⟩ := Option.bind_eq_some_iff.mp found
  have own : service.id = id := by simpa using List.find?_some found
  exact ⟨List.mem_of_find?_eq_some found, by rw [given, own]⟩

section
variable {context : DetectionContext} (wellformed : WellFormed context)
include wellformed

/-- A known asset and service are found, and belong together. -/
theorem Known.found {asset_id service_id : Option Int} (known : Known context asset_id service_id) :
    (asset_id.isSome = true → (asset_with context asset_id).isSome = true) ∧
      (service_id.isSome = true → ∃ service, service_with context service_id = some service ∧ asset_id = some service.asset_id) := by
  constructor
  · intro given
    obtain ⟨id, rfl⟩ := Option.isSome_iff_exists.mp given
    obtain ⟨asset, listed, own⟩ := known.asset id rfl
    show (context.assets.find? fun asset => decide (asset.id = id)).isSome = true
    rw [List.find?_isSome]
    exact ⟨asset, listed, by simp [own]⟩
  · intro given
    obtain ⟨id, rfl⟩ := Option.isSome_iff_exists.mp given
    obtain ⟨asset, listed, owner, service, inside, own⟩ := known.service id rfl
    have member : service ∈ services_of context := List.mem_flatMap.mpr ⟨asset, listed, inside⟩
    have found : ((services_of context).find? fun service => decide (service.id = id)).isSome = true := by
      rw [List.find?_isSome]
      exact ⟨service, member, by simp [own]⟩
    obtain ⟨first, is⟩ := Option.isSome_iff_exists.mp found
    have same : first = service := by
      refine List.inj_on_of_nodup_map wellformed.service_ids (List.mem_of_find?_eq_some is) member ?_
      have first_own : first.id = id := by simpa using List.find?_some is
      rw [first_own, own]
    exact ⟨first, is, by rw [same, owner, wellformed.owned asset listed service inside]⟩

/-- Known subjects with one fingerprint text are one, for one rule. -/
theorem subject_of_text {detector_id scope_key scope_key' : Text} {rule rule' : Text} {asset_id asset_id' service_id service_id' : Option Int}
    (separated : '\x1f' ∉ rule) (separated' : '\x1f' ∉ rule') (known : Known context asset_id service_id)
    (known' : Known context asset_id' service_id')
    (same : fingerprint_text detector_id rule (asset_with context asset_id) (service_with context service_id) scope_key =
      fingerprint_text detector_id rule' (asset_with context asset_id') (service_with context service_id') scope_key') :
    rule = rule' ∧ asset_id = asset_id' ∧ service_id = service_id' := by
  have assets : ∀ {id : Option Int} {asset : AssetView}, asset_with context id = some asset → asset ∈ context.assets :=
    fun found => (asset_with_some found).1
  have services : ∀ {id : Option Int} {service : ServiceView}, service_with context id = some service → service ∈ services_of context :=
    fun found => (service_with_some found).1
  have types : ∀ id, ∀ t ∈ (asset_with context id).map AssetView.asset_type, Named t := by
    intro id t given
    obtain ⟨asset, found, rfl⟩ := Option.map_eq_some_iff.mp given
    exact (wellformed.named asset (assets found)).1
  have identities : ∀ id, ∀ t ∈ (asset_with context id).map AssetView.identity, Named t := by
    intro id t given
    obtain ⟨asset, found, rfl⟩ := Option.map_eq_some_iff.mp given
    exact (wellformed.named asset (assets found)).2
  have transports : ∀ id, ∀ s ∈ service_with context id, s.transport ≠ [] ∧ '\x1f' ∉ s.transport :=
    fun id s found => wellformed.transports s (services found)
  rw [fingerprint_text_eq, fingerprint_text_eq] at same
  have rest := (List.cons.inj (List.append_cancel_left (List.cons.inj (List.append_cancel_left same)).2)).2
  obtain ⟨rules, rest⟩ := append_sep_inj separated separated' rest
  obtain ⟨kinds, rest⟩ := append_sep_inj (or_absent_separated (types _)) (or_absent_separated (types _)) rest
  obtain ⟨names, rest⟩ := append_sep_inj (or_absent_separated (identities _)) (or_absent_separated (identities _)) rest
  obtain ⟨endpoints, _⟩ := append_sep_inj (endpoint_separated (transports _)) (endpoint_separated (transports _)) rest
  have same_type := or_absent_inj (types _) (types _) kinds
  have same_identity := or_absent_inj (identities _) (identities _) names
  have same_socket := endpoint_inj (fun s found => (transports _ s found).1) (fun s found => (transports _ s found).1) endpoints
  have asset_same : asset_id = asset_id' := by
    cases here : asset_with context asset_id with
    | none =>
      cases there : asset_with context asset_id' with
      | none =>
        have none_of : ∀ {id : Option Int}, (id.isSome = true → (asset_with context id).isSome = true) →
            asset_with context id = none → id = none := by
          intro id finds absent
          cases id with
          | none => rfl
          | some i =>
            have found := finds rfl
            rw [absent] at found
            cases found
        rw [none_of (known.found wellformed).1 here, none_of (known'.found wellformed).1 there]
      | some asset =>
        rw [here, there] at same_type
        cases same_type
    | some asset =>
      cases there : asset_with context asset_id' with
      | none =>
        rw [here, there] at same_type
        cases same_type
      | some asset' =>
        rw [here, there] at same_type same_identity
        obtain ⟨listed, own⟩ := asset_with_some here
        obtain ⟨listed', own'⟩ := asset_with_some there
        have one : asset = asset' := List.inj_on_of_nodup_map wellformed.asset_keys listed listed'
          (Prod.ext (Option.some.inj same_type) (Option.some.inj same_identity))
        rw [own, own', one]
  refine ⟨rules, asset_same, ?_⟩
  cases given : service_id with
  | none =>
    cases given' : service_id' with
    | none => rfl
    | some id =>
      obtain ⟨service, found, _⟩ := (known'.found wellformed).2 (by simp [given'])
      rw [given, found] at same_socket
      cases same_socket
  | some id =>
    obtain ⟨service, found, owner⟩ := (known.found wellformed).2 (by simp [given])
    cases given' : service_id' with
    | none =>
      rw [given', found] at same_socket
      cases same_socket
    | some id' =>
      obtain ⟨service', found', owner'⟩ := (known'.found wellformed).2 (by simp [given'])
      rw [found, found'] at same_socket
      obtain ⟨listed, own⟩ := service_with_some found
      obtain ⟨listed', own'⟩ := service_with_some found'
      have owners : service.asset_id = service'.asset_id :=
        Option.some.inj (owner.symm.trans (asset_same.trans owner'))
      have one : service = service' := List.inj_on_of_nodup_map wellformed.sockets listed listed'
        (Prod.ext owners (Option.some.inj same_socket))
      rw [← given, ← given', own, own', one]

end

end RedDock.StoredRows
