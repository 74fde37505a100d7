import RedDock.FailureAtomicity

/-!
# What a completed run publishes

A run either leaves the tables as they were or commits all of its rows: the
reconciled assets and services, one observation after another, and the records
of its evidence.
-/
set_option autoImplicit false
namespace RedDock.Publications
open Text Targets DockGuard Inventory Transactions Publishing FailureAtomicity
open Discovery hiding World Phase Action step
open Executions (recheck)

/-! ### The rows of a run -/

def reconcile_service (identity : Text) (asset_id observed_at : Nat) (ids : Ids) (discovered : DiscoveredService)
    (tables : Tables) : Ids × Tables :=
  match upsert_service asset_id discovered observed_at tables with
  | (none, tables) => (ids, tables)
  | (some service_id, tables) => ({ ids with
      services := ((identity, discovered.transport, discovered.port), service_id) :: ids.services
      service_count := ids.service_count + 1 }, tables)

def reconcile_asset (dockyard_id observed_at : Nat) (ids : Ids) (discovered : DiscoveredAsset) (tables : Tables) : Ids × Tables :=
  let upserted := upsert_asset dockyard_id discovered observed_at tables
  foldlState (reconcile_service discovered.identity upserted.1 observed_at) discovered.services
    { ids with assets := (discovered.identity, upserted.1) :: ids.assets } upserted.2

/-- The assets and services of a run. -/
def reconcile (dockyard_id observed_at : Nat) (assets : List DiscoveredAsset) (tables : Tables) : Ids × Tables :=
  foldlState (reconcile_asset dockyard_id observed_at) assets {} tables

/-- The observations of a run. -/
def record_all (recording : Recording) (ids : Ids) (observations : List DiscoveredObservation) (tables : Tables) : Tables :=
  observations.foldl (fun tables observation =>
    record_observation recording (subject ids observation).1 (subject ids observation).2 observation tables) tables

def published (run : RunRow) (result : AdapterResult) (observations : List DiscoveredObservation) (observed_at : Nat)
    (stored : List StoredArtifact) (tables : Tables) : Tables :=
  let reconciled := reconcile run.dockyard_id observed_at result.assets tables
  add_records run stored (record_all (recording run observed_at) reconciled.1 observations reconciled.2)

/-! ### The transaction computes them -/

variable {fails : Nat → Option Raised} {evidence : Evidence} {Row : Type} {config : Config AdapterResult Row} {contact : Contact}

theorem foldlState_on_tables {α β : Type} (f : β → α → Tables → β × Tables) (items : List α) (b : β) (s : State) :
    foldlState (fun b a => on_tables (f b a)) items b s = on_tables (foldlState f items b) s := by
  induction items generalizing b s with
  | nil => rfl
  | cons item items ih => exact ih _ _

theorem persist_service_computes (identity : Text) (asset_id observed_at : Nat) (ids : Ids) (discovered : DiscoveredService) :
    Computes (persist_service fails identity asset_id observed_at ids discovered)
      (on_tables (reconcile_service identity asset_id observed_at ids discovered)) := by
  intro s a t ran
  obtain ⟨service_id, s', upserted, ran⟩ := bind_ok.mp ran
  have here := Computes.call fails _ s service_id s' upserted
  simp only [on_tables, Prod.mk.injEq] at here
  obtain ⟨is, working⟩ := here
  simp only [on_tables, reconcile_service]
  cases found : upsert_service asset_id discovered observed_at s.working.tables with
  | mk id tables =>
    rw [found] at is working
    cases is
    cases id with
    | none =>
      cases ran
      rw [working]
    | some id =>
      cases ran
      rw [working]

theorem persist_asset_computes (dockyard_id observed_at : Nat) (ids : Ids) (discovered : DiscoveredAsset) :
    Computes (persist_asset fails dockyard_id observed_at ids discovered)
      (on_tables (reconcile_asset dockyard_id observed_at ids discovered)) := by
  intro s a t ran
  obtain ⟨asset_id, s', upserted, ran⟩ := bind_ok.mp ran
  have here := Computes.call fails _ s asset_id s' upserted
  have rest := Computes.foldlM (persist_service_computes discovered.identity asset_id observed_at) discovered.services _ s' a t ran
  rw [foldlState_on_tables] at rest
  simp only [on_tables, Prod.mk.injEq] at here
  rw [rest, here.1, here.2]
  rfl

theorem record_all_computes (recording : Recording) (ids : Ids) (observations : List DiscoveredObservation) :
    Computes (observations.foldlM (fun _ observation => persist_observation fails recording ids observation) ())
      (on_tables fun tables => ((), record_all recording ids observations tables)) := by
  induction observations with
  | nil => exact .pure ()
  | cons observation observations ih => exact (Computes.call fails _).bind fun _ => ih

theorem persist_computes (run : RunRow) (result : AdapterResult) (observations : List DiscoveredObservation) (observed_at : Nat)
    {s t : Session State} {counts : Counts} (ran : persist fails run result observations observed_at s = (.ok counts, t)) :
    t.working = { s.working with
      tables := record_all (recording run observed_at) (reconcile run.dockyard_id observed_at result.assets s.working.tables).1
        observations (reconcile run.dockyard_id observed_at result.assets s.working.tables).2 } := by
  obtain ⟨ids, first, reconciled, ran⟩ := bind_ok.mp ran
  obtain ⟨_, second, recorded, ran⟩ := bind_ok.mp ran
  obtain ⟨_, third, flushed, ran⟩ := bind_ok.mp ran
  cases ran
  have here := Computes.foldlM (persist_asset_computes run.dockyard_id observed_at) result.assets {} s ids first reconciled
  rw [foldlState_on_tables] at here
  have there := record_all_computes _ ids observations first () second recorded
  have last := Computes.call fails _ second () _ flushed
  simp only [on_tables, Prod.mk.injEq, true_and] at here there last
  rw [last, there, here.2, here.1]
  rfl

/-- The artifacts of a run: one of them is the normalized document. -/
def Documented (stored : List StoredArtifact) : Prop :=
  ∃ raw normalized metadata, stored = raw ++ [normalized, metadata] ∧ (∀ artifact ∈ raw, artifact.kind = "raw".toList) ∧
    normalized.kind = "normalized".toList ∧ metadata.kind = "metadata".toList

theorem write_raw_reads (artifact : RawArtifact) :
    Reads (write_raw fails evidence artifact) fun stored => stored.kind = "raw".toList := by
  unfold write_raw
  split
  · intro s a t ran
    cases ran
  · exact .read fails fun _ => rfl

theorem write_document_reads (kind relative_path : Text) (payload : List UInt8) :
    Reads (write_document fails evidence kind relative_path payload) fun stored => stored.kind = kind := by
  unfold write_document write
  exact .read fails fun _ => rfl

theorem store_evidence_computes (run : RunRow) (result : AdapterResult) (observations : List DiscoveredObservation)
    (evaluation : Evaluation) (counts : Counts) {s t : Session State}
    (ran : store_evidence fails evidence run result observations evaluation counts s = (.ok (), t)) :
    ∃ stored, Documented stored ∧ t.working.tables = add_records run stored s.working.tables := by
  obtain ⟨raw, first, wrote, ran⟩ := bind_ok.mp ran
  obtain ⟨normalized, second, document, ran⟩ := bind_ok.mp ran
  obtain ⟨metadata, third, described, ran⟩ := bind_ok.mp ran
  obtain ⟨kinds, one⟩ := Reads.mapM write_raw_reads result.artifacts s raw first wrote
  obtain ⟨normal, two⟩ := write_document_reads _ _ _ first normalized second document
  obtain ⟨meta_kind, three⟩ := write_document_reads _ _ _ second metadata third described
  refine ⟨raw ++ [normalized, metadata], ⟨raw, normalized, metadata, rfl, kinds, normal, meta_kind⟩, ?_⟩
  have last := Computes.call fails _ third () t ran
  rw [(Prod.mk.inj last).2, three, two, one]
  simp

/-! ### Observations of a run -/

/-- A row that records an observation of a run. -/
structure Records (recording : Recording) (ids : Ids) (observation : DiscoveredObservation) (row : Observation) : Prop where
  dockyard : row.dockyard_id = recording.dockyard_id
  run : row.discovery_run_id = recording.run_id
  asset : row.asset_id = (subject ids observation).1
  service : row.service_id = (subject ids observation).2
  kind : row.observation_type = observation.observation_type
  detail : row.detail = observation.detail
  time : row.observed_at = recording.observed_at

/-- Observations are appended, under ids that grow. -/
theorem record_all_appends (recording : Recording) (ids : Ids) (observations : List DiscoveredObservation) (tables : Tables) :
    (record_all recording ids observations tables).assets = tables.assets ∧
      (record_all recording ids observations tables).services = tables.services ∧
      (record_all recording ids observations tables).evidence_records = tables.evidence_records ∧
      ∃ rows, (record_all recording ids observations tables).observations = tables.observations ++ rows ∧
        List.Forall₂ (Records recording ids) observations rows ∧
        ((tables.observations.map (·.id)).Pairwise (· < ·) →
          ((tables.observations ++ rows).map (·.id)).Pairwise (· < ·)) := by
  induction observations generalizing tables with
  | nil => exact ⟨rfl, rfl, rfl, [], by simp [record_all], .nil, by simp⟩
  | cons observation observations ih =>
    obtain ⟨assets, services, records, rows, appended, recorded, growing⟩ :=
      ih (record_observation recording (subject ids observation).1 (subject ids observation).2 observation tables)
    have here : Records recording ids observation (new_observation (fresh (tables.observations.map (·.id))) recording
        (subject ids observation).1 (subject ids observation).2 observation) := ⟨rfl, rfl, rfl, rfl, rfl, rfl, rfl⟩
    refine ⟨assets, services, records, _ :: rows, ?_, .cons here recorded, fun before => ?_⟩
    · rw [List.append_cons]
      exact appended
    · rw [List.append_cons]
      refine growing ?_
      simp only [record_observation, List.map_append, List.map_cons, List.map_nil]
      refine List.pairwise_append.mpr ⟨before, List.pairwise_singleton _ _, fun id member other single => ?_⟩
      rw [List.mem_singleton] at single
      exact single ▸ lt_fresh member

theorem add_records_frame (run : RunRow) (stored : List StoredArtifact) (tables : Tables) :
    (add_records run stored tables).assets = tables.assets ∧ (add_records run stored tables).services = tables.services ∧
      (add_records run stored tables).observations = tables.observations := by
  induction stored generalizing tables with
  | nil => exact ⟨rfl, rfl, rfl⟩
  | cons artifact stored ih => exact ih _

/-- Reconciling writes assets and services only. -/
theorem upsert_asset_frame (dockyard_id observed_at : Nat) (discovered : DiscoveredAsset) (tables : Tables) :
    (upsert_asset dockyard_id discovered observed_at tables).2.observations = tables.observations ∧
      (upsert_asset dockyard_id discovered observed_at tables).2.evidence_records = tables.evidence_records := by
  unfold upsert_asset
  split <;> exact ⟨rfl, rfl⟩

theorem upsert_service_frame (asset_id observed_at : Nat) (discovered : DiscoveredService) (tables : Tables) :
    (upsert_service asset_id discovered observed_at tables).2.observations = tables.observations ∧
      (upsert_service asset_id discovered observed_at tables).2.evidence_records = tables.evidence_records := by
  unfold upsert_service
  split
  · split <;> exact ⟨rfl, rfl⟩
  · exact ⟨rfl, rfl⟩

theorem foldlState_frame {α β γ : Type} {f : β → α → Tables → β × Tables} {column : Tables → γ}
    (kept : ∀ b a tables, column (f b a tables).2 = column tables) (items : List α) (b : β) (tables : Tables) :
    column (foldlState f items b tables).2 = column tables := by
  induction items generalizing b tables with
  | nil => rfl
  | cons item items ih => exact (ih _ _).trans (kept b item tables)

/-- A column that reconciling assets and services leaves alone. -/
theorem reconcile_keeps {γ : Type} {column : Tables → γ}
    (assets : ∀ dockyard_id discovered seen_at tables,
      column (upsert_asset dockyard_id discovered seen_at tables).2 = column tables)
    (services : ∀ asset_id discovered seen_at tables,
      column (upsert_service asset_id discovered seen_at tables).2 = column tables)
    (dockyard_id observed_at : Nat) (reported : List DiscoveredAsset) (tables : Tables) :
    column (reconcile dockyard_id observed_at reported tables).2 = column tables := by
  have service : ∀ identity asset_id ids discovered tables,
      column (reconcile_service identity asset_id observed_at ids discovered tables).2 = column tables := by
    intro identity asset_id ids discovered tables
    have here := services asset_id discovered observed_at tables
    unfold reconcile_service
    split
    · rename_i upserted
      rw [upserted] at here
      exact here
    · rename_i upserted
      rw [upserted] at here
      exact here
  refine foldlState_frame (fun ids discovered tables => ?_) reported ({} : Ids) tables
  exact (foldlState_frame (service _ _) discovered.services _ _).trans (assets dockyard_id discovered observed_at tables)

theorem reconcile_frame (dockyard_id observed_at : Nat) (reported : List DiscoveredAsset) (tables : Tables) :
    (reconcile dockyard_id observed_at reported tables).2.observations = tables.observations ∧
      (reconcile dockyard_id observed_at reported tables).2.evidence_records = tables.evidence_records :=
  ⟨reconcile_keeps (fun _ _ _ _ => (upsert_asset_frame _ _ _ _).1) (fun _ _ _ _ => (upsert_service_frame _ _ _ _).1) _ _ _ _,
    reconcile_keeps (fun _ _ _ _ => (upsert_asset_frame _ _ _ _).2) (fun _ _ _ _ => (upsert_service_frame _ _ _ _).2) _ _ _ _⟩

/-! ### Nothing or everything -/

/-- Everything a run publishes is in the tables, and the run is completed. -/
def Published (contact : Contact) (s t : State) : Prop :=
  ∃ result stored, contact.answer = .ok result ∧ Documented stored ∧ t.run.status = .completed ∧
    t.tables = published s.run result (run_observations s.run contact.evaluation result) contact.observed_at stored s.tables

theorem perform_ok {s t : Session State} (ran : perform fails evidence config contact s.working.run s = (.ok (), t)) :
    t.committed.tables = s.working.tables ∨ Published contact s.working t.committed := by
  obtain ⟨result, first, answered, ran⟩ := bind_ok.mp ran
  have answer : contact.answer = .ok result ∧ first = s := by
    cases given : contact.answer with
    | error raised =>
      rw [given] at answered
      cases answered
    | ok value =>
      rw [given] at answered
      cases answered
      exact ⟨rfl, rfl⟩
  obtain ⟨answer, rfl⟩ := answer
  obtain ⟨entries, second, listed, ran⟩ := bind_ok.mp ran
  have read := Computes.call fails _ first entries second listed
  rw [Prod.mk.injEq] at read
  cases decided : recheck config entries first.working.run.toDiscoveryRun contact.evaluation with
  | error raised =>
    simp only [decided] at ran
    cases ran
  | ok decision =>
    simp only [decided] at ran
    cases decision with
    | some decision =>
      obtain ⟨_, third, changed, ran⟩ := bind_ok.mp ran
      cases changed
      left
      rw [commit_ok ran, read.2]
    | none =>
      obtain ⟨counts, third, persisted, ran⟩ := bind_ok.mp ran
      obtain ⟨_, fourth, kept, ran⟩ := bind_ok.mp ran
      obtain ⟨_, fifth, changed, ran⟩ := bind_ok.mp ran
      obtain ⟨stored, documented, tables⟩ := store_evidence_computes _ _ _ _ _ kept
      cases changed
      right
      refine ⟨result, stored, answer, documented, by rw [commit_ok ran], ?_⟩
      rw [commit_ok ran]
      show fourth.working.tables = _
      rw [tables, persist_computes _ _ _ _ persisted, read.2]
      rfl

/-- A run leaves the tables as they were, or publishes. -/
theorem execute_cases {s : Session State} (clean : s.working = s.committed) :
    (execute fails evidence config contact s).committed.tables = s.committed.tables ∨
      Published contact s.committed (execute fails evidence config contact s).committed := by
  rcases performed : perform fails evidence config contact s.working.run s with ⟨raised | _, t⟩
  · exact Or.inl (execute_failed performed)
  · have done : execute fails evidence config contact s = t := by
      unfold execute
      rw [performed]
    rw [done, ← clean]
    exact perform_ok performed

end RedDock.Publications
