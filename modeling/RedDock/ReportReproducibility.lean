import RedDock.KeyedRows
import RedDock.PublishedReports

/-!
# Report reproducibility

A report depends on what its Dockyard owns and on nothing else: not on other
Dockyards, on report runs, on security events, or on the order of the rows.
-/
set_option autoImplicit false
namespace RedDock.Reporting
open Text Fallible
open Inventory (EvidenceRecord)
open Retained
open Members (parts)

/-! ### What a Dockyard owns -/

/-- The services of the assets of a Dockyard. -/
def own_services (db : Database) (dockyard_id : Nat) : List Inventory.Service :=
  db.services.filter fun row => db.assets.any fun asset => asset.id = row.asset_id && asset.dockyard_id = dockyard_id

/-- The links of the findings of a Dockyard. -/
def own_links (db : Database) (dockyard_id : Nat) : List FindingEvidence :=
  db.finding_evidence.filter fun link => db.findings.any fun finding => finding.id = link.finding_id && finding.dockyard_id = dockyard_id

/-- Two databases with the same rows of a Dockyard, in any order; report runs,
    security events and the rows of other Dockyards may differ. -/
structure Agree (dockyard_id : Nat) (db other : Database) : Prop where
  dockyard : Retained.dockyard db dockyard_id = Retained.dockyard other dockyard_id
  scope_entries : (db.scope_entries.filter fun row => row.dockyard_id = dockyard_id).Perm
    (other.scope_entries.filter fun row => row.dockyard_id = dockyard_id)
  assets : (db.assets.filter fun row => row.dockyard_id = dockyard_id).Perm (other.assets.filter fun row => row.dockyard_id = dockyard_id)
  services : (own_services db dockyard_id).Perm (own_services other dockyard_id)
  discovery_runs : (db.discovery_runs.filter fun row => row.dockyard_id = dockyard_id).Perm
    (other.discovery_runs.filter fun row => row.dockyard_id = dockyard_id)
  observations : (db.observations.filter fun row => row.dockyard_id = dockyard_id).Perm
    (other.observations.filter fun row => row.dockyard_id = dockyard_id)
  evidence_records : (db.evidence_records.filter fun row => row.dockyard_id = dockyard_id).Perm
    (other.evidence_records.filter fun row => row.dockyard_id = dockyard_id)
  detection_runs : (db.detection_runs.filter fun row => row.dockyard_id = dockyard_id).Perm
    (other.detection_runs.filter fun row => row.dockyard_id = dockyard_id)
  findings : (db.findings.filter fun row => row.dockyard_id = dockyard_id).Perm
    (other.findings.filter fun row => row.dockyard_id = dockyard_id)
  finding_evidence : (own_links db dockyard_id).Perm (own_links other dockyard_id)
  validation_runs : (db.validation_runs.filter fun row => row.dockyard_id = dockyard_id).Perm
    (other.validation_runs.filter fun row => row.dockyard_id = dockyard_id)
  correlation_runs : (db.correlation_runs.filter fun row => row.dockyard_id = dockyard_id).Perm
    (other.correlation_runs.filter fun row => row.dockyard_id = dockyard_id)
  intelligence_runs : (db.intelligence_runs.filter fun row => row.dockyard_id = dockyard_id).Perm
    (other.intelligence_runs.filter fun row => row.dockyard_id = dockyard_id)
  lab_authorizations : (db.lab_authorizations.filter fun row => row.dockyard_id = dockyard_id).Perm
    (other.lab_authorizations.filter fun row => row.dockyard_id = dockyard_id)
  lab_audit_events : (db.lab_audit_events.filter fun row => row.dockyard_id = dockyard_id).Perm
    (other.lab_audit_events.filter fun row => row.dockyard_id = dockyard_id)

/-- What the schema and the runners keep of the rows of a Dockyard: primary keys
    are unique, a finding cites evidence of its own Dockyard, and a run stores the
    path of its own directory. -/
structure Sound (db : Database) (dockyard_id : Nat) : Prop where
  scope_entries : (db.scope_entries.map ScopeEntry.id).Nodup
  assets : (db.assets.map Inventory.Asset.id).Nodup
  services : (db.services.map Inventory.Service.id).Nodup
  discovery_runs : (db.discovery_runs.map DiscoveryRun.id).Nodup
  evidence_records : (db.evidence_records.map EvidenceRecord.id).Nodup
  detection_runs : (db.detection_runs.map fun run => run.id).Nodup
  findings : (db.findings.map Finding.id).Nodup
  finding_evidence : (db.finding_evidence.map FindingEvidence.id).Nodup
  validation_runs : (db.validation_runs.map ValidationRun.id).Nodup
  correlation_runs : (db.correlation_runs.map CorrelationRun.id).Nodup
  intelligence_runs : (db.intelligence_runs.map IntelligenceRun.id).Nodup
  lab_authorizations : (db.lab_authorizations.map LabAuthorization.id).Nodup
  lab_audit_events : (db.lab_audit_events.map LabAuditEvent.id).Nodup
  cites_own : ∀ link ∈ own_links db dockyard_id, ∀ record, record_of db link = some record → record.dockyard_id = dockyard_id
  detection_paths : ∀ run ∈ db.detection_runs, run.dockyard_id = dockyard_id → ∀ path, run.evidence_path = some path →
    path = relative_run_path dockyard_id run.id .detection
  validation_paths : ∀ run ∈ db.validation_runs, run.dockyard_id = dockyard_id → ∀ path, run.evidence_path = some path →
    path = relative_run_path dockyard_id run.id .validation
  correlation_paths : ∀ run ∈ db.correlation_runs, run.dockyard_id = dockyard_id → ∀ path, run.evidence_path = some path →
    path = relative_run_path dockyard_id run.id .correlation
  intelligence_paths : ∀ run ∈ db.intelligence_runs, run.dockyard_id = dockyard_id → ∀ path, run.evidence_path = some path →
    path = relative_run_path dockyard_id run.id .intelligence

/-- Two evidence stores with the same files of a Dockyard, its reports aside. -/
def SameFiles (dockyard_id : Nat) (files others : Files) : Prop :=
  ∀ second rest, second ≠ REPORTING_SCOPE → files (dec dockyard_id :: second :: rest) = others (dec dockyard_id :: second :: rest)

/-! ### Queries -/

section
variable {Row Key : Type} [LinearOrder Key]

/-- Rows with distinct ids are in one order under a key that has the id. -/
theorem ordered_same {rows others : List Row} {id : Row → Nat} {key : Row → Key} (last : Key → Nat) (has : ∀ row, last (key row) = id row)
    (perm : rows.Perm others) (distinct : (rows.map id).Nodup) : ordered key rows = ordered key others := by
  refine ordered_perm perm (List.Nodup.of_map last ?_)
  rw [List.map_map]
  exact (List.map_congr_left fun row _ => (has row).symm) ▸ distinct

theorem filtered_once {rows : List Row} {id : Row → Nat} {own : Row → Bool} (once : (rows.map id).Nodup) : ((rows.filter own).map id).Nodup :=
  once.sublist (List.filter_sublist.map id)

end

section
variable {db other : Database} {dockyard_id : Nat}

section
variable (agree : Agree dockyard_id db other) (sound : Sound db dockyard_id)
include agree sound

theorem same_evidence_records : evidence_records db dockyard_id = evidence_records other dockyard_id :=
  ordered_same (fun key => (ofLex (ofLex key).2).2) (fun _ => rfl) agree.evidence_records (filtered_once sound.evidence_records)

theorem same_detection_runs : Retained.detection_runs db dockyard_id = Retained.detection_runs other dockyard_id :=
  ordered_same id (fun _ => rfl) agree.detection_runs (filtered_once sound.detection_runs)

theorem same_validation_runs : Retained.validation_runs db dockyard_id = Retained.validation_runs other dockyard_id :=
  ordered_same id (fun _ => rfl) agree.validation_runs (filtered_once sound.validation_runs)

theorem same_correlation_runs : Retained.correlation_runs db dockyard_id = Retained.correlation_runs other dockyard_id :=
  ordered_same id (fun _ => rfl) agree.correlation_runs (filtered_once sound.correlation_runs)

theorem same_intelligence_runs : Retained.intelligence_runs db dockyard_id = Retained.intelligence_runs other dockyard_id :=
  ordered_same id (fun _ => rfl) agree.intelligence_runs (filtered_once sound.intelligence_runs)

theorem same_assets : Retained.assets db dockyard_id = Retained.assets other dockyard_id :=
  ordered_same id (fun _ => rfl) agree.assets (filtered_once sound.assets)

theorem same_services : Retained.services db dockyard_id = Retained.services other dockyard_id :=
  ordered_same (fun key => (ofLex (ofLex (ofLex key).2).2).2) (fun _ => rfl) agree.services (filtered_once sound.services)

theorem same_findings : Retained.findings db dockyard_id = Retained.findings other dockyard_id :=
  ordered_same id (fun _ => rfl) agree.findings (filtered_once sound.findings)

theorem same_scope_entries : Retained.scope_entries db dockyard_id = Retained.scope_entries other dockyard_id :=
  ordered_same id (fun _ => rfl) agree.scope_entries (filtered_once sound.scope_entries)

theorem same_lab_authorizations : Retained.lab_authorizations db dockyard_id = Retained.lab_authorizations other dockyard_id :=
  ordered_same id (fun _ => rfl) agree.lab_authorizations (filtered_once sound.lab_authorizations)

theorem same_lab_audit_events : Retained.lab_audit_events db dockyard_id = Retained.lab_audit_events other dockyard_id :=
  ordered_same id (fun _ => rfl) agree.lab_audit_events (filtered_once sound.lab_audit_events)

theorem same_validation_rows : validation_rows db dockyard_id = validation_rows other dockyard_id := by
  unfold validation_rows
  rw [@ordered_same _ _ _ _ _ ValidationRun.id _ (fun key => (ofLex key).2) (fun _ => rfl) agree.validation_runs
    (filtered_once sound.validation_runs)]

end

/-! ### Joins -/

section
variable {Row : Type}

theorem any_found {rows : List Row} {id : Row → Nat} (once : (rows.map id).Nodup) (k : Nat) (P : Row → Bool) :
    (rows.find? fun row => id row = k).any P = rows.any fun row => id row = k && P row := by
  cases found : rows.find? fun row => id row = k with
  | none =>
    have absent := List.find?_eq_none.mp found
    simp only [decide_eq_true_eq] at absent
    rw [Option.any_none, eq_comm, List.any_eq_false]
    intro row member
    simp [absent row member]
  | some row =>
    have named : id row = k := by simpa using List.find?_some found
    have listed := List.mem_of_find?_eq_some found
    rw [Option.any_some]
    refine Bool.eq_iff_iff.mpr ⟨fun holds => List.any_eq_true.mpr ⟨row, listed, by simp [named, holds]⟩, fun holds => ?_⟩
    obtain ⟨other, member, both⟩ := List.any_eq_true.mp holds
    simp only [Bool.and_eq_true, decide_eq_true_eq] at both
    rw [← KeyedRows.eq_of_key once member listed (both.1.trans named.symm)]
    exact both.2

theorem any_own {rows others : List Row} {own : Row → Bool} (perm : (rows.filter own).Perm (others.filter own)) (P : Row → Bool) :
    (rows.any fun row => own row && P row) = others.any fun row => own row && P row := by
  have each (list : List Row) : (list.any fun row => own row && P row) = (list.filter own).any P := by
    rw [List.any_filter]
  rw [each, each, perm.any_eq]

end

theorem same_records (agree : Agree dockyard_id db other) (sound : Sound db dockyard_id) (other_sound : Sound other dockyard_id)
    {link : FindingEvidence} (own : link ∈ own_links db dockyard_id) : record_of db link = record_of other link := by
  have other_own : link ∈ own_links other dockyard_id := agree.finding_evidence.mem_iff.mp own
  have mine := sound.cites_own link own
  have others := other_sound.cites_own link other_own
  unfold record_of at mine others ⊢
  cases cited : link.evidence_record_id with
  | none => rfl
  | some k =>
    rw [cited, Option.bind_some] at mine others
    rw [Option.bind_some, Option.bind_some]
    refine KeyedRows.find_agree sound.evidence_records other_sound.evidence_records fun row named => ⟨fun member => ?_, fun member => ?_⟩
    · have found := KeyedRows.find_key sound.evidence_records member
      rw [named] at found
      have both : row ∈ db.evidence_records.filter fun row => row.dockyard_id = dockyard_id :=
        List.mem_filter.mpr ⟨member, decide_eq_true (mine row found)⟩
      exact (List.mem_filter.mp (agree.evidence_records.mem_iff.mp both)).1
    · have found := KeyedRows.find_key other_sound.evidence_records member
      rw [named] at found
      have both : row ∈ other.evidence_records.filter fun row => row.dockyard_id = dockyard_id :=
        List.mem_filter.mpr ⟨member, decide_eq_true (others row found)⟩
      exact (List.mem_filter.mp (agree.evidence_records.mem_iff.mpr both)).1

theorem same_links (agree : Agree dockyard_id db other) (sound : Sound db dockyard_id) (other_sound : Sound other dockyard_id) :
    finding_evidence db dockyard_id = finding_evidence other dockyard_id := by
  have order : ordered (fun link : FindingEvidence => toLex (link.finding_id, link.id)) (own_links db dockyard_id) =
      ordered (fun link : FindingEvidence => toLex (link.finding_id, link.id)) (own_links other dockyard_id) :=
    ordered_same (fun key => (ofLex key).2) (fun _ => rfl) agree.finding_evidence (filtered_once sound.finding_evidence)
  have unfolded (database : Database) : finding_evidence database dockyard_id =
      (ordered (fun link => toLex (link.finding_id, link.id)) (own_links database dockyard_id)).map fun link => (link, record_of database link) := rfl
  rw [unfolded, unfolded, ← order]
  refine List.map_congr_left fun link member => ?_
  rw [same_records agree sound other_sound (mem_ordered.mp member)]

/-! ### Coverage -/

section
variable (agree : Agree dockyard_id db other) (sound : Sound db dockyard_id) (other_sound : Sound other dockyard_id)
include agree sound other_sound

/-- A condition on an own discovery run. -/
theorem same_discovery (run_id : Nat) (P : Coverage.DiscoveryRun → Bool) :
    (((coverage_tables db).discoveries run_id).any fun run => run.dockyard_id = dockyard_id && P run) =
      ((coverage_tables other).discoveries run_id).any fun run => run.dockyard_id = dockyard_id && P run := by
  have unfolded (database : Database) (once : (database.discovery_runs.map DiscoveryRun.id).Nodup) :
      (((coverage_tables database).discoveries run_id).any fun run => run.dockyard_id = dockyard_id && P run) =
        database.discovery_runs.any fun run => decide (run.dockyard_id = dockyard_id) &&
          (decide (run.id = run_id) && P { dockyard_id := run.dockyard_id, status := run.status, completed_at := run.completed_at }) := by
    show Option.any _ ((database.discovery_runs.find? fun run => run.id = run_id).map _) = _
    rw [Option.any_map, any_found once]
    refine congrArg (List.any database.discovery_runs) (funext fun run => ?_)
    exact Bool.and_left_comm _ _ _
  rw [unfolded db sound.discovery_runs, unfolded other other_sound.discovery_runs]
  exact any_own agree.discovery_runs _

omit sound other_sound in
theorem same_sources (run_id : Nat) :
    Coverage.in_sources (coverage_tables db) dockyard_id run_id = Coverage.in_sources (coverage_tables other) dockyard_id run_id := by
  have unfolded (database : Database) : Coverage.in_sources (coverage_tables database) dockyard_id run_id =
      database.evidence_records.any fun record => decide (record.dockyard_id = dockyard_id) &&
        (decide (record.kind = "normalized".toList) && (!record.truncated && decide (record.discovery_run_id = run_id))) := by
    simp only [Coverage.in_sources, coverage_tables, List.any_map, Bool.and_assoc]
    rfl
  rw [unfolded, unfolded]
  exact any_own agree.evidence_records _

theorem same_counted (check : Coverage.Check) :
    Coverage.counted (coverage_tables db) dockyard_id check = Coverage.counted (coverage_tables other) dockyard_id check := by
  funext observation
  unfold Coverage.counted
  simp only [Bool.and_assoc]
  rw [same_discovery agree sound other_sound, same_sources agree]

theorem same_counted_observations (check : Coverage.Check) :
    (Coverage.counted_observations (coverage_tables db) dockyard_id check).Perm
      (Coverage.counted_observations (coverage_tables other) dockyard_id check) := by
  have own (database : Database) : Coverage.counted_observations (coverage_tables database) dockyard_id check =
      ((coverage_tables database).observations.filter fun row => row.dockyard_id = dockyard_id).filter
        (Coverage.counted (coverage_tables database) dockyard_id check) := by
    rw [List.filter_filter]
    refine List.filter_congr fun row _ => (Bool.and_eq_left_iff_imp.mpr fun counted => ?_).symm
    unfold Coverage.counted at counted
    simp only [Bool.and_eq_true] at counted
    exact counted.1.1
  rw [own, own, same_counted agree sound other_sound]
  refine List.Perm.filter _ ?_
  show (List.filter _ (db.observations.map _)).Perm (List.filter _ (other.observations.map _))
  rw [List.filter_map, List.filter_map]
  exact agree.observations.map _

theorem same_reviewed (check : Coverage.Check) (started_at : Nat) :
    (Coverage.reviewed_observations (coverage_tables db) dockyard_id check started_at).length =
      (Coverage.reviewed_observations (coverage_tables other) dockyard_id check started_at).length := by
  -- a counted observation is of a run of the Dockyard
  have own (database : Database) : Coverage.reviewed_observations (coverage_tables database) dockyard_id check started_at =
      (Coverage.counted_observations (coverage_tables database) dockyard_id check).filter fun observation =>
        decide (observation.created_at ≤ started_at) && ((coverage_tables database).discoveries observation.discovery_run_id).any fun run =>
          decide (run.dockyard_id = dockyard_id) && run.completed_at.any (· ≤ started_at) := by
    refine List.filter_congr fun observation member => ?_
    have counted := (List.mem_filter.mp member).2
    unfold Coverage.counted at counted
    unfold Coverage.before_start
    cases found : (coverage_tables database).discoveries observation.discovery_run_id with
    | none => simp only [Option.any_none]
    | some run =>
      rw [found, Option.any_some] at counted
      simp only [Bool.and_eq_true] at counted
      rw [Option.any_some, Option.any_some, counted.2.1.1, Bool.true_and]
  rw [own, own]
  simp only [same_discovery agree sound other_sound]
  exact ((same_counted_observations agree sound other_sound check).filter _).length_eq

omit other_sound in
theorem same_latest : Coverage.latest_detection (coverage_tables db) dockyard_id = Coverage.latest_detection (coverage_tables other) dockyard_id := by
  have own (database : Database) : (coverage_tables database).detections.filter (fun run => run.dockyard_id = dockyard_id) =
      (database.detection_runs.filter fun run => run.dockyard_id = dockyard_id).map DetectionRun.toDetectionRun := by
    show (database.detection_runs.map _).filter _ = _
    rw [List.filter_map]
    rfl
  unfold Coverage.latest_detection
  rw [own, own]
  refine congrArg List.head? (@ordered_same _ _ _ _ _ (fun run => run.id)
    (fun run : Coverage.DetectionRun => OrderDual.toDual run.id) OrderDual.ofDual (fun _ => rfl) (agree.detection_runs.map _) ?_)
  rw [List.map_map]
  exact filtered_once sound.detection_runs

theorem same_coverage :
    Coverage.assessment_coverage dockyard_id (coverage_tables db) (fun _ => coverage_tables db) (fun _ => coverage_tables db) =
      Coverage.assessment_coverage dockyard_id (coverage_tables other) (fun _ => coverage_tables other) fun _ => coverage_tables other := by
  unfold Coverage.assessment_coverage Coverage.check_coverage
  simp only [same_latest agree sound, (same_counted_observations agree sound other_sound _).length_eq,
    same_reviewed agree sound other_sound]

/-! ### The snapshot -/

theorem same_snapshot (manifest : Manifest) : snapshot db dockyard_id manifest = snapshot other dockyard_id manifest := by
  have counted : (observations db dockyard_id).length = (observations other dockyard_id).length := agree.observations.length_eq
  unfold snapshot cited_evidence lab_snapshot
  rw [agree.dockyard, same_assets agree sound, same_services agree sound, same_findings agree sound, same_links agree sound other_sound,
    same_validation_rows agree sound, same_lab_authorizations agree sound, same_lab_audit_events agree sound,
    same_scope_entries agree sound, counted, same_coverage agree sound other_sound, same_correlation_runs agree sound,
    same_intelligence_runs agree sound]

end

theorem same_active (agree : Agree dockyard_id db other) : reject_active_sources db dockyard_id = reject_active_sources other dockyard_id := by
  unfold reject_active_sources active_sources
  rw [any_own agree.discovery_runs, any_own agree.detection_runs, any_own agree.validation_runs, any_own agree.correlation_runs,
    any_own agree.intelligence_runs]

/-! ### The files -/

section
variable {library : Library} {files others : Files}

/-- A directory of a Dockyard that is not one of its reports. -/
def Placed (dockyard_id : Nat) (base : Text) : Prop := ∃ second rest, second ≠ REPORTING_SCOPE ∧ parts base = dec dockyard_id :: second :: rest

theorem placed_run (dockyard_id run_id : Nat) (scope : Scope) (apart : scope ≠ .reporting) :
    Placed dockyard_id (relative_run_path dockyard_id run_id scope) := by
  have is := (safe_relative_ok (safe_run_path dockyard_id run_id scope)).1.symm
  cases scope
  case reporting => exact absurd rfl apart
  case discovery => exact ⟨dec run_id, [], (reporting_not_number run_id).symm, is⟩
  case detection => exact ⟨"detection".toList, [dec run_id], by decide, is⟩
  case validation => exact ⟨"validation".toList, [dec run_id], by decide, is⟩
  case correlation => exact ⟨"correlation".toList, [dec run_id], by decide, is⟩
  case intelligence => exact ⟨"intelligence".toList, [dec run_id], by decide, is⟩

theorem placed_record (dockyard_id run_id : Nat) : Placed dockyard_id (below (dec dockyard_id) (dec run_id)) := by
  have is : below (dec dockyard_id) (dec run_id) = relative_run_path dockyard_id run_id .discovery := by
    simp [below, relative_run_path, run_directory, Scope.parts, join]
  rw [is]
  exact placed_run dockyard_id run_id .discovery (by decide)

/-- The same file is found below a directory of the Dockyard. -/
theorem same_file (same : SameFiles dockyard_id files others) {base : Text} (placed : Placed dockyard_id base) (relative : Text) :
    safe_file files (below base relative) = safe_file others (below base relative) := by
  obtain ⟨second, rest, apart, is⟩ := placed
  unfold safe_file
  cases safe : safe_relative (below base relative) with
  | error message => rfl
  | ok found =>
    have inside : found = dec dockyard_id :: second :: (rest ++ parts relative) := by
      rw [(safe_relative_ok safe).1, parts_below, is]
      rfl
    have here : files found = others found := by rw [inside, same second _ apart]
    dsimp only [Bind.bind, Except.bind]
    rw [here]

theorem same_manifest (same : SameFiles dockyard_id files others) {base : Text} (placed : Placed dockyard_id base)
    (target : List ArtifactReference) (run_id : Nat) (manifest_sha256 : Text) :
    manifest_references library files target run_id base manifest_sha256 = manifest_references library others target run_id base manifest_sha256 := by
  unfold manifest_references
  rw [same_file same placed]

theorem foldlM_same {Row Out : Type} {f g : Out → Row → Except Text Out} {rows : List Row} (same : ∀ row ∈ rows, ∀ out, f out row = g out row)
    (out : Out) : rows.foldlM f out = rows.foldlM g out := by
  induction rows generalizing out with
  | nil => rfl
  | cons row rows ih =>
    rw [List.foldlM_cons, List.foldlM_cons, same row List.mem_cons_self]
    exact congrArg (Bind.bind (g out row)) (funext fun later => ih (fun other member => same other (List.mem_cons_of_mem _ member)) later)

theorem placed_stored {path : Option Text} {run_id : Nat} (scope : Scope) (apart : scope ≠ .reporting)
    (stored : ∀ text, path = some text → text = relative_run_path dockyard_id run_id scope) (has : path.isSome = true) :
    Placed dockyard_id (path.getD []) := by
  obtain ⟨text, rfl⟩ := Option.isSome_iff_exists.mp has
  rw [Option.getD_some, stored text rfl]
  exact placed_run dockyard_id run_id scope apart

theorem placed_validation (sound : Sound db dockyard_id) {run : ValidationRun} (listed : run ∈ finished_validations db dockyard_id) :
    Placed dockyard_id (run.evidence_path.getD []) := by
  obtain ⟨listed, done⟩ := List.mem_filter.mp listed
  obtain ⟨member, own⟩ := List.mem_filter.mp (mem_ordered.mp listed)
  exact placed_stored .validation (by decide) (sound.validation_paths run member (of_decide_eq_true own)) (Bool.and_eq_true_iff.mp done).2

/-- What a reference of a Dockyard cites is in a directory of it. -/
theorem placed_citation (sound : Sound db dockyard_id) {citation : Citation} (listed : citation ∈ citations db dockyard_id) :
    Placed dockyard_id citation.base := by
  simp only [citations, List.mem_append, List.mem_map] at listed
  rcases listed with (((⟨record, _, rfl⟩ | ⟨run, listed, rfl⟩) | ⟨run, listed, rfl⟩) | ⟨run, listed, rfl⟩) | ⟨run, listed, rfl⟩
  · exact placed_record dockyard_id record.discovery_run_id
  · obtain ⟨listed, done⟩ := List.mem_filter.mp listed
    obtain ⟨member, own⟩ := List.mem_filter.mp (mem_ordered.mp listed)
    exact placed_stored .detection (by decide) (sound.detection_paths run member (of_decide_eq_true own)) (Bool.and_eq_true_iff.mp done).2
  · exact placed_validation sound listed
  · obtain ⟨listed, done⟩ := List.mem_filter.mp listed
    obtain ⟨member, own⟩ := List.mem_filter.mp (mem_ordered.mp listed)
    exact placed_stored .correlation (by decide) (sound.correlation_paths run member (of_decide_eq_true own)) (Bool.and_eq_true_iff.mp done).2
  · obtain ⟨listed, kept⟩ := List.mem_filter.mp listed
    obtain ⟨member, own⟩ := List.mem_filter.mp (mem_ordered.mp listed)
    exact placed_stored .intelligence (by decide) (sound.intelligence_paths run member (of_decide_eq_true own)) (Bool.and_eq_true_iff.mp kept).1

theorem same_references (agree : Agree dockyard_id db other) (sound : Sound db dockyard_id) (same : SameFiles dockyard_id files others) :
    artifact_references library files db dockyard_id = artifact_references library others other dockyard_id := by
  have validations (target : List ArtifactReference) :
      ((validation_runs db dockyard_id).filter fun run => run.status = .completed && run.evidence_path.isSome).foldlM
        (validation_references library files) target =
      ((validation_runs db dockyard_id).filter fun run => run.status = .completed && run.evidence_path.isSome).foldlM
        (validation_references library others) target := by
    refine foldlM_same (fun run listed out => ?_) target
    unfold validation_references
    simp only [same_manifest same (placed_validation sound listed)]
  unfold artifact_references
  simp only [validations]
  rw [same_evidence_records agree sound, same_detection_runs agree sound, same_validation_runs agree sound,
    same_correlation_runs agree sound, same_intelligence_runs agree sound]

theorem same_verification {references : List ArtifactReference}
    (found : ∀ item ∈ references, safe_file files item.source_path = safe_file others item.source_path) (total : Nat) :
    verify_from library files total references = verify_from library others total references := by
  induction references generalizing total with
  | nil => rfl
  | cons reference references ih =>
    unfold verify_from
    rw [found reference List.mem_cons_self]
    simp only [fun total => ih (fun item member => found item (List.mem_cons_of_mem _ member)) total]

theorem same_artifacts (sound : Sound db dockyard_id) (same : SameFiles dockyard_id files others) {references : List ArtifactReference}
    (made : artifact_references library files db dockyard_id = .ok references) :
    verify_artifacts library files references = verify_artifacts library others references := by
  have found : ∀ item ∈ references, safe_file files item.source_path = safe_file others item.source_path := by
    intro item member
    obtain ⟨citation, listed, cites⟩ := (artifact_references_ok made).cited item member
    obtain ⟨relative, is, _⟩ := cites.placed
    rw [is]
    exact same_file same (placed_citation sound listed) relative
  unfold verify_artifacts
  rw [same_verification found]

end

/-- A report is built of what its Dockyard owns: it is the same, or fails with the
    same error, whatever other Dockyards, report runs and security events there
    are, in whichever order the rows are stored. -/
theorem build_of_own_rows {library : Library} {files others : Files} (agree : Agree dockyard_id db other) (sound : Sound db dockyard_id)
    (other_sound : Sound other dockyard_id) (same : SameFiles dockyard_id files others) :
    build library files db dockyard_id = build library others other dockyard_id := by
  have captured : capture library files db dockyard_id = capture library others other dockyard_id := by
    unfold capture sources
    rw [same_active agree, ← same_references agree sound same]
    simp only [same_snapshot agree sound other_sound]
    cases reject_active_sources other dockyard_id with
    | error message => rfl
    | ok _ =>
      cases made : artifact_references library files db dockyard_id with
      | error message => rfl
      | ok references =>
        have verified := @same_artifacts db dockyard_id library files others sound same references made
        by_cases none : references = []
        · rw [none]
          rfl
        · show (if references = [] then _ else _) >>= _ = (if references = [] then _ else _) >>= _
          rw [if_neg none]
          show verify_artifacts library files references >>= _ = verify_artifacts library others references >>= _
          rw [verified]
  unfold build
  rw [captured]

end

/-! ### Two databases -/

def host (id dockyard_id : Nat) : Inventory.Asset where
  id := id
  dockyard_id := dockyard_id
  asset_type := "host".toList
  identity := dec id
  display_name := dec id
  ip_address := none
  hostname := none
  first_seen := 0
  last_seen := 0

def issue (id dockyard_id : Nat) : Finding where
  id := id
  dockyard_id := dockyard_id
  fingerprint := dec id
  detector := "tls".toList
  detector_version := "1".toList
  rule_id := "expired".toList
  title := []
  description := []
  category := []
  severity := "high".toList
  confidence := []
  status := "open".toList
  first_seen := 0
  last_seen := 0

def capture_record (id dockyard_id : Nat) : EvidenceRecord where
  id := id
  dockyard_id := dockyard_id
  discovery_run_id := 1
  kind := "raw".toList
  relative_path := "raw/scan.xml".toList
  media_type := "text/xml".toList
  size_bytes := 0
  sha256 := []
  truncated := false

/-- A Dockyard alone. -/
def alone : Database where
  dockyards := [{ id := 1, name := "lab".toList, status := "active".toList }]
  assets := [host 1 1, host 2 1]
  evidence_records := [capture_record 1 1]
  findings := [issue 1 1]
  finding_evidence := [{ id := 1, finding_id := 1, observation_id := 1, evidence_record_id := some 1, summary := [] }]

/-- The Dockyard in company, after a report. -/
def accompanied : Database where
  dockyards := [{ id := 2, name := "other".toList, status := "active".toList }, { id := 1, name := "lab".toList, status := "active".toList }]
  assets := [host 2 1, host 1 1, host 3 2]
  evidence_records := [capture_record 2 2, capture_record 1 1]
  findings := [issue 2 2, issue 1 1]
  finding_evidence := [{ id := 2, finding_id := 2, observation_id := 2, evidence_record_id := some 2, summary := [] },
    { id := 1, finding_id := 1, observation_id := 1, evidence_record_id := some 1, summary := [] }]
  report_runs := [requested 1 1]
  security_events := [report_event "report.request" "report_requested" 1]

theorem alone_sound : Sound alone 1 := by
  constructor <;> simp [alone, own_links, record_of, capture_record, host]

theorem accompanied_sound : Sound accompanied 1 := by
  constructor <;> simp [accompanied, own_links, record_of, capture_record, host, issue]

theorem accompanied_agrees : Agree 1 alone accompanied where
  dockyard := rfl
  scope_entries := .refl _
  assets := .swap _ _ _
  services := .refl _
  discovery_runs := .refl _
  observations := .refl _
  evidence_records := .refl _
  detection_runs := .refl _
  findings := .refl _
  finding_evidence := .refl _
  validation_runs := .refl _
  correlation_runs := .refl _
  intelligence_runs := .refl _
  lab_authorizations := .refl _
  lab_audit_events := .refl _

theorem build_accompanied : build plain_library (fun _ => none) alone 1 =
    build plain_library (fun path => if path = ["1".toList, REPORTING_SCOPE] then some [] else none) accompanied 1 :=
  build_of_own_rows accompanied_agrees alone_sound accompanied_sound fun second rest apart => (if_neg fun same => apart (by simp at same; exact same.2.1)).symm

end RedDock.Reporting
