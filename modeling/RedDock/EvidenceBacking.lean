import RedDock.FindingEvidence
import RedDock.FindingLifecycle
import RedDock.OutputChecks

/-!
# Findings are backed by retained evidence

Whatever discovery and detection runs do in any order, every finding is linked
to observations of its Dockyard that were in the snapshot of a detection run,
each with the normalized record of its discovery run.
-/
set_option autoImplicit false
namespace RedDock.EvidenceBacking
open Text Inventory Transactions Publishing Publications Findings FindingEvidence Fallible Checks
open Detection hiding Raised
open OutputChecks (validated_ok validated_performs listed)
open FindingLifecycle (run_detector_ok store_ok resolve_spec)

/-! ### Records -/

/-- A normalized record of a discovery run. -/
structure Normalized (records : List EvidenceRecord) (discovery_run_id : Nat) (record : EvidenceRecord) : Prop where
  listed : record ∈ records
  run : record.discovery_run_id = discovery_run_id
  kind : record.kind = NORMALIZED

/-- A run with a normalized record is given the id of one. -/
theorem normalized_record_found {records : List EvidenceRecord} {discovery_run_id : Nat}
    (documented : ∃ record, Normalized records discovery_run_id record) :
    ∃ record, Normalized records discovery_run_id record ∧ normalized_record_id records discovery_run_id = some record.id := by
  unfold normalized_record_id
  obtain ⟨record, normalized⟩ := documented
  have inside : record.id ∈ (records.filter fun record =>
      record.discovery_run_id = discovery_run_id && record.kind = NORMALIZED).map (·.id) :=
    List.mem_map.mpr ⟨record, List.mem_filter.mpr ⟨normalized.listed, by simp [normalized.run, normalized.kind]⟩, rfl⟩
  obtain ⟨first, least⟩ := Option.ne_none_iff_exists'.mp (mt List.min?_eq_none_iff.mp (List.ne_nil_of_mem inside))
  obtain ⟨found, member, is⟩ := List.mem_map.mp (List.min?_mem least)
  obtain ⟨kept, matching⟩ := List.mem_filter.mp member
  simp only [Bool.and_eq_true, decide_eq_true_eq] at matching
  exact ⟨found, ⟨kept, matching.1, matching.2⟩, is ▸ least⟩

/-! ### Linking -/

section
variable {records : List EvidenceRecord} {observations : List Observation} {detection_run_id : Nat}

/-- Links of findings after a part of a run: what was linked stays, and the
    fingerprints in a list are linked. -/
structure Links (holds : Link → Prop) (fingerprints : List Text) (links links' : List Link) : Prop where
  all : ∀ link ∈ links', holds link
  kept : ∀ link ∈ links, link ∈ links'
  linked : ∀ fingerprint ∈ fingerprints, ∃ link ∈ links', link.fingerprint = fingerprint

theorem Links.trans {holds : Link → Prop} {first second : List Text} {a b c : List Link} (before : Links holds first a b)
    (after : Links holds second b c) : Links holds (first ++ second) a c where
  all := after.all
  kept link member := after.kept link (before.kept link member)
  linked fingerprint member := by
    rcases List.mem_append.mp member with old | new
    · obtain ⟨link, inside, same⟩ := before.linked fingerprint old
      exact ⟨link, after.kept link inside, same⟩
    · exact after.linked fingerprint new

/-- What every link of a run meets: a link has a record, and so has a new one. -/
structure Linking (records : List EvidenceRecord) (observations : List Observation) (detection_run_id : Nat) (holds : Link → Prop) :
    Prop where
  recorded : ∀ link, holds link → link.evidence_record_id.isNone = false
  new : ∀ fingerprint, ∀ observation ∈ observations, holds (new_link records detection_run_id fingerprint observation)

variable {holds : Link → Prop} (linking : Linking records observations detection_run_id holds)
include linking

theorem attach_links (fingerprint : Text) {links : List Link} (all : ∀ link ∈ links, holds link) (key : Key) :
    Links holds [] links (attach records observations detection_run_id fingerprint links key) ∧
      ((row_of observations key).isSome = true →
        Links holds [fingerprint] links (attach records observations detection_run_id fingerprint links key)) := by
  unfold attach
  cases found : row_of observations key with
  | none => exact ⟨⟨all, fun _ member => member, by simp⟩, by simp⟩
  | some observation =>
    by_cases known : links.any (links_to fingerprint observation) = true
    · have same : links.map (fun link =>
          if links_to fingerprint observation link && link.evidence_record_id.isNone then
            { link with evidence_record_id := normalized_record_id records observation.discovery_run_id }
          else link) = links := by
        refine (List.map_congr_left fun link member => ?_).trans (List.map_id links)
        rw [if_neg (by simp [linking.recorded link (all link member)])]
        rfl
      simp only [known, if_true, same]
      refine ⟨⟨all, fun _ member => member, by simp⟩, fun _ => ⟨all, fun _ member => member, ?_⟩⟩
      obtain ⟨link, inside, is⟩ := List.any_eq_true.mp known
      simp only [links_to, Bool.and_eq_true, decide_eq_true_eq] at is
      simp only [List.mem_singleton, forall_eq]
      exact ⟨link, inside, is.1⟩
    · simp only [known, Bool.false_eq_true, if_false]
      have row : observation ∈ observations := by
        obtain ⟨id, _, is⟩ := Option.bind_eq_some_iff.mp found
        exact List.mem_of_find?_eq_some is
      have every : ∀ link ∈ links ++ [new_link records detection_run_id fingerprint observation], holds link := by
        intro link member
        rcases List.mem_append.mp member with old | new
        · exact all link old
        · rw [List.mem_singleton.mp new]
          exact linking.new fingerprint observation row
      refine ⟨⟨every, fun _ member => List.mem_append_left _ member, by simp⟩,
        fun _ => ⟨every, fun _ member => List.mem_append_left _ member, ?_⟩⟩
      simp only [List.mem_singleton, forall_eq]
      exact ⟨new_link records detection_run_id fingerprint observation, by simp, rfl⟩

/-- A finding that cites a known observation is linked. -/
theorem attach_all (fingerprint : Text) {keys : List Key} {links : List Link} (all : ∀ link ∈ links, holds link)
    (known : ∃ key ∈ keys, (row_of observations key).isSome = true) :
    Links holds [fingerprint] links (keys.foldl (attach records observations detection_run_id fingerprint) links) := by
  have rest : ∀ (keys : List Key) (links : List Link), (∀ link ∈ links, holds link) →
      Links holds [] links (keys.foldl (attach records observations detection_run_id fingerprint) links) := by
    intro keys
    induction keys with
    | nil => exact fun links all => ⟨all, fun _ member => member, by simp⟩
    | cons key keys ih =>
      intro links all
      have first := (attach_links linking fingerprint all key).1
      exact first.trans (ih _ first.all)
  induction keys generalizing links with
  | nil =>
    obtain ⟨key, member, _⟩ := known
    cases member
  | cons key keys ih =>
    obtain ⟨cited, member, is⟩ := known
    have first := attach_links linking fingerprint all key
    rcases List.mem_cons.mp member with rfl | later
    · have here := first.2 is
      exact here.trans (rest keys _ here.all)
    · exact first.1.trans (ih first.1.all ⟨cited, later, is⟩)

/-! ### The findings of a run -/

variable {runtime : Runtime} {context : DetectionContext}

/-- A finding cites an observation with a row. -/
def CitesRow (observations : List Observation) (finding : DetectedFinding) : Prop :=
  ∃ keys, finding.evidence_observation_ids.members = .ok keys ∧ ∃ key ∈ keys, (row_of observations key).isSome = true

theorem attach_findings_links {detector : Detector} {findings : List DetectedFinding} {links links' : List Link}
    {fingerprints : List Text} (all : ∀ link ∈ links, holds link) (cites : ∀ finding ∈ findings, CitesRow observations finding)
    (identities : List.Forall₂ (fun detected fingerprint => identity runtime detector.id detected context = .ok fingerprint)
      findings fingerprints)
    (attached : attach_findings records observations detection_run_id runtime context detector links findings = .ok links') :
    Links holds fingerprints links links' := by
  induction identities generalizing links with
  | nil =>
    cases attached
    exact ⟨all, fun _ member => member, by simp⟩
  | @cons _ fingerprint _ _ identified _ ih =>
    obtain ⟨first, rest⟩ := List.forall_mem_cons.mp cites
    unfold attach_findings at attached
    obtain ⟨_, same, attached⟩ := bind_eq_ok.mp attached
    rw [identified] at same
    cases same
    obtain ⟨linked, evidence, attached⟩ := bind_eq_ok.mp attached
    obtain ⟨keys, members, known⟩ := first
    unfold attach_evidence at evidence
    rw [members] at evidence
    cases evidence
    have here := attach_all linking fingerprint all known
    exact here.trans (ih here.all rest attached)

/-- Every detector that succeeded has its findings linked. -/
theorem attach_outcomes_links {outcomes : List DetectorOutcome} {links links' : List Link} (all : ∀ link ∈ links, holds link)
    (cites : ∀ outcome ∈ outcomes, ∀ findings, outcome.result = .ok findings → ∀ finding ∈ findings, CitesRow observations finding ∧
      ∃ fingerprint, identity runtime outcome.detector.id finding context = .ok fingerprint)
    (attached : attach_outcomes records observations detection_run_id runtime context links outcomes = .ok links') :
    Links holds [] links links' ∧ ∀ outcome ∈ outcomes, ∀ findings, outcome.result = .ok findings → ∀ finding ∈ findings,
      ∀ fingerprint, identity runtime outcome.detector.id finding context = .ok fingerprint →
        ∃ link ∈ links', link.fingerprint = fingerprint := by
  induction outcomes generalizing links with
  | nil =>
    cases attached
    exact ⟨⟨all, fun _ member => member, by simp⟩, by simp⟩
  | cons outcome outcomes ih =>
    obtain ⟨own, rest⟩ := List.forall_mem_cons.mp cites
    unfold attach_outcomes at attached
    cases result : outcome.result with
    | error error =>
      simp only [result] at attached
      obtain ⟨links, found⟩ := ih all rest attached
      refine ⟨links, fun other member => ?_⟩
      rcases List.mem_cons.mp member with rfl | later
      · intro findings succeeded
        rw [result] at succeeded
        cases succeeded
      · exact found other later
    | ok findings =>
      simp only [result] at attached
      obtain ⟨middle, first, attached⟩ := bind_eq_ok.mp attached
      obtain ⟨fingerprints, identities⟩ := forall₂_exists fun finding member => (own findings result finding member).2
      have here := attach_findings_links linking all (fun finding member => (own findings result finding member).1) identities first
      obtain ⟨links, found⟩ := ih here.all rest attached
      refine ⟨⟨links.all, fun link member => links.kept link (here.kept link member), by simp⟩, fun other member => ?_⟩
      rcases List.mem_cons.mp member with rfl | later
      · intro others succeeded finding inside fingerprint identified
        rw [result] at succeeded
        cases succeeded
        obtain ⟨own_fingerprint, listed, same⟩ := forall₂_left identities inside
        rw [identified] at same
        cases same
        obtain ⟨link, linked, is⟩ := here.linked _ listed
        exact ⟨link, links.kept link linked, is⟩
      · exact found other later

end

/-! ### What an accepted finding cites -/

section
variable {runtime : Runtime} {context : DetectionContext}

theorem checked_cites {finding : DetectedFinding} {ids : List Int} (tuple : finding.evidence_observation_ids = .ids ids)
    (passed : Passed (OutputChecks.finding_checks runtime context finding)) :
    ∃ id ∈ ids, id ∈ context.observations.map ObservationView.id := by
  simp only [OutputChecks.finding_checks, passed_cons, passed_append, OutputChecks.evidence_checks, tuple] at passed
  obtain ⟨_, _, _, _, _, _, _, ⟨⟨_, truthful⟩, _, _, ⟨_, known⟩, _⟩, _⟩ := passed
  have nonempty : ids ≠ [] := by
    rintro rfl
    cases truthful
  obtain ⟨id, member⟩ := List.exists_mem_of_ne_nil ids nonempty
  refine ⟨id, member, ?_⟩
  have all_known := known _ rfl
  by_contra unknown
  have listed : (⟨some id, 0⟩ : Key) ∈ OutputChecks.unknown context (ids.map fun i => ⟨some i, 0⟩) :=
    List.mem_filter.mpr ⟨List.mem_map.mpr ⟨id, member, rfl⟩, by simpa using unknown⟩
  rw [all_known] at listed
  cases listed

/-- What a detector of tuples has accepted cites an observation of its snapshot. -/
theorem outcome_cites {detector : Detector} {outcome : DetectorOutcome} {findings : List DetectedFinding}
    (cites : Registry.CitesIds detector) (ran : run_detector runtime context detector = .ok outcome)
    (result : outcome.result = .ok findings) {finding : DetectedFinding} (member : finding ∈ findings) :
    (∃ ids, finding.evidence_observation_ids = .ids ids ∧ ∃ id ∈ ids, id ∈ context.observations.map ObservationView.id) ∧
      ∃ fingerprint, identity runtime outcome.detector.id finding context = .ok fingerprint := by
  unfold run_detector at ran
  split at ran
  · cases ran
  · cases ran
    cases result
  · rename_i produced returned
    split at ran
    · rename_i accepted validates
      cases ran
      cases result
      obtain ⟨perm, checked⟩ := validated_ok validates
      have passed := (validated_performs produced).returns.mp ⟨_, validates⟩
      have inside := perm.mem_iff.mp member
      cases produced with
      | other => cases inside
      | sequence items =>
        obtain ⟨item, in_items, rfl⟩ := List.mem_filterMap.mp inside
        obtain ⟨ids, tuple⟩ := cites context items returned finding in_items
        simp only [OutputChecks.produced_checks, passed_cons, passed_append] at passed
        have own : Passed (OutputChecks.finding_checks runtime context finding) := fun check here =>
          passed.2.1 check (List.mem_flatMap.mpr ⟨some finding, in_items, here⟩)
        exact ⟨⟨ids, tuple, checked_cites tuple own⟩, (checked finding member).2⟩
    · cases ran
      cases result
    · cases ran

end

/-! ### The invariant -/

/-- A snapshot of rows that are still there, and the rows read behind it. -/
structure Covers (tables : Tables) (snapshot : Snapshot) : Prop where
  views : ∀ view ∈ snapshot.context.observations, ∃ row ∈ tables.observations,
    (row.id : Int) = view.id ∧ row.dockyard_id = snapshot.dockyard_id
  rows : ∀ rows, snapshot.observations = some rows →
    (∀ row ∈ rows, row ∈ tables.observations ∧ row.dockyard_id = snapshot.dockyard_id ∧
      ∃ view ∈ snapshot.context.observations, view.id = row.id) ∧
    ∀ view ∈ snapshot.context.observations, ∃ row ∈ rows, (row.id : Int) = view.id

/-- A link to an observation of the Dockyard, from the snapshot of the run that
    linked it, with the normalized record of the observation's run. -/
structure Backed (db : Database) (dockyard_id : Nat) (link : Link) : Prop where
  observation : ∃ observation ∈ db.tables.observations, observation.id = link.observation_id ∧
    observation.dockyard_id = dockyard_id ∧ ∃ record, Normalized db.tables.evidence_records observation.discovery_run_id record ∧
      link.evidence_record_id = some record.id
  snapshot : ∃ snapshot, db.snapshots link.detection_run_id = some snapshot ∧ snapshot.dockyard_id = dockyard_id ∧
    ∃ view ∈ snapshot.context.observations, view.id = link.observation_id

structure Sound (db : Database) : Prop where
  observation_ids : (db.tables.observations.map (·.id)).Pairwise (· < ·)
  record_ids : (db.tables.evidence_records.map (·.id)).Pairwise (· < ·)
  unique : ∀ dockyard_id, ((db.findings dockyard_id).map (·.fingerprint)).Nodup
  documented : ∀ row ∈ db.tables.observations, ∃ record, Normalized db.tables.evidence_records row.discovery_run_id record
  snapshots : ∀ run_id snapshot, db.snapshots run_id = some snapshot → Covers db.tables snapshot
  links : ∀ dockyard_id, ∀ link ∈ db.links dockyard_id, Backed db dockyard_id link
  findings : ∀ dockyard_id, ∀ finding ∈ db.findings dockyard_id, ∃ link ∈ db.links dockyard_id, link.fingerprint = finding.fingerprint

/-! ### Discovery -/

/-- Rows are appended, each with a normalized record of its run. -/
structure Appends (tables tables' : Tables) : Prop where
  observations : ∃ rows, tables'.observations = tables.observations ++ rows ∧
    ∀ row ∈ rows, ∃ record, Normalized tables'.evidence_records row.discovery_run_id record
  records : ∃ records, tables'.evidence_records = tables.evidence_records ++ records
  observation_ids : (tables.observations.map (·.id)).Pairwise (· < ·) → (tables'.observations.map (·.id)).Pairwise (· < ·)
  record_ids : (tables.evidence_records.map (·.id)).Pairwise (· < ·) → (tables'.evidence_records.map (·.id)).Pairwise (· < ·)

theorem Appends.refl (tables : Tables) : Appends tables tables :=
  ⟨⟨[], by simp, by simp⟩, ⟨[], by simp⟩, id, id⟩

/-- The records of a run are appended, one for each artifact. -/
theorem add_records_appends (run : RunRow) (stored : List StoredArtifact) (tables : Tables) :
    ∃ records, (add_records run stored tables).evidence_records = tables.evidence_records ++ records ∧
      List.Forall₂ (fun artifact record => record.kind = artifact.kind ∧ record.discovery_run_id = run.id) stored records ∧
      ((tables.evidence_records.map (·.id)).Pairwise (· < ·) →
        ((tables.evidence_records ++ records).map (·.id)).Pairwise (· < ·)) := by
  induction stored generalizing tables with
  | nil => exact ⟨[], by simp [add_records], .nil, by simp⟩
  | cons artifact stored ih =>
    let record := evidence_record run (fresh (tables.evidence_records.map (·.id))) artifact
    obtain ⟨records, appended, recorded, growing⟩ := ih { tables with evidence_records := tables.evidence_records ++ [record] }
    refine ⟨record :: records, by rw [List.append_cons]; exact appended, .cons ⟨rfl, rfl⟩ recorded, fun before => ?_⟩
    rw [List.append_cons]
    refine growing ?_
    simp only [List.map_append, List.map_cons, List.map_nil]
    refine List.pairwise_append.mpr ⟨before, List.pairwise_singleton _ _, fun id member other single => ?_⟩
    rw [List.mem_singleton] at single
    exact single ▸ lt_fresh member

/-- Everything a completed run publishes comes with its normalized record. -/
theorem published_appends (run : RunRow) (result : AdapterResult) (observations : List DiscoveredObservation) (observed_at : Nat)
    {stored : List StoredArtifact} (documented : Documented stored) (tables : Tables) :
    Appends tables (published run result observations observed_at stored tables) := by
  simp only [published]
  obtain ⟨same_observations, same_records⟩ := reconcile_frame run.dockyard_id observed_at result.assets tables
  generalize reconcile run.dockyard_id observed_at result.assets tables = reconciled at same_observations same_records ⊢
  obtain ⟨_, _, kept_records, rows, appended, recorded, growing⟩ :=
    record_all_appends (recording run observed_at) reconciled.1 observations reconciled.2
  generalize record_all (recording run observed_at) reconciled.1 observations reconciled.2 = after at kept_records appended ⊢
  obtain ⟨records, added, kinds, increasing⟩ := add_records_appends run stored after
  obtain ⟨_, _, kept_observations⟩ := add_records_frame run stored after
  rw [kept_records, same_records] at added increasing
  rw [same_observations] at appended growing
  have normalized : ∃ record, Normalized (add_records run stored after).evidence_records run.id record := by
    obtain ⟨raw, normal, metadata, rfl, _, kind, _⟩ := documented
    obtain ⟨record, member, same_kind, same_run⟩ := forall₂_left kinds (x := normal) (by simp)
    exact ⟨record, by rw [added]; exact List.mem_append_right _ member, same_run, same_kind.trans kind⟩
  refine ⟨⟨rows, kept_observations.trans appended, fun row member => ?_⟩, ⟨records, added⟩, fun before => ?_, fun before => ?_⟩
  · obtain ⟨observation, _, records⟩ := forall₂_right recorded member
    rw [records.run]
    exact normalized
  · rw [kept_observations, appended]
    exact growing before
  · rw [added]
    exact increasing before

section
variable {Row : Type}

theorem discover_appends (run : RunRow) (config : Discovery.Config AdapterResult Row) (contact : Contact) (evidence : Evidence)
    (fails : Nat → Option Raised) (tables : Tables) : Appends tables (discover run config contact evidence fails tables) := by
  unfold discover
  rcases @execute_cases fails evidence Row config contact { committed := ⟨tables, run⟩, working := ⟨tables, run⟩ } rfl with
    same | ⟨result, stored, _, documented, _, tables_eq⟩
  · rw [same]
    exact .refl tables
  · rw [tables_eq]
    exact published_appends run result _ _ documented tables

end

/-! ### Every step keeps it -/

section
variable {tables tables' : Tables} (appends : Appends tables tables')
include appends

theorem Appends.normalized {run_id : Nat} {record : EvidenceRecord} (normalized : Normalized tables.evidence_records run_id record) :
    Normalized tables'.evidence_records run_id record := by
  obtain ⟨records, added⟩ := appends.records
  exact ⟨by rw [added]; exact List.mem_append_left _ normalized.listed, normalized.run, normalized.kind⟩

theorem Appends.observation {row : Observation} (member : row ∈ tables.observations) : row ∈ tables'.observations := by
  obtain ⟨rows, added, _⟩ := appends.observations
  rw [added]
  exact List.mem_append_left _ member

theorem Appends.covers {snapshot : Snapshot} (covers : Covers tables snapshot) : Covers tables' snapshot where
  views view member := by
    obtain ⟨row, listed, is⟩ := covers.views view member
    exact ⟨row, appends.observation listed, is⟩
  rows rows read := by
    obtain ⟨known, all⟩ := covers.rows rows read
    exact ⟨fun row member => ⟨appends.observation (known row member).1, (known row member).2⟩, all⟩

/-- Discovery keeps what is backed. -/
theorem Appends.sound {db : Database} (sound : Sound db) (own : db.tables = tables) : Sound { db with tables := tables' } := by
  subst own
  refine ⟨appends.observation_ids sound.observation_ids, appends.record_ids sound.record_ids, sound.unique, ?_, ?_, ?_, sound.findings⟩
  · intro row member
    obtain ⟨rows, added, documented⟩ := appends.observations
    rw [added] at member
    rcases List.mem_append.mp member with old | new
    · obtain ⟨record, normalized⟩ := sound.documented row old
      exact ⟨record, appends.normalized normalized⟩
    · exact documented row new
  · intro run_id snapshot known
    exact appends.covers (sound.snapshots run_id snapshot known)
  · intro dockyard_id link member
    obtain ⟨⟨observation, listed, id, dockyard, record, normalized, is⟩, snapshot⟩ := sound.links dockyard_id link member
    exact ⟨⟨observation, appends.observation listed, id, dockyard, record, appends.normalized normalized, is⟩, snapshot⟩

end

/-- A snapshot is recorded that covers the rows, with the context it had. -/
theorem Sound.record {db : Database} (sound : Sound db) {run_id : Nat} {snapshot : Snapshot} (covers : Covers db.tables snapshot)
    (same : ∀ known, db.snapshots run_id = some known → known.dockyard_id = snapshot.dockyard_id ∧ known.context = snapshot.context) :
    Sound (db.record run_id snapshot) := by
  refine ⟨sound.observation_ids, sound.record_ids, sound.unique, sound.documented, ?_, ?_, sound.findings⟩
  · intro other known recorded
    by_cases own : other = run_id
    · rw [own, Database.record_self] at recorded
      cases recorded
      exact covers
    · rw [Database.record_of_ne _ _ _ own] at recorded
      exact sound.snapshots other known recorded
  · intro dockyard_id link member
    obtain ⟨observation, known, recorded, dockyard, view⟩ := sound.links dockyard_id link member
    refine ⟨observation, ?_⟩
    by_cases own : link.detection_run_id = run_id
    · obtain ⟨dockyard_same, context_same⟩ := same known (own ▸ recorded)
      exact ⟨snapshot, own ▸ Database.record_self db run_id snapshot, dockyard_same ▸ dockyard, context_same ▸ view⟩
    · exact ⟨known, (Database.record_of_ne _ _ _ own).trans recorded, dockyard, view⟩

/-- The findings and links of a Dockyard are written together. -/
theorem Sound.write {db : Database} (sound : Sound db) {dockyard_id : Nat} {rows : List Finding} {links : List Link}
    (unique : (rows.map (·.fingerprint)).Nodup) (backed : ∀ link ∈ links, Backed db dockyard_id link)
    (linked : ∀ finding ∈ rows, ∃ link ∈ links, link.fingerprint = finding.fingerprint) : Sound (db.write dockyard_id rows links) := by
  have of_db : ∀ {other : Nat} {link : Link}, Backed db other link → Backed (db.write dockyard_id rows links) other link :=
    fun backed => ⟨backed.observation, backed.snapshot⟩
  refine ⟨sound.observation_ids, sound.record_ids, fun other => ?_, sound.documented, sound.snapshots, fun other link member => ?_,
    fun other finding member => ?_⟩
  · by_cases own : other = dockyard_id
    · rw [own, Database.write_findings_self]
      exact unique
    · rw [Database.write_findings_of_ne _ _ _ _ own]
      exact sound.unique other
  · by_cases own : other = dockyard_id
    · rw [own, Database.write_links_self] at member
      exact own ▸ of_db (backed link member)
    · rw [Database.write_links_of_ne _ _ _ _ own] at member
      exact of_db (sound.links other link member)
  · by_cases own : other = dockyard_id
    · rw [own, Database.write_findings_self] at member
      rw [own, Database.write_links_self]
      exact linked finding member
    · rw [Database.write_findings_of_ne _ _ _ _ own] at member
      rw [Database.write_links_of_ne _ _ _ _ own]
      exact sound.findings other finding member

/-- A snapshot is taken of the rows of its Dockyard. -/
theorem build_context_covers {limits : Snapshots.Limits} {tables : Tables} {dockyard_id generated_at : Nat}
    {lookup : Option (Text → Text → List CveReference)} {context : DetectionContext}
    (built : Snapshots.build_context limits tables dockyard_id generated_at lookup = .ok context) :
    Covers tables { dockyard_id := dockyard_id, context := context } := by
  refine ⟨?_, by simp⟩
  obtain ⟨assets, _, built⟩ := bind_eq_ok.mp built
  obtain ⟨observations, listed, built⟩ := bind_eq_ok.mp built
  cases built
  unfold Snapshots.observations at listed
  simp only at listed
  split at listed
  · cases listed
  cases listed
  intro view member
  obtain ⟨row, inside, rfl⟩ := List.mem_map.mp member
  have kept := List.mem_filter.mp ((List.perm_insertionSort _ _).mem_iff.mp inside)
  exact ⟨row, kept.1, rfl, of_decide_eq_true kept.2⟩

/-- The rows behind a snapshot are read. -/
theorem observation_rows_covers {tables : Tables} {snapshot : Snapshot} (covers : Covers tables snapshot) :
    Covers tables { snapshot with observations := some (observation_rows snapshot tables) } := by
  refine ⟨covers.views, fun rows read => ?_⟩
  cases read
  refine ⟨fun row member => ?_, fun view member => ?_⟩
  · obtain ⟨listed, matching⟩ := List.mem_filter.mp member
    simp only [Bool.and_eq_true, decide_eq_true_eq] at matching
    obtain ⟨view, inside, is⟩ := List.mem_map.mp matching.2
    exact ⟨listed, matching.1, view, inside, is⟩
  · obtain ⟨row, listed, id, dockyard⟩ := covers.views view member
    refine ⟨row, List.mem_filter.mpr ⟨listed, ?_⟩, id⟩
    simp only [Bool.and_eq_true, decide_eq_true_eq]
    exact ⟨dockyard, List.mem_map.mpr ⟨view, member, id.symm⟩⟩

/-! ### A detection run -/

section
variable {runtime : Runtime} {run : DetectionRun}

/-- The fingerprints of the rows a run leaves, each once: they were there, or a
    detector that succeeded found them. -/
theorem perform_fingerprints {rows final : List Finding} {outcomes : List DetectorOutcome} (unique : (rows.map (·.fingerprint)).Nodup)
    (performed : perform runtime run rows = .ok (outcomes, final)) : (final.map (·.fingerprint)).Nodup ∧ ∀ finding ∈ final,
      (∃ row ∈ rows, row.fingerprint = finding.fingerprint) ∨
      ∃ outcome ∈ outcomes, ∃ findings, outcome.result = .ok findings ∧ ∃ detected ∈ findings,
        identity runtime outcome.detector.id detected run.context = .ok finding.fingerprint := by
  obtain ⟨_, stored, reproduced, storing, rfl⟩ := FindingLifecycle.perform_ok performed
  obtain ⟨reconciled, accounts, _⟩ := store_ok unique storing
  have resolved := resolve_spec run reproduced stored
  constructor
  · have same : (resolve run reproduced stored).map (·.fingerprint) = stored.map (·.fingerprint) :=
      forall₂_map_eq (fun _ _ resolves => resolves.survives.1.fingerprint) resolved
    rw [same]
    exact reconciled.unique
  · intro finding member
    obtain ⟨row, inside, resolves⟩ := forall₂_right resolved member
    have same : row.fingerprint = finding.fingerprint := resolves.survives.1.fingerprint.symm
    rcases reconciled.written row inside with old | ⟨entry, listed, _, _, written⟩
    · exact Or.inl ⟨row, old, same⟩
    · obtain ⟨outcome, reported, findings, own, result, identities⟩ := accounts entry listed
      obtain ⟨detected, found, identified⟩ := forall₂_right identities written
      exact Or.inr ⟨outcome, reported, findings, result, detected, found, by rw [own, ← same]; exact identified⟩

/-- The outcomes of a run are those of its detectors. -/
theorem perform_outcomes {rows final : List Finding} {outcomes : List DetectorOutcome}
    (performed : perform runtime run rows = .ok (outcomes, final)) :
    List.Forall₂ (fun detector outcome => run_detector runtime run.context detector = .ok outcome) run.detectors outcomes := by
  unfold Findings.perform at performed
  by_cases distinct : (run.detectors.map Detector.id).Nodup
  · simp only [distinct, decide_true, Bool.not_true, Bool.false_eq_true, if_false] at performed
    obtain ⟨ran, outcomes_ran, performed⟩ := bind_eq_ok.mp performed
    obtain ⟨⟨stored, reproduced⟩, _, performed⟩ := bind_eq_ok.mp performed
    split at performed
    · cases performed
      exact mapM_ok.mp outcomes_ran
    · simp [throw, throwThe, MonadExceptOf.throw] at performed
  · simp [distinct, throw, throwThe, MonadExceptOf.throw, bind, Except.bind] at performed

/-- What a detection run publishes is linked. -/
theorem publish_linked {db : Database} (snapshot : Snapshot) {observations : List Observation} {rows : List Finding} {links : List Link}
    (sound : Sound db) (known : db.snapshots run.id = some snapshot) (context : run.context = snapshot.context)
    (read : snapshot.observations = some observations) (cites : ∀ detector ∈ run.detectors, Registry.CitesIds detector)
    (published : publish runtime run db.tables.evidence_records observations (db.findings snapshot.dockyard_id)
      (db.links snapshot.dockyard_id) = .ok (rows, links)) :
    (rows.map (·.fingerprint)).Nodup ∧ (∀ link ∈ links, Backed db snapshot.dockyard_id link) ∧
      ∀ finding ∈ rows, ∃ link ∈ links, link.fingerprint = finding.fingerprint := by
  obtain ⟨⟨outcomes, final⟩, performed, published⟩ := bind_eq_ok.mp published
  obtain ⟨attached, attaching, published⟩ := bind_eq_ok.mp published
  cases published
  have covers := sound.snapshots run.id snapshot known
  obtain ⟨rows_known, rows_all⟩ := covers.rows observations read
  obtain ⟨unique, origins⟩ := perform_fingerprints (sound.unique snapshot.dockyard_id) performed
  have linking : Linking db.tables.evidence_records observations run.id (Backed db snapshot.dockyard_id) := by
    refine ⟨fun link backed => ?_, fun fingerprint observation member => ?_⟩
    · obtain ⟨_, _, _, _, record, _, is⟩ := backed.observation
      rw [is]
      rfl
    · obtain ⟨listed, dockyard, view, inside, is⟩ := rows_known observation member
      obtain ⟨record, normalized, found⟩ := normalized_record_found (sound.documented observation listed)
      exact ⟨⟨observation, listed, rfl, dockyard, record, normalized, found⟩, snapshot, known, rfl, view, inside, is⟩
  have accepted : ∀ outcome ∈ outcomes, ∀ findings, outcome.result = .ok findings → ∀ finding ∈ findings,
      CitesRow observations finding ∧ ∃ fingerprint, identity runtime outcome.detector.id finding run.context = .ok fingerprint := by
    intro outcome member findings result finding inside
    obtain ⟨detector, registered, ran⟩ := forall₂_right (perform_outcomes performed) member
    obtain ⟨⟨ids, tuple, id, listed, in_snapshot⟩, identified⟩ := outcome_cites (cites detector registered) ran result inside
    refine ⟨⟨ids.map fun i => ⟨some i, 0⟩, by rw [tuple]; rfl, ⟨some id, 0⟩, List.mem_map.mpr ⟨id, listed, rfl⟩, ?_⟩, identified⟩
    obtain ⟨view, seen, is⟩ := List.mem_map.mp (context ▸ in_snapshot)
    obtain ⟨row, row_read, same⟩ := rows_all view seen
    show (observations.find? fun row => decide ((row.id : Int) = id)).isSome = true
    rw [List.find?_isSome]
    exact ⟨row, row_read, by rw [same, is]; simp⟩
  obtain ⟨kept, linked⟩ := attach_outcomes_links linking (sound.links snapshot.dockyard_id) accepted attaching
  refine ⟨unique, kept.all, fun finding member => ?_⟩
  rcases origins finding member with ⟨row, old, same⟩ | ⟨outcome, reported, findings, result, detected, found, identified⟩
  · obtain ⟨link, inside, is⟩ := sound.findings snapshot.dockyard_id row old
    exact ⟨link, kept.kept link inside, is.trans same⟩
  · exact linked outcome reported findings result detected found _ identified

end

/-! ### Every run -/

section
variable {Row : Type} {runtime : Runtime} {casing : ServiceRules.Casing} {digest : Registry.Scalar → Text} {limits : Snapshots.Limits}

theorem step_sound (db : Database) (action : FindingEvidence.Action Row) (db' : Database) (sound : Sound db)
    (stepped : FindingEvidence.step runtime casing digest limits db action = some db') : Sound db' := by
  cases action with
  | discover run config contact evidence fails =>
    cases stepped
    exact (discover_appends run config contact evidence fails db.tables).sound sound rfl
  | build run_id dockyard_id generated_at lookup =>
    simp only [FindingEvidence.step] at stepped
    split at stepped
    · cases stepped
    · cases stepped
      exact sound
    · rename_i new built
      cases stepped
      exact sound.record (build_context_covers built) fun known recorded => by rw [new] at recorded; cases recorded
  | read run_id =>
    simp only [FindingEvidence.step] at stepped
    split at stepped
    · cases stepped
    · rename_i snapshot known
      split at stepped
      · cases stepped
      · cases stepped
        refine sound.record (observation_rows_covers (sound.snapshots run_id snapshot known)) fun other recorded => ?_
        rw [known] at recorded
        cases recorded
        exact ⟨rfl, rfl⟩
  | detect run_id plugins resolved_at accepts publishes =>
    simp only [FindingEvidence.step] at stepped
    split at stepped
    · cases stepped
    rename_i snapshot known
    split at stepped
    · cases stepped
    rename_i observations read
    split at stepped
    · cases stepped
    have covers := sound.snapshots run_id snapshot known
    have ended : Sound (db.record run_id { snapshot with ended := true }) := by
      refine sound.record ⟨covers.views, covers.rows⟩ fun other recorded => ?_
      rw [known] at recorded
      cases recorded
      exact ⟨rfl, rfl⟩
    split at stepped
    · cases stepped
      exact ended
    · rename_i published
      cases stepped
      obtain ⟨unique, backed, linked⟩ := publish_linked { snapshot with ended := true } ended
        (Database.record_self _ _ _) rfl read (fun detector registered => Registry.available_cites registered) published
      exact ended.write unique backed linked
  | decide dockyard_id fingerprint status note =>
    simp only [FindingEvidence.step] at stepped
    split at stepped
    · cases stepped
    · cases stepped
      have fingerprints := FindingLifecycle.set_status_fingerprints fingerprint status note (db.findings dockyard_id)
      refine sound.write (by rw [fingerprints]; exact sound.unique dockyard_id) (sound.links dockyard_id) fun finding member => ?_
      have listed : finding.fingerprint ∈ (db.findings dockyard_id).map (·.fingerprint) := by
        rw [← fingerprints]
        exact List.mem_map.mpr ⟨finding, member, rfl⟩
      obtain ⟨row, old, same⟩ := List.mem_map.mp listed
      obtain ⟨link, inside, is⟩ := sound.findings dockyard_id row old
      exact ⟨link, inside, is.trans same⟩

theorem empty_sound : Sound {} := by
  refine ⟨by simp, by simp, by simp, by simp, ?_, by simp, by simp⟩
  intro run_id snapshot known
  cases known

/-! ### Reports -/

/-- Links with records are all listed, unless they are too many. -/
theorem evidence_rows_ok {records : List EvidenceRecord} {limit : Nat} (index : Nat) {links : List Link}
    (recorded : ∀ link ∈ links, ∃ record ∈ records, link.evidence_record_id = some record.id) :
    evidence_rows records limit index links = .error .exceeds_limit ∨
      ∃ rows, evidence_rows records limit index links = .ok rows ∧ index + links.length ≤ max (limit + 1) index ∧
        rows.map Prod.fst = links := by
  induction links generalizing index with
  | nil => exact Or.inr ⟨[], rfl, by simp, rfl⟩
  | cons link links ih =>
    obtain ⟨⟨record, listed, is⟩, rest⟩ := List.forall_mem_cons.mp recorded
    unfold evidence_rows
    by_cases many : limit < index
    · exact Or.inl (if_pos many)
    · rw [if_neg many]
      have found : (link.evidence_record_id.bind fun id => records.find? fun record => record.id = id).isSome = true := by
        rw [is]
        show (records.find? fun other => decide (other.id = record.id)).isSome = true
        rw [List.find?_isSome]
        exact ⟨record, listed, by simp⟩
      obtain ⟨first, first_found⟩ := Option.isSome_iff_exists.mp found
      rw [first_found]
      rcases ih (index + 1) rest with exceeds | ⟨rows, all, short, same⟩
      · exact Or.inl (by rw [exceeds]; rfl)
      · refine Or.inr ⟨(link, first) :: rows, by rw [all]; rfl, ?_, by rw [List.map_cons, same]⟩
        rw [List.length_cons]
        omega

/-- A report is refused only for the number of its links. -/
theorem report_refusal {db : Database} (sound : Sound db) {limit dockyard_id : Nat} {refusal : ReportRejected}
    (refused : report_evidence limit db dockyard_id = .error refusal) : refusal = .exceeds_limit := by
  unfold report_evidence finding_evidence at refused
  generalize own : (db.links dockyard_id).filter (fun link => link.fingerprint ∈ (db.findings dockyard_id).map (·.fingerprint)) = links
    at refused
  have recorded : ∀ link ∈ links.take (limit + 1), ∃ record ∈ db.tables.evidence_records, link.evidence_record_id = some record.id := by
    intro link member
    have listed := List.mem_of_mem_take member
    rw [← own] at listed
    obtain ⟨_, _, _, _, record, normalized, is⟩ := (sound.links dockyard_id link (List.mem_filter.mp listed).1).observation
    exact ⟨record, normalized.listed, is⟩
  rcases evidence_rows_ok 1 recorded with exceeds | ⟨rows, all, short, same⟩
  · rw [exceeds] at refused
    cases refused
    rfl
  · rw [all, ok_bind] at refused
    -- the limit was not reached, so no link was left out
    have whole : links.take (limit + 1) = links := by
      refine List.take_of_length_le ?_
      rw [List.length_take] at short
      omega
    have every : ∀ finding ∈ db.findings dockyard_id, rows.any (fun row => row.1.fingerprint = finding.fingerprint) = true := by
      intro finding member
      obtain ⟨link, inside, is⟩ := sound.findings dockyard_id finding member
      have listed : link ∈ rows.map Prod.fst := by
        rw [same, whole, ← own]
        refine List.mem_filter.mpr ⟨inside, ?_⟩
        simp only [decide_eq_true_eq]
        exact is ▸ List.mem_map.mpr ⟨finding, member, rfl⟩
      obtain ⟨row, row_listed, rfl⟩ := List.mem_map.mp listed
      exact List.any_eq_true.mpr ⟨row, row_listed, by simp [is]⟩
    have accepted : ∀ findings : List Finding, (∀ finding ∈ findings, finding ∈ db.findings dockyard_id) →
        evidence_claims rows findings = .ok () := by
      intro findings
      induction findings with
      | nil => exact fun _ => rfl
      | cons finding findings ih =>
        intro inside
        unfold evidence_claims
        rw [if_pos (every finding (inside finding List.mem_cons_self))]
        exact ih fun other member => inside other (List.mem_cons_of_mem _ member)
    rw [accepted _ fun _ member => member] at refused
    cases refused

/-- After every run, each finding is linked to evidence, each link is backed,
    and no report is refused for the evidence of a finding. -/
theorem findings_backed {actions : List (FindingEvidence.Action Row)} {db : Database}
    (ran : Runs.run (FindingEvidence.step runtime casing digest limits) {} actions = some db) :
    (∀ dockyard_id, ∀ finding ∈ db.findings dockyard_id, ∃ link ∈ db.links dockyard_id, link.fingerprint = finding.fingerprint) ∧
    (∀ dockyard_id, ∀ link ∈ db.links dockyard_id, Backed db dockyard_id link) ∧
    ∀ limit dockyard_id refusal, report_evidence limit db dockyard_id = .error refusal → refusal = .exceeds_limit := by
  have sound := Runs.invariant_run Sound step_sound empty_sound ran
  exact ⟨sound.findings, sound.links, fun _ _ _ => report_refusal sound⟩

end

/-! ### A version that is disclosed -/

/-- An answer that identifies the service of a host. -/
def identified : AdapterResult where
  assets := [{ FailureAtomicity.sshHost with
    services := [{ FailureAtomicity.sshService with product := some "OpenSSH".toList, version := some "9.6".toList }] }]
  observations := [{
    observation_type := ServiceRules.IDENTIFICATION
    summary := "TCP/22 identified as OpenSSH 9.6".toList
    confidence := .reported
    asset_identity := some "10.0.0.1".toList
    service_port := some ("tcp".toList, 22) }]

/-- A discovery run, and a detection run over what it published. -/
def disclosure : List (FindingEvidence.Action Nat) := [
  .discover FailureAtomicity.runningState.run FailureAtomicity.hostConfig
    { FailureAtomicity.sshContact with answer := .ok identified } FailureAtomicity.plainEvidence fun _ => none,
  .build 1 1 0 none,
  .read 1,
  .detect 1 [] (fun _ => 0) (fun _ => true) true]

theorem findings_backed_disclosure : ∃ db,
    Runs.run (FindingEvidence.step FindingLifecycle.plainRuntime .ascii (fun _ => []) {}) {} disclosure = some db ∧
    (db.findings 1).length = 1 ∧ ∀ link ∈ db.links 1, Backed db 1 link := by
  have ran : (Runs.run (FindingEvidence.step FindingLifecycle.plainRuntime .ascii (fun _ => []) {}) {} disclosure).map
      (fun db => (db.findings 1).length) = some 1 := by decide +kernel
  obtain ⟨db, ran, found⟩ := Option.map_eq_some_iff.mp ran
  exact ⟨db, ran, found, (findings_backed ran).2.1 1⟩

end RedDock.EvidenceBacking
