import RedDock.Coverage
import RedDock.Runs

/-!
# What a check reported as checked has seen

Runs of discovery publications and detection runs: which observations a detection
run's snapshot holds, and what that says of the coverage that is reported.
-/
set_option autoImplicit false
namespace RedDock.CoverageRuns
open Text Coverage
open Discovery (RunStatus ACTIVE_STATUSES)

/-! ### Invariants -/

def Completed (tables : Tables) (id : Nat) : Prop := ∃ run, tables.discoveries id = some run ∧ run.status = .completed

/-- Where a detection run stands with the observations. -/
structure Stands (w : World) (detection : DetectionRun) : Prop where
  pending : detection.status = .pending → w.snapshots detection.id = none
  concluded : detection.result_sha256 ≠ none → detection.status ∉ ACTIVE_DETECTION ∧ w.snapshots detection.id ≠ none
  seen : ∀ snapshot, w.snapshots detection.id = some snapshot → ∀ started_at, detection.started_at = some started_at →
    ∀ observation ∈ w.tables.observations, observation.dockyard_id = detection.dockyard_id →
      before_start w.tables started_at observation = true → observation.id ∈ snapshot

structure Inv (w : World) : Prop where
  ids : (w.tables.observations.map Observation.id).Nodup
  detection_ids : (w.tables.detections.map DetectionRun.id).Nodup
  published : ∀ observation ∈ w.tables.observations, Completed w.tables observation.discovery_run_id
  backed : ∀ record ∈ w.tables.evidence, Completed w.tables record.discovery_run_id
  stamped : ∀ id publication, w.publishing id = some publication → ∃ run, w.tables.discoveries id = some run ∧ run.status = .running
  stands : ∀ detection ∈ w.tables.detections, Stands w detection
  known : ∀ id snapshot, w.snapshots id = some snapshot → id ∈ w.tables.detections.map DetectionRun.id ∧
    ∀ n ∈ snapshot, n ∈ w.tables.observations.map Observation.id

/-- What a later state keeps. -/
structure Kept (w w' : World) : Prop where
  observations : ∀ observation ∈ w.tables.observations, observation ∈ w'.tables.observations
  completed : ∀ id run, w.tables.discoveries id = some run → run.status = .completed → w'.tables.discoveries id = some run
  evidence : ∀ record, Completed w.tables record.discovery_run_id → (record ∈ w'.tables.evidence ↔ record ∈ w.tables.evidence)
  snapshots : ∀ id snapshot, w.snapshots id = some snapshot → w'.snapshots id = some snapshot
  concluded : ∀ detection ∈ w.tables.detections, detection.status ∉ ACTIVE_DETECTION → detection ∈ w'.tables.detections

theorem Kept.refl (w : World) : Kept w w :=
  ⟨fun _ member => member, fun _ _ found _ => found, fun _ _ => Iff.rfl, fun _ _ found => found, fun _ member _ => member⟩

theorem Kept.trans {w w' w'' : World} (first : Kept w w') (second : Kept w' w'') : Kept w w'' where
  observations := fun observation member => second.observations observation (first.observations observation member)
  completed := fun id run found completed => second.completed id run (first.completed id run found completed) completed
  evidence := by
    rintro record ⟨run, found, completed⟩
    exact (second.evidence record ⟨run, first.completed _ run found completed, completed⟩).trans
      (first.evidence record ⟨run, found, completed⟩)
  snapshots := fun id snapshot found => second.snapshots id snapshot (first.snapshots id snapshot found)
  concluded := fun detection member ended => second.concluded detection (first.concluded detection member ended) ended

theorem Completed.kept {w w' : World} {id : Nat} (completed : Completed w.tables id) (kept : Kept w w') : Completed w'.tables id := by
  obtain ⟨run, found, is⟩ := completed
  exact ⟨run, kept.completed id run found is, is⟩

/-- A published observation is joined with the same run later. -/
theorem before_start_kept {w w' : World} {observation : Observation} (started_at : Nat)
    (completed : Completed w.tables observation.discovery_run_id)
    (kept : ∀ id run, w.tables.discoveries id = some run → run.status = .completed → w'.tables.discoveries id = some run) :
    before_start w'.tables started_at observation = before_start w.tables started_at observation := by
  obtain ⟨run, found, is⟩ := completed
  rw [before_start, before_start, found, kept _ run found is]

theorem counted_kept {w w' : World} {observation : Observation} (dockyard_id : Nat) (check : Check)
    (completed : Completed w.tables observation.discovery_run_id) (kept : Kept w w') :
    counted w'.tables dockyard_id check observation = counted w.tables dockyard_id check observation := by
  have sources : in_sources w'.tables dockyard_id observation.discovery_run_id =
      in_sources w.tables dockyard_id observation.discovery_run_id := by
    rw [in_sources, in_sources, Bool.eq_iff_iff, List.any_eq_true, List.any_eq_true]
    have same : ∀ record : EvidenceRecord, (record.dockyard_id = dockyard_id && record.kind = "normalized".toList && !record.truncated &&
        record.discovery_run_id = observation.discovery_run_id) = true →
        (record ∈ w'.tables.evidence ↔ record ∈ w.tables.evidence) := by
      intro record is
      simp only [Bool.and_eq_true, decide_eq_true_eq] at is
      exact kept.evidence record (is.2 ▸ completed)
    constructor
    · rintro ⟨record, member, is⟩
      exact ⟨record, (same record is).mp member, is⟩
    · rintro ⟨record, member, is⟩
      exact ⟨record, (same record is).mpr member, is⟩
  obtain ⟨run, found, is⟩ := completed
  rw [counted, counted, found, kept.completed _ run found is, sources]

/-! ### Changes -/

section
variable {w : World}

/-- A change of the discovery runs that are not completed, and of what they are
    about to publish. -/
theorem Inv.discoveries (inv : Inv w) {discoveries : Nat → Option DiscoveryRun} {publishing : Nat → Option Publication}
    (completed : ∀ id run, w.tables.discoveries id = some run → run.status = .completed → discoveries id = some run)
    (stamped : ∀ id publication, publishing id = some publication → ∃ run, discoveries id = some run ∧ run.status = .running) :
    Inv ⟨{ w.tables with discoveries := discoveries }, publishing, w.snapshots⟩ ∧
      Kept w ⟨{ w.tables with discoveries := discoveries }, publishing, w.snapshots⟩ := by
  have kept : Kept w ⟨{ w.tables with discoveries := discoveries }, publishing, w.snapshots⟩ :=
    ⟨fun _ member => member, completed, fun _ _ => Iff.rfl, fun _ _ found => found, fun _ member _ => member⟩
  refine ⟨{
    ids := inv.ids
    detection_ids := inv.detection_ids
    published := fun observation member => (inv.published observation member).kept kept
    backed := fun record member => (inv.backed record member).kept kept
    stamped := stamped
    stands := fun detection member => ?_
    known := inv.known }, kept⟩
  have stands := inv.stands detection member
  refine ⟨stands.pending, stands.concluded, fun snapshot read started_at started observation inside own reviewed => ?_⟩
  rw [before_start_kept started_at (inv.published observation inside) completed] at reviewed
  exact stands.seen snapshot read started_at started observation inside own reviewed

/-- A change of the detection runs. -/
theorem Inv.detections (inv : Inv w) {detections : List DetectionRun} (ids : (detections.map DetectionRun.id).Nodup)
    (stay : ∀ id ∈ w.tables.detections.map DetectionRun.id, id ∈ detections.map DetectionRun.id)
    (stands : ∀ detection ∈ detections, Stands w detection)
    (concluded : ∀ detection ∈ w.tables.detections, detection.status ∉ ACTIVE_DETECTION → detection ∈ detections) :
    Inv { w with tables := { w.tables with detections := detections } } ∧
      Kept w { w with tables := { w.tables with detections := detections } } := by
  refine ⟨{
    ids := inv.ids
    detection_ids := ids
    published := inv.published
    backed := inv.backed
    stamped := inv.stamped
    stands := fun detection member => ⟨(stands detection member).pending, (stands detection member).concluded, (stands detection member).seen⟩
    known := fun id snapshot read => ⟨stay id (inv.known id snapshot read).1, (inv.known id snapshot read).2⟩ }, ?_⟩
  exact ⟨fun _ member => member, fun _ _ found _ => found, fun _ _ => Iff.rfl, fun _ _ found => found, concluded⟩

theorem detection_row_some {id : Nat} {run : DetectionRun} (found : detection_row w id = some run) :
    run ∈ w.tables.detections ∧ run.id = id :=
  ⟨List.mem_of_find?_eq_some found, by simpa using List.find?_some found⟩

/-- One active detection run is changed. -/
theorem Inv.update (inv : Inv w) {id : Nat} {run : DetectionRun} {change : DetectionRun → DetectionRun}
    (found : detection_row w id = some run) (active : run.status ∈ ACTIVE_DETECTION) (same : ∀ run, (change run).id = run.id)
    (stands : Stands w run → Stands w (change run)) : Inv (update_detection w id change) ∧ Kept w (update_detection w id change) := by
  obtain ⟨listed, own⟩ := detection_row_some found
  have only : ∀ other ∈ w.tables.detections, other.id = id → other = run := by
    intro other member is
    exact List.inj_on_of_nodup_map inv.detection_ids member listed (is.trans own.symm)
  have ids : (w.tables.detections.map fun run => if run.id = id then change run else run).map DetectionRun.id =
      w.tables.detections.map DetectionRun.id := by
    rw [List.map_map]
    refine List.map_congr_left fun other _ => ?_
    rw [Function.comp]
    split
    · exact same other
    · rfl
  refine inv.detections ?_ ?_ ?_ ?_
  · rw [ids]
    exact inv.detection_ids
  · rw [ids]
    exact fun _ member => member
  · intro detection member
    obtain ⟨other, inside, rfl⟩ := List.mem_map.mp member
    by_cases is : other.id = id
    · rw [if_pos is, only other inside is]
      exact stands (inv.stands run listed)
    · rw [if_neg is]
      exact inv.stands other inside
  · intro detection member ended
    have apart : detection.id ≠ id := fun is => ended (only detection member is ▸ active)
    exact List.mem_map.mpr ⟨detection, member, if_neg apart⟩

/-- A detection run has read its snapshot. -/
def reading (w : World) (id : Nat) (run : DetectionRun) : World :=
  { w with snapshots := Function.update w.snapshots id (some (visible_ids w.tables run.dockyard_id)) }

theorem reading_own (id : Nat) (run : DetectionRun) : (reading w id run).snapshots id = some (visible_ids w.tables run.dockyard_id) :=
  Function.update_self _ _ _

theorem reading_other {id other : Nat} (run : DetectionRun) (apart : other ≠ id) : (reading w id run).snapshots other = w.snapshots other :=
  Function.update_of_ne apart _ _

theorem Inv.reading (inv : Inv w) {id : Nat} {run : DetectionRun} (found : detection_row w id = some run) (running : run.status = .running)
    (unread : w.snapshots id = none) : Inv (reading w id run) ∧ Kept w (reading w id run) := by
  obtain ⟨listed, own⟩ := detection_row_some found
  refine ⟨{
    ids := inv.ids
    detection_ids := inv.detection_ids
    published := inv.published
    backed := inv.backed
    stamped := inv.stamped
    stands := fun detection member => ?_
    known := fun other snapshot read => ?_ }, ?_⟩
  · have stands := inv.stands detection member
    by_cases is : detection.id = id
    · have this_run : detection = run := List.inj_on_of_nodup_map inv.detection_ids member listed (is.trans own.symm)
      subst this_run
      refine ⟨fun pending => ?_, fun result => ?_, ?_⟩
      · rw [running] at pending
        cases pending
      · exact absurd (by rw [running]; decide) (stands.concluded result).1
      · intro snapshot read started_at started observation inside dockyard reviewed
        rw [is, reading_own] at read
        cases read
        exact List.mem_map_of_mem (List.mem_filter.mpr ⟨inside, decide_eq_true dockyard⟩)
    · refine ⟨fun pending => ?_, fun result => ?_, ?_⟩
      · rw [reading_other _ is]
        exact stands.pending pending
      · rw [reading_other _ is]
        exact stands.concluded result
      · intro snapshot read
        rw [reading_other _ is] at read
        exact stands.seen snapshot read
  · by_cases is : other = id
    · rw [is, reading_own] at read
      cases read
      refine ⟨List.mem_map.mpr ⟨run, listed, own.trans is.symm⟩, fun n member => ?_⟩
      obtain ⟨observation, inside, rfl⟩ := List.mem_map.mp member
      exact List.mem_map_of_mem (List.mem_filter.mp inside).1
    · rw [reading_other _ is] at read
      exact inv.known other snapshot read
  · refine ⟨fun _ member => member, fun _ _ found _ => found, fun _ _ => Iff.rfl, fun other snapshot read => ?_, fun _ member _ => member⟩
    by_cases is : other = id
    · rw [is, unread] at read
      cases read
    · rw [reading_other _ is]
      exact read

/-- A publication that no detection run missed becomes visible. -/
theorem Inv.publishing (inv : Inv w) {id : Nat} {run : DiscoveryRun} {publication : Publication}
    (found : w.tables.discoveries id = some run) (stamped : w.publishing id = some publication)
    (ids : ((published_observations id run.dockyard_id publication ++ w.tables.observations).map Observation.id).Nodup)
    (timely : ∀ detection ∈ w.tables.detections, detection.dockyard_id = run.dockyard_id → ∀ snapshot,
      w.snapshots detection.id = some snapshot → ∀ started_at, detection.started_at = some started_at →
        publication.completed_at ≤ started_at → ∀ row ∈ publication.observations, started_at < row.2.2) :
    Inv (publish w id run publication) ∧ Kept w (publish w id run publication) := by
  have running : run.status = .running := by
    obtain ⟨other, is, running⟩ := inv.stamped id publication stamped
    rw [found] at is
    cases is
    exact running
  have unpublished : ¬Completed w.tables id := by
    rintro ⟨other, is, completed⟩
    rw [found] at is
    cases is
    rw [running] at completed
    cases completed
  have here : (publish w id run publication).tables.discoveries id =
      some { run with status := .completed, completed_at := some publication.completed_at } := Function.update_self _ _ _
  have others : ∀ other, other ≠ id → (publish w id run publication).tables.discoveries other = w.tables.discoveries other :=
    fun other apart => Function.update_of_ne apart _ _
  have completed : Completed (publish w id run publication).tables id := ⟨_, here, rfl⟩
  have kept_runs : ∀ other row, w.tables.discoveries other = some row → row.status = .completed →
      (publish w id run publication).tables.discoveries other = some row := by
    intro other row is done
    have apart : other ≠ id := fun same => unpublished (same ▸ ⟨row, is, done⟩)
    rw [others other apart, is]
  have kept : Kept w (publish w id run publication) := by
    refine ⟨fun observation member => List.mem_append_right _ member, kept_runs, fun record backed => ?_, fun _ _ read => read,
      fun _ member _ => member⟩
    refine ⟨fun member => ?_, fun member => List.mem_append_right _ member⟩
    rcases List.mem_append.mp member with new | old
    · obtain ⟨row, _, rfl⟩ := List.mem_map.mp new
      exact absurd backed unpublished
    · exact old
  refine ⟨{
    ids := ids
    detection_ids := inv.detection_ids
    published := fun observation member => ?_
    backed := fun record member => ?_
    stamped := fun other other_publication is => ?_
    stands := fun detection member => ?_
    known := fun other snapshot read => ?_ }, kept⟩
  · rcases List.mem_append.mp member with new | old
    · obtain ⟨row, _, rfl⟩ := List.mem_map.mp new
      exact completed
    · exact (inv.published observation old).kept kept
  · rcases List.mem_append.mp member with new | old
    · obtain ⟨row, _, rfl⟩ := List.mem_map.mp new
      exact completed
    · exact (inv.backed record old).kept kept
  · have apart : other ≠ id := by
      rintro rfl
      have gone : (publish w other run publication).publishing other = none := Function.update_self _ _ _
      rw [gone] at is
      cases is
    have same : (publish w id run publication).publishing other = w.publishing other := Function.update_of_ne apart _ _
    rw [same] at is
    rw [others other apart]
    exact inv.stamped other other_publication is
  · have stands := inv.stands detection member
    refine ⟨stands.pending, stands.concluded, fun snapshot read started_at started observation inside own reviewed => ?_⟩
    rcases List.mem_append.mp inside with new | old
    · obtain ⟨row, listed, rfl⟩ := List.mem_map.mp new
      simp only [before_start, Bool.and_eq_true, decide_eq_true_eq] at reviewed
      rw [here] at reviewed
      have early : publication.completed_at ≤ started_at := by simpa using reviewed.2
      have late := timely detection member own.symm snapshot read started_at started early row listed
      exact absurd reviewed.1 (Nat.not_le.mpr late)
    · rw [before_start_kept started_at (inv.published observation old) kept_runs] at reviewed
      exact stands.seen snapshot read started_at started observation old own reviewed
  · obtain ⟨listed, inside⟩ := inv.known other snapshot read
    refine ⟨listed, fun n member => ?_⟩
    obtain ⟨observation, old, rfl⟩ := List.mem_map.mp (inside n member)
    exact List.mem_map_of_mem (List.mem_append_right _ old)

end

theorem Stands.interrupted {w : World} {detection : DetectionRun} (stands : Stands w detection) :
    Stands w (interrupted_detection detection) := by
  unfold interrupted_detection
  split
  · rename_i active
    exact ⟨nofun, fun result => absurd active (stands.concluded result).1, stands.seen⟩
  · exact stands

/-! ### Steps -/

/-- A publication becomes visible only before any detection run of its Dockyard
    that it would count as reviewed by has read its snapshot. -/
def Timely (w : World) : Action → Prop
  | .publish id => ∀ run publication, w.tables.discoveries id = some run → w.publishing id = some publication →
      ∀ detection ∈ w.tables.detections, detection.dockyard_id = run.dockyard_id → ∀ snapshot,
        w.snapshots detection.id = some snapshot → ∀ started_at, detection.started_at = some started_at →
          publication.completed_at ≤ started_at → ∀ row ∈ publication.observations, started_at < row.2.2
  | _ => True

theorem inv_step {w w' : World} {a : Action} (inv : Inv w) (timely : Timely w a) (stepped : step w a = some w') :
    Inv w' ∧ Kept w w' := by
  cases a with
  | request_discovery id dockyard_id =>
    simp only [step] at stepped
    split at stepped
    · cases stepped
    rename_i free
    cases stepped
    have others : ∀ other run, w.tables.discoveries other = some run → Function.update w.tables.discoveries id
        (some { dockyard_id := dockyard_id, status := .pending }) other = some run := by
      intro other run is
      have apart : other ≠ id := by
        rintro rfl
        rw [free] at is
        cases is
      rw [Function.update_of_ne apart, is]
    refine inv.discoveries (fun other run is _ => others other run is) fun other publication is => ?_
    obtain ⟨run, found, running⟩ := inv.stamped other publication is
    exact ⟨run, others other run found, running⟩
  | progress id status completed_at =>
    simp only [step] at stepped
    split at stepped
    · rename_i run found idle
      split at stepped
      · rename_i active
        cases stepped
        refine inv.discoveries (fun other row is done => ?_) fun other publication is => ?_
        · have apart : other ≠ id := by
            rintro rfl
            rw [found] at is
            cases is
            rw [done] at active
            exact absurd active.1 (by decide)
          rw [Function.update_of_ne apart, is]
        · have apart : other ≠ id := by
            rintro rfl
            rw [idle] at is
            cases is
          rw [Function.update_of_ne apart]
          exact inv.stamped other publication is
      · cases stepped
    · cases stepped
  | stamp id publication =>
    simp only [step] at stepped
    split at stepped
    · rename_i run found idle
      split at stepped
      · rename_i running
        cases stepped
        refine inv.discoveries (fun _ _ is _ => is) fun other other_publication is => ?_
        by_cases own : other = id
        · exact ⟨run, own ▸ found, running⟩
        · rw [Function.update_of_ne own] at is
          exact inv.stamped other other_publication is
      · cases stepped
    · cases stepped
  | publish id =>
    simp only [step] at stepped
    split at stepped
    · rename_i run publication found stamped
      split at stepped
      · rename_i ids
        cases stepped
        exact inv.publishing found stamped ids (timely run publication found stamped)
      · cases stepped
    · cases stepped
  | rollback id =>
    cases stepped
    refine inv.discoveries (fun _ _ is _ => is) fun other publication is => ?_
    by_cases own : other = id
    · rw [own, Function.update_self] at is
      cases is
    · rw [Function.update_of_ne own] at is
      exact inv.stamped other publication is
  | request_detection id dockyard_id =>
    simp only [step] at stepped
    split at stepped
    · cases stepped
    rename_i free
    cases stepped
    have fresh : id ∉ w.tables.detections.map DetectionRun.id := fun member => free (Or.inl member)
    have unread : w.snapshots id = none := by
      cases read : w.snapshots id with
      | none => rfl
      | some snapshot => exact absurd (inv.known id snapshot read).1 fresh
    refine inv.detections (List.nodup_cons.mpr ⟨fresh, inv.detection_ids⟩) (fun _ member => List.mem_cons_of_mem _ member) ?_
      fun _ member _ => List.mem_cons_of_mem _ member
    intro detection member
    rcases List.mem_cons.mp member with rfl | old
    · exact ⟨fun _ => unread, fun result => absurd rfl result, fun snapshot read => by rw [unread] at read; cases read⟩
    · exact inv.stands detection old
  | start id started_at =>
    simp only [step] at stepped
    split at stepped
    · cases stepped
    rename_i run found
    split at stepped
    · rename_i pending
      cases stepped
      refine inv.update found (by rw [pending]; decide) (fun _ => rfl) fun stands => ?_
      have unread := stands.pending pending
      refine ⟨nofun, fun result => ?_, fun snapshot read => ?_⟩
      · exact absurd (by rw [pending]; decide) (stands.concluded result).1
      · have none_read : w.snapshots run.id = some snapshot := read
        rw [unread] at none_read
        cases none_read
    · cases stepped
  | read id =>
    simp only [step] at stepped
    split at stepped
    · cases stepped
    rename_i run found
    split at stepped
    · rename_i free
      cases stepped
      exact inv.reading found free.1 free.2.1
    · cases stepped
  | finish id status detectors result_sha256 metadata_sha256 =>
    simp only [step] at stepped
    split at stepped
    · cases stepped
    rename_i run found
    split at stepped
    · rename_i free
      cases stepped
      refine inv.update found (by rw [free.1]; decide) (fun _ => rfl) fun stands => ?_
      have read : w.snapshots run.id ≠ none := by
        rw [(detection_row_some found).2]
        exact Option.isSome_iff_ne_none.mp free.2.1
      refine ⟨fun pending => ?_, fun _ => ⟨free.2.2, read⟩, stands.seen⟩
      have ended : status ∉ ACTIVE_DETECTION := free.2.2
      have is : status = .pending := pending
      exact absurd (by rw [is]; decide) ended
    · cases stepped
  | fail id =>
    simp only [step] at stepped
    split at stepped
    · cases stepped
    rename_i run found
    split at stepped
    · rename_i active
      cases stepped
      refine inv.update found active (fun _ => rfl) fun stands => ?_
      exact ⟨nofun, fun result => absurd active (stands.concluded result).1, stands.seen⟩
    · cases stepped
  | restart now =>
    cases stepped
    have ended : ∀ id run, w.tables.discoveries id = some run → run.status = .completed →
        (w.tables.discoveries id).map (interrupted now) = some run := by
      intro id run is done
      have inactive : run.status ∉ ACTIVE_STATUSES := by
        rw [done]
        decide
      rw [is, Option.map_some, interrupted, if_neg inactive]
    have none_left : ∀ (id : Nat) (publication : Publication), (fun _ : Nat => (none : Option Publication)) id = some publication →
        ∃ run, (w.tables.discoveries id).map (interrupted now) = some run ∧ run.status = .running := nofun
    obtain ⟨middle, kept⟩ := inv.discoveries ended none_left
    have ids : (w.tables.detections.map interrupted_detection).map DetectionRun.id = w.tables.detections.map DetectionRun.id := by
      rw [List.map_map]
      refine List.map_congr_left fun run _ => ?_
      rw [Function.comp, interrupted_detection]
      split
      · rfl
      · rfl
    have next_ids : ((w.tables.detections.map interrupted_detection).map DetectionRun.id).Nodup := ids ▸ inv.detection_ids
    have next := middle.detections next_ids (fun _ member => ids ▸ member) (fun detection member => ?_) fun detection member inactive => ?_
    · exact ⟨next.1, kept.trans next.2⟩
    · obtain ⟨run, listed, rfl⟩ := List.mem_map.mp member
      exact (middle.stands run listed).interrupted
    · exact List.mem_map.mpr ⟨detection, member, if_neg inactive⟩

/-! ### Runs -/

/-- A state that a run of timely publications leads to. -/
def Later (w w' : World) : Prop := ∃ actions, Runs.Along step Timely w actions ∧ Runs.run step w actions = some w'

theorem Later.kept {w w' : World} (later : Later w w') (inv : Inv w) : Inv w' ∧ Kept w w' := by
  obtain ⟨actions, timely, ran⟩ := later
  refine Runs.invariant_along (fun w' => Inv w' ∧ Kept w w') (fun s a s' held meets stepped => ?_) timely ⟨inv, Kept.refl w⟩ ran
  obtain ⟨next, kept⟩ := inv_step held.1 meets stepped
  exact ⟨next, held.2.trans kept⟩

theorem inv_initial : Inv initial where
  ids := List.nodup_nil
  detection_ids := List.nodup_nil
  published := fun _ member => absurd member List.not_mem_nil
  backed := fun _ member => absurd member List.not_mem_nil
  stamped := nofun
  stands := fun _ member => absurd member List.not_mem_nil
  known := nofun

/-! ### Coverage -/

theorem latest_detection_some {tables : Tables} {dockyard_id : Nat} {run : DetectionRun} (found : latest_detection tables dockyard_id = some run) :
    run ∈ tables.detections ∧ run.dockyard_id = dockyard_id := by
  have member : run ∈ tables.detections.filter fun run => run.dockyard_id = dockyard_id :=
    (List.perm_insertionSort _ _).mem_iff.mp (List.mem_of_head? found)
  exact ⟨(List.mem_filter.mp member).1, of_decide_eq_true (List.mem_filter.mp member).2⟩

/-- A detector counts as successful where the run has its result. -/
theorem successful_result {detection : Option DetectionRun} {detector : Text} (member : detector ∈ successful detection) :
    ∃ run, detection = some run ∧ run.result_sha256 ≠ none := by
  cases detection with
  | none => exact absurd member List.not_mem_nil
  | some run =>
    refine ⟨run, rfl, fun missing => ?_⟩
    simp only [successful, missing, present, Option.any_none, Bool.false_and, Bool.false_eq_true, if_false] at member
    exact absurd member List.not_mem_nil

theorem state_checked {count reviewed : Nat}
    (checked : (if count = 0 then State.not_checked else if reviewed = count then .checked else .collected) = .checked) :
    count ≠ 0 ∧ reviewed = count := by
  by_cases none_counted : count = 0
  · rw [if_pos none_counted] at checked
    cases checked
  · by_cases all : reviewed = count
    · exact ⟨none_counted, all⟩
    · rw [if_neg none_counted, if_neg all] at checked
      cases checked

/-- A check that is reported as checked was reviewed by its detector, and as many
    observations were reviewed as were counted. -/
theorem checked_counts {dockyard_id : Nat} {detection : Option DetectionRun} {check : Check} {first second : Tables}
    (checked : (check_coverage dockyard_id detection check first second).status = .checked) :
    ∃ run started_at, detection = some run ∧ run.result_sha256 ≠ none ∧ run.started_at = some started_at ∧
      (reviewed_observations second dockyard_id check started_at).length = (counted_observations first dockyard_id check).length := by
  obtain ⟨some_counted, all⟩ := state_checked checked
  by_cases succeeded : check.detector ∈ successful detection
  · obtain ⟨run, rfl, result⟩ := successful_result succeeded
    rw [if_pos succeeded] at all
    cases started : run.started_at with
    | none =>
      simp only [Option.bind_some, started] at all
      exact absurd all.symm some_counted
    | some started_at =>
      simp only [Option.bind_some, started] at all
      exact ⟨run, started_at, rfl, result, started, all⟩
  · rw [if_neg succeeded] at all
    exact absurd all.symm some_counted

theorem mem_reviewed {tables : Tables} {dockyard_id : Nat} {check : Check} {started_at : Nat} {observation : Observation} :
    observation ∈ reviewed_observations tables dockyard_id check started_at ↔
      observation ∈ tables.observations ∧ counted tables dockyard_id check observation = true ∧
        before_start tables started_at observation = true := by
  rw [reviewed_observations, counted_observations, List.mem_filter, List.mem_filter, and_assoc]

theorem counted_dockyard {tables : Tables} {dockyard_id : Nat} {check : Check} {observation : Observation}
    (is : counted tables dockyard_id check observation = true) : observation.dockyard_id = dockyard_id := by
  simp only [counted, Bool.and_eq_true, decide_eq_true_eq] at is
  exact is.1.1

/-- What a check counts that is reported as checked is in the snapshot of the
    latest detection run. -/
theorem checked_seen {latest first second : World} {dockyard_id : Nat} {check : Check} (inv : Inv latest) (counting : Later latest first)
    (reviewing : Later first second)
    (checked : (check_coverage dockyard_id (latest_detection latest.tables dockyard_id) check first.tables second.tables).status = .checked) :
    ∃ run snapshot, latest_detection latest.tables dockyard_id = some run ∧ latest.snapshots run.id = some snapshot ∧
      ∀ observation ∈ counted_observations first.tables dockyard_id check, observation.id ∈ snapshot := by
  obtain ⟨run, started_at, found, result, started, lengths⟩ := checked_counts checked
  obtain ⟨listed, dockyard⟩ := latest_detection_some found
  obtain ⟨inv_first, kept_first⟩ := counting.kept inv
  obtain ⟨inv_second, kept_second⟩ := reviewing.kept inv_first
  obtain ⟨ended, read⟩ := (inv.stands run listed).concluded result
  obtain ⟨snapshot, read⟩ := Option.ne_none_iff_exists'.mp read
  refine ⟨run, snapshot, found, read, ?_⟩
  have still := kept_first.trans kept_second
  have stands := inv_second.stands run (still.concluded run listed ended)
  -- what is reviewed is in the snapshot, so it was there to be counted
  have reviewed_seen : ∀ observation ∈ reviewed_observations second.tables dockyard_id check started_at,
      observation.id ∈ snapshot ∧ observation ∈ counted_observations first.tables dockyard_id check := by
    intro observation member
    obtain ⟨inside, is, early⟩ := mem_reviewed.mp member
    have seen := stands.seen snapshot (still.snapshots _ _ read) started_at started observation inside
      ((counted_dockyard is).trans dockyard.symm) early
    obtain ⟨old, in_latest, same_id⟩ := List.mem_map.mp ((inv.known run.id snapshot read).2 _ seen)
    have same : old = observation :=
      List.inj_on_of_nodup_map inv_second.ids (still.observations old in_latest) inside same_id
    subst same
    have in_first := kept_first.observations old in_latest
    refine ⟨seen, List.mem_filter.mpr ⟨in_first, ?_⟩⟩
    rw [← counted_kept dockyard_id check (inv_first.published old in_first) kept_second]
    exact is
  have once : (reviewed_observations second.tables dockyard_id check started_at).Nodup :=
    ((List.Nodup.of_map _ inv_second.ids).filter _).filter _
  have all := (once.subperm fun observation member => (reviewed_seen observation member).2).perm_of_length_le (Nat.le_of_eq lengths.symm)
  intro observation member
  exact (reviewed_seen observation (all.mem_iff.mpr member)).1

/-- In every run whose publications all become visible before any detection run
    that would count them has read its snapshot, a check is reported as checked
    only if the snapshot of the latest detection run holds every observation that
    was counted for it, also when the queries see different states. -/
theorem coverage_sound (dockyard_id : Nat) (latest : World) (first second : Check → World) (reached : Later initial latest)
    (counting : ∀ check ∈ CHECKS, Later latest (first check)) (reviewing : ∀ check ∈ CHECKS, Later (first check) (second check))
    (result : CheckCoverage) (listed : result ∈ (assessment_coverage dockyard_id latest.tables (fun check => (first check).tables)
      fun check => (second check).tables).checks) (checked : result.status = .checked) :
    ∃ check ∈ CHECKS, result.id = check.id ∧ ∃ run snapshot, latest_detection latest.tables dockyard_id = some run ∧
      latest.snapshots run.id = some snapshot ∧
        ∀ observation ∈ counted_observations (first check).tables dockyard_id check, observation.id ∈ snapshot := by
  obtain ⟨check, member, rfl⟩ := List.mem_map.mp listed
  exact ⟨check, member, rfl, checked_seen (reached.kept inv_initial).1 (counting check member) (reviewing check member) checked⟩

/-! ### A publication on each side of a snapshot -/

/-- A response that is stamped at five. -/
def sample_publication : Publication where
  completed_at := 5
  observations := [(1, "http_response".toList, 4)]
  evidence := [("normalized".toList, false)]

def sample_detectors : List Detection.Json :=
  [.object [("id".toList, .str "http.security_headers".toList), ("status".toList, .str "completed".toList)]]

/-- The discovery run up to its commit, and a detection run that starts at six. -/
def publishing_run : List Action := [.request_discovery 1 1, .progress 1 .running none, .stamp 1 sample_publication]
def detecting_run : List Action := [.request_detection 1 1, .start 1 6, .read 1]
def finishing_run : List Action := [.finish 1 .completed sample_detectors (List.replicate 64 'a') (List.replicate 64 'b')]

/-- What is reported, and what the first check counted and the detection run read. -/
def reported (w : World) : List State × Option Nat × Option (List Nat) × List (List Nat) :=
  ((assessment_coverage 1 w.tables (fun _ => w.tables) fun _ => w.tables).checks.map CheckCoverage.status,
    (latest_detection w.tables 1).map DetectionRun.id, w.snapshots 1,
    CHECKS.map fun check => (counted_observations w.tables 1 check).map Observation.id)

theorem coverage_sound_early : ∃ w, Runs.run step initial (publishing_run ++ .publish 1 :: (detecting_run ++ finishing_run)) = some w ∧
    (∀ result ∈ (assessment_coverage 1 w.tables (fun _ => w.tables) fun _ => w.tables).checks, result.status = .checked →
      ∃ check ∈ CHECKS, result.id = check.id ∧ ∃ run snapshot, latest_detection w.tables 1 = some run ∧
        w.snapshots run.id = some snapshot ∧ ∀ observation ∈ counted_observations w.tables 1 check, observation.id ∈ snapshot) ∧
    (assessment_coverage 1 w.tables (fun _ => w.tables) fun _ => w.tables).checks.map CheckCoverage.status =
      [.checked, .not_checked, .not_checked] := by
  have ran : (Runs.run step initial (publishing_run ++ .publish 1 :: (detecting_run ++ finishing_run))).map reported =
      some ([.checked, .not_checked, .not_checked], some 1, some [1], [[1], [], []]) := by
    decide +kernel
  obtain ⟨w, ran, is⟩ := Option.map_eq_some_iff.mp ran
  have timely : Runs.Along step Timely initial (publishing_run ++ .publish 1 :: (detecting_run ++ finishing_run)) := by
    refine ⟨trivial, fun _ first => ?_⟩
    cases first
    refine ⟨trivial, fun _ second => ?_⟩
    cases second
    refine ⟨trivial, fun _ third => ?_⟩
    cases third
    refine ⟨fun _ _ _ _ detection member => absurd member List.not_mem_nil, fun _ _ => Runs.along_of_forall ?_⟩
    intro a member s
    simp only [detecting_run, finishing_run, List.cons_append, List.nil_append, List.mem_cons, List.not_mem_nil, or_false] at member
    rcases member with rfl | rfl | rfl | rfl <;> trivial
  have here : Later w w := ⟨[], trivial, rfl⟩
  exact ⟨w, ran, fun result listed checked => coverage_sound 1 w (fun _ => w) (fun _ => w) ⟨_, timely, ran⟩ (fun _ _ => here) (fun _ _ => here)
    result listed checked, congrArg Prod.fst is⟩

theorem late_publication_checked : ∃ w,
    Runs.run step initial (publishing_run ++ (detecting_run ++ .publish 1 :: finishing_run)) = some w ∧
    ∃ result ∈ (assessment_coverage 1 w.tables (fun _ => w.tables) fun _ => w.tables).checks, result.status = .checked ∧
      ∃ check ∈ CHECKS, result.id = check.id ∧ ∃ run, latest_detection w.tables 1 = some run ∧ w.snapshots run.id = some [] ∧
        counted_observations w.tables 1 check ≠ [] := by
  have ran : (Runs.run step initial (publishing_run ++ (detecting_run ++ .publish 1 :: finishing_run))).map reported =
      some ([.checked, .not_checked, .not_checked], some 1, some [], [[1], [], []]) := by
    decide +kernel
  obtain ⟨w, ran, is⟩ := Option.map_eq_some_iff.mp ran
  rw [reported, Prod.mk.injEq, Prod.mk.injEq, Prod.mk.injEq] at is
  obtain ⟨states, latest, snapshot, ids⟩ := is
  obtain ⟨run, found, own⟩ := Option.map_eq_some_iff.mp latest
  obtain ⟨state, _⟩ := List.cons.inj states
  obtain ⟨counted, _⟩ := List.cons.inj ids
  refine ⟨w, ran, _, List.mem_cons_self, state, _, List.mem_cons_self, rfl, run, found, own ▸ snapshot, fun nothing => ?_⟩
  have empty : ([] : List Nat) = [1] := (congrArg (List.map Observation.id) nothing).symm.trans counted
  cases empty

end RedDock.CoverageRuns
