import RedDock.Findings

/-!
# The lifecycle of a finding

Over any sequence of detection runs and operator decisions: one row for one
fingerprint, never deleted, with its first sighting kept, and resolved only when
its own detector looked and did not find it.
-/
set_option autoImplicit false
namespace RedDock.FindingLifecycle
open Text Detection Findings Fallible Runs

variable {runtime : Runtime} {run : DetectionRun}

/-! ### What never changes -/

/-- A status and `resolved_at` that agree. -/
def Sound (row : Finding) : Prop :=
  (row.status = .open → row.resolved_at = none) ∧ (row.status = .resolved → row.resolved_at ≠ none)

/-- The rows of a Dockyard: one for each fingerprint, each of them sound. -/
structure Wellformed (rows : List Finding) : Prop where
  unique : (rows.map (·.fingerprint)).Nodup
  sound : ∀ row ∈ rows, Sound row

/-- The same finding, with its first sighting. -/
structure Keeps (row row' : Finding) : Prop where
  fingerprint : row'.fingerprint = row.fingerprint
  first_seen : row'.first_seen = row.first_seen
  first_detection_run_id : row'.first_detection_run_id = row.first_detection_run_id

theorem Keeps.refl (row : Finding) : Keeps row row := ⟨rfl, rfl, rfl⟩

theorem Keeps.trans {a b c : Finding} (first : Keeps a b) (second : Keeps b c) : Keeps a c :=
  ⟨second.fingerprint.trans first.fingerprint, second.first_seen.trans first.first_seen,
    second.first_detection_run_id.trans first.first_detection_run_id⟩

/-- Every finding is still there. -/
def Kept (rows rows' : List Finding) : Prop := ∀ row ∈ rows, ∃ row' ∈ rows', Keeps row row'

theorem Kept.refl (rows : List Finding) : Kept rows rows := fun row member => ⟨row, member, Keeps.refl row⟩

theorem Kept.trans {a b c : List Finding} (first : Kept a b) (second : Kept b c) : Kept a c := by
  intro row member
  obtain ⟨row', member', keeps⟩ := first row member
  obtain ⟨row'', member'', keeps'⟩ := second row' member'
  exact ⟨row'', member'', keeps.trans keeps'⟩

/-- What a detection leaves of a row: the finding, and an operator's status. -/
def Survives (row row' : Finding) : Prop :=
  Keeps row row' ∧ (row.status ∈ OPERATOR_OWNED_STATUSES → row'.status = row.status)

theorem Survives.refl (row : Finding) : Survives row row := ⟨Keeps.refl row, fun _ => rfl⟩

theorem Survives.trans {a b c : Finding} (first : Survives a b) (second : Survives b c) : Survives a c := by
  refine ⟨first.1.trans second.1, fun owned => ?_⟩
  have same := first.2 owned
  rw [second.2 (same ▸ owned), same]

/-! ### Storing -/

/-- Rows after a part of `_store`, which writes rows of one kind. -/
structure Reconciled (writes : Finding → Prop) (rows rows' : List Finding) : Prop where
  unique : (rows'.map (·.fingerprint)).Nodup
  survives : ∀ row ∈ rows, ∃ row' ∈ rows', Survives row row'
  written : ∀ row' ∈ rows', row' ∈ rows ∨ writes row'
  sound : (∀ row ∈ rows, Sound row) → ∀ row' ∈ rows', Sound row'

theorem Reconciled.refl {writes : Finding → Prop} {rows : List Finding} (unique : (rows.map (·.fingerprint)).Nodup) :
    Reconciled writes rows rows :=
  ⟨unique, fun row member => ⟨row, member, Survives.refl row⟩, fun _ member => Or.inl member, id⟩

theorem Reconciled.trans {first second writes : Finding → Prop} {a b c : List Finding} (before : Reconciled first a b)
    (after : Reconciled second b c) (left : ∀ row, first row → writes row) (right : ∀ row, second row → writes row) :
    Reconciled writes a c where
  unique := after.unique
  survives row member := by
    obtain ⟨row', member', survives⟩ := before.survives row member
    obtain ⟨row'', member'', survives'⟩ := after.survives row' member'
    exact ⟨row'', member'', survives.trans survives'⟩
  written row member := by
    rcases after.written row member with stayed | written
    · exact (before.written row stayed).imp id (left row)
    · exact Or.inr (right row written)
  sound all := after.sound (before.sound all)

section Upsert
variable {run_id seen_at : Nat} {fingerprint : Text} {conclusion : Conclusion}

theorem reconciled_status (stored : Option Finding) :
    (reconciled run_id seen_at fingerprint conclusion stored).status ≠ .resolved := by
  cases stored with
  | none => simp [reconciled]
  | some row => by_cases back : row.status = .resolved <;> simp [reconciled, back]

theorem reconciled_sound {stored : Option Finding} (sound : ∀ row ∈ stored, Sound row) :
    Sound (reconciled run_id seen_at fingerprint conclusion stored) := by
  refine ⟨?_, fun back => absurd back (reconciled_status stored)⟩
  cases stored with
  | none => exact fun _ => rfl
  | some row =>
    intro opened
    by_cases back : row.status = .resolved
    · simp [reconciled, back]
    · simp only [reconciled, back, if_false] at opened ⊢
      exact (sound row rfl).1 opened

theorem reconciled_survives {row : Finding} (same : row.fingerprint = fingerprint) :
    Survives row (reconciled run_id seen_at fingerprint conclusion (some row)) := by
  refine ⟨⟨same.symm, rfl, rfl⟩, fun owned => ?_⟩
  have kept : row.status ≠ .resolved := by
    intro back
    rw [back] at owned
    simp [OPERATOR_OWNED_STATUSES] at owned
  simp [reconciled, kept]

theorem upsert_fingerprints (rows : List Finding) :
    (upsert_finding run_id seen_at fingerprint conclusion rows).map (·.fingerprint) =
      if fingerprint ∈ rows.map (·.fingerprint) then rows.map (·.fingerprint)
      else rows.map (·.fingerprint) ++ [fingerprint] := by
  induction rows with
  | nil => rfl
  | cons row rows ih =>
    by_cases same : row.fingerprint = fingerprint
    · simp [upsert_finding, same, reconciled]
    · have other : fingerprint ≠ row.fingerprint := fun is => same is.symm
      simp only [upsert_finding, same, if_false, List.map_cons, ih, List.mem_cons, other, false_or]
      split <;> rfl

/-- A row after `upsert_finding` is an old one or the reconciled one. -/
theorem mem_upsert {rows : List Finding} {row : Finding}
    (member : row ∈ upsert_finding run_id seen_at fingerprint conclusion rows) :
    row ∈ rows ∨ ∃ stored, row = reconciled run_id seen_at fingerprint conclusion stored ∧ ∀ old ∈ stored, old ∈ rows := by
  induction rows with
  | nil => exact Or.inr ⟨none, by simpa [upsert_finding] using member, by simp⟩
  | cons first rows ih =>
    by_cases same : first.fingerprint = fingerprint
    · simp only [upsert_finding, same, if_true, List.mem_cons] at member
      rcases member with rfl | later
      · exact Or.inr ⟨some first, rfl, by simp⟩
      · exact Or.inl (List.mem_cons_of_mem _ later)
    · simp only [upsert_finding, same, if_false, List.mem_cons] at member
      rcases member with rfl | later
      · exact Or.inl (by simp)
      · rcases ih later with old | ⟨stored, is, inside⟩
        · exact Or.inl (List.mem_cons_of_mem _ old)
        · exact Or.inr ⟨stored, is, fun old member => List.mem_cons_of_mem _ (inside old member)⟩

theorem upsert_survives {rows : List Finding} {row : Finding} (member : row ∈ rows) :
    ∃ row' ∈ upsert_finding run_id seen_at fingerprint conclusion rows, Survives row row' := by
  induction rows with
  | nil => simp at member
  | cons first rows ih =>
    by_cases same : first.fingerprint = fingerprint
    · simp only [upsert_finding, same, if_true, List.mem_cons, exists_eq_or_imp]
      rcases List.mem_cons.mp member with rfl | later
      · exact Or.inl (reconciled_survives same)
      · exact Or.inr ⟨row, later, Survives.refl row⟩
    · simp only [upsert_finding, same, if_false, List.mem_cons, exists_eq_or_imp]
      rcases List.mem_cons.mp member with rfl | later
      · exact Or.inl (Survives.refl row)
      · exact Or.inr (ih later)

theorem upsert_reconciled (run_id seen_at : Nat) (fingerprint : Text) (conclusion : Conclusion) {rows : List Finding}
    (unique : (rows.map (·.fingerprint)).Nodup) :
    Reconciled (fun row => row.status ≠ .resolved ∧ row.detector = conclusion.detector ∧ row.fingerprint = fingerprint)
      rows (upsert_finding run_id seen_at fingerprint conclusion rows) where
  unique := by
    rw [upsert_fingerprints]
    split
    · exact unique
    · rename_i fresh
      exact List.nodup_append.mpr ⟨unique, by simp, fun a member b single => by
        rintro rfl
        exact fresh ((List.mem_singleton.mp single) ▸ member)⟩
  survives row member := upsert_survives member
  written row member := by
    rcases mem_upsert member with old | ⟨stored, rfl, _⟩
    · exact Or.inl old
    · exact Or.inr ⟨reconciled_status stored, rfl, rfl⟩
  sound all row member := by
    rcases mem_upsert member with old | ⟨stored, rfl, inside⟩
    · exact all row old
    · exact reconciled_sound fun old member => all old (inside old member)

end Upsert

/-- A row that a detector wrote in this run. -/
def WrittenBy (detector : Detector) (fingerprints : List Text) (row : Finding) : Prop :=
  row.status ≠ .resolved ∧ row.detector = detector.id ∧ row.fingerprint ∈ fingerprints

theorem store_finding_ok {detector : Detector} {rows rows' : List Finding} {detected : DetectedFinding} {fingerprint : Text}
    (stored : store_finding runtime run detector rows detected = .ok (rows', fingerprint)) :
    identity runtime detector.id detected run.context = .ok fingerprint ∧
      ∃ conclusion, conclusion.detector = detector.id ∧
        rows' = upsert_finding run.id run.context.generated_at fingerprint conclusion rows := by
  unfold store_finding at stored
  obtain ⟨found, identified, stored⟩ := bind_eq_ok.mp stored
  obtain ⟨asset, _, stored⟩ := bind_eq_ok.mp stored
  obtain ⟨service, _, stored⟩ := bind_eq_ok.mp stored
  obtain ⟨conclusion, concluded, stored⟩ := bind_eq_ok.mp stored
  split at stored
  · cases stored
    refine ⟨identified, conclusion, ?_, rfl⟩
    obtain ⟨title, _, concluded⟩ := bind_eq_ok.mp concluded
    obtain ⟨references, _, concluded⟩ := bind_eq_ok.mp concluded
    cases concluded
    rfl
  · simp [throw, throwThe, MonadExceptOf.throw] at stored

theorem store_findings_ok {detector : Detector} {findings : List DetectedFinding} {rows rows' : List Finding}
    {fingerprints : List Text} (unique : (rows.map (·.fingerprint)).Nodup)
    (stored : store_findings runtime run detector rows findings = .ok (rows', fingerprints)) :
    Reconciled (WrittenBy detector fingerprints) rows rows' ∧
      List.Forall₂ (fun detected fingerprint => identity runtime detector.id detected run.context = .ok fingerprint)
        findings fingerprints := by
  induction findings generalizing rows rows' fingerprints with
  | nil =>
    cases stored
    exact ⟨Reconciled.refl unique, .nil⟩
  | cons detected findings ih =>
    unfold store_findings at stored
    obtain ⟨⟨rows₁, fingerprint⟩, first, stored⟩ := bind_eq_ok.mp stored
    obtain ⟨⟨rows₂, rest⟩, second, stored⟩ := bind_eq_ok.mp stored
    cases stored
    obtain ⟨identified, conclusion, same, rfl⟩ := store_finding_ok first
    have one := upsert_reconciled run.id run.context.generated_at fingerprint conclusion unique
    obtain ⟨others, identities⟩ := ih one.unique second
    refine ⟨one.trans others ?_ ?_, .cons identified identities⟩
    · rintro row ⟨status, detector, rfl⟩
      exact ⟨status, detector.trans same, by simp⟩
    · rintro row ⟨status, detector, inside⟩
      exact ⟨status, detector, List.mem_cons_of_mem _ inside⟩

/-- The detectors that succeeded, each with the fingerprints of its findings. -/
def Accounts (runtime : Runtime) (run : DetectionRun) (outcomes : List DetectorOutcome) (reproduced : Reproduced) : Prop :=
  ∀ entry ∈ reproduced, ∃ outcome ∈ outcomes, ∃ findings, outcome.detector = entry.1 ∧ outcome.result = .ok findings ∧
    List.Forall₂ (fun detected fingerprint => identity runtime entry.1.id detected run.context = .ok fingerprint)
      findings entry.2

theorem store_ok {outcomes : List DetectorOutcome} {rows rows' : List Finding} {reproduced : Reproduced}
    (unique : (rows.map (·.fingerprint)).Nodup) (stored : store runtime run rows outcomes = .ok (rows', reproduced)) :
    Reconciled (fun row => ∃ entry ∈ reproduced, WrittenBy entry.1 entry.2 row) rows rows' ∧
      Accounts runtime run outcomes reproduced ∧
        (reproduced.map fun entry => entry.1.id).Sublist (outcomes.map fun outcome => outcome.detector.id) := by
  induction outcomes generalizing rows rows' reproduced with
  | nil =>
    cases stored
    exact ⟨Reconciled.refl unique, by simp [Accounts], List.Sublist.slnil⟩
  | cons outcome outcomes ih =>
    unfold store at stored
    cases result : outcome.result with
    | error error =>
      simp only [result] at stored
      obtain ⟨reconciled, accounts, sublist⟩ := ih unique stored
      refine ⟨reconciled, fun entry member => ?_, sublist.cons _⟩
      obtain ⟨other, inside, accounted⟩ := accounts entry member
      exact ⟨other, List.mem_cons_of_mem _ inside, accounted⟩
    | ok findings =>
      simp only [result] at stored
      obtain ⟨⟨rows₁, fingerprints⟩, first, stored⟩ := bind_eq_ok.mp stored
      obtain ⟨⟨rows₂, rest⟩, second, stored⟩ := bind_eq_ok.mp stored
      cases stored
      obtain ⟨own, identities⟩ := store_findings_ok unique first
      obtain ⟨others, accounts, sublist⟩ := ih own.unique second
      refine ⟨own.trans others ?_ ?_, ?_, sublist.cons_cons _⟩
      · exact fun row written => ⟨(outcome.detector, fingerprints), by simp, written⟩
      · rintro row ⟨entry, member, written⟩
        exact ⟨entry, List.mem_cons_of_mem _ member, written⟩
      · intro entry member
        rcases List.mem_cons.mp member with rfl | later
        · exact ⟨outcome, by simp, findings, rfl, result, identities⟩
        · obtain ⟨other, inside, accounted⟩ := accounts entry later
          exact ⟨other, List.mem_cons_of_mem _ inside, accounted⟩

/-! ### Resolving -/

/-- The detector of a row looked in this run and did not reproduce it. -/
def Absent (run : DetectionRun) (entry : Detector × List Text) (row : Finding) : Prop :=
  ∃ unevaluated, entry.1.unevaluated run.context = .ok unevaluated ∧ row.detector = entry.1.id ∧
    row.status ∉ OPERATOR_OWNED_STATUSES ∧ row.status ≠ .resolved ∧ row.fingerprint ∉ entry.2 ∧
      (row.asset_id, row.service_id, row.rule_id) ∉ unevaluated

/-- A row after `_resolve`: as it was, or resolved for its absence. -/
def Resolves (run : DetectionRun) (reproduced : Reproduced) (row row' : Finding) : Prop :=
  row' = row ∨ ∃ moment, row' = { row with status := .resolved, resolved_at := some moment } ∧
    ∃ entry ∈ reproduced, Absent run entry row

theorem absent_iff {entry : Detector × List Text} {unevaluated : List Coverage} {row : Finding}
    (covered : entry.1.unevaluated run.context = .ok unevaluated) :
    absent entry.1.id entry.2 unevaluated row = true ↔ Absent run entry row := by
  simp [absent, Absent, covered, and_assoc]

theorem resolve_one (entry : Detector × List Text) (rows : List Finding) :
    List.Forall₂ (Resolves run [entry]) rows (resolve run [entry] rows) := by
  simp only [resolve, List.foldl_cons, List.foldl_nil]
  cases covered : entry.1.unevaluated run.context with
  | error error => exact List.forall₂_same.mpr fun row _ => Or.inl rfl
  | ok unevaluated =>
    simp only [resolve_absent]
    rw [List.forall₂_map_right_iff]
    refine List.forall₂_same.mpr fun row _ => ?_
    by_cases gone : absent entry.1.id entry.2 unevaluated row = true
    · rw [if_pos gone]
      exact Or.inr ⟨_, rfl, entry, by simp, (absent_iff covered).mp gone⟩
    · rw [if_neg gone]
      exact Or.inl rfl

theorem resolves_trans {entry : Detector × List Text} {reproduced : Reproduced} {a b c : Finding}
    (first : Resolves run [entry] a b) (second : Resolves run reproduced b c) : Resolves run (entry :: reproduced) a c := by
  rcases first with rfl | ⟨moment, rfl, other, member, gone⟩
  · exact second.imp id fun ⟨moment, is, other, member, gone⟩ =>
      ⟨moment, is, other, List.mem_cons_of_mem _ member, gone⟩
  · rcases second with rfl | ⟨_, _, later, _, _, _, _, _, open_status, _⟩
    · rw [List.mem_singleton] at member
      exact Or.inr ⟨moment, rfl, other, by simp [member], gone⟩
    · exact absurd rfl open_status

/-- Every row goes through `_resolve` by itself. -/
theorem resolve_spec (run : DetectionRun) (reproduced : Reproduced) (rows : List Finding) :
    List.Forall₂ (Resolves run reproduced) rows (resolve run reproduced rows) := by
  induction reproduced generalizing rows with
  | nil => exact List.forall₂_same.mpr fun row _ => Or.inl rfl
  | cons entry reproduced ih =>
    have split : resolve run (entry :: reproduced) rows = resolve run reproduced (resolve run [entry] rows) := rfl
    rw [split]
    exact forall₂_trans (R := Resolves run [entry]) (S := Resolves run reproduced) (fun _ _ _ => resolves_trans)
      (resolve_one entry rows) (ih _)

theorem Resolves.survives {reproduced : Reproduced} {row row' : Finding} (resolves : Resolves run reproduced row row') :
    Survives row row' := by
  rcases resolves with rfl | ⟨moment, rfl, _, _, _, _, _, free, _⟩
  · exact Survives.refl _
  · exact ⟨⟨rfl, rfl, rfl⟩, fun owned => absurd owned free⟩

theorem Resolves.sound {reproduced : Reproduced} {row row' : Finding} (resolves : Resolves run reproduced row row')
    (sound : Sound row) : Sound row' := by
  rcases resolves with rfl | ⟨moment, rfl, _⟩
  · exact sound
  · exact ⟨by simp, by simp⟩

/-! ### A detection run -/

/-- A run in which the detector of a row succeeded, did not reproduce the row
    and did not list it as unevaluated. -/
def Unreproduced (runtime : Runtime) (run : DetectionRun) (rows : List Finding) (row : Finding) : Prop :=
  ∃ outcomes rows', perform runtime run rows = .ok (outcomes, rows') ∧
    ∃ outcome ∈ outcomes, outcome.detector.id = row.detector ∧ ∃ findings, outcome.result = .ok findings ∧
      (∀ detected ∈ findings, identity runtime outcome.detector.id detected run.context ≠ .ok row.fingerprint) ∧
        ∃ unevaluated, outcome.detector.unevaluated run.context = .ok unevaluated ∧
          (row.asset_id, row.service_id, row.rule_id) ∉ unevaluated

/-- What a detection run makes of the rows. -/
structure Detected (runtime : Runtime) (run : DetectionRun) (rows rows' : List Finding) : Prop where
  survives : ∀ row ∈ rows, ∃ row' ∈ rows', Survives row row'
  resolves : ∀ row' ∈ rows', row'.status = .resolved → row' ∈ rows ∨
    ∃ row ∈ rows, row.fingerprint = row'.fingerprint ∧ Unreproduced runtime run rows row

theorem run_detector_ok {context : DetectionContext} {detector : Detector} {outcome : DetectorOutcome}
    (ran : run_detector runtime context detector = .ok outcome) : outcome.detector = detector := by
  unfold run_detector at ran
  split at ran
  · simp at ran
  · cases ran
    rfl
  · split at ran <;> cases ran <;> rfl

theorem outcome_ids {context : DetectionContext} {detectors : List Detector} {outcomes : List DetectorOutcome}
    (ran : detectors.mapM (run_detector runtime context) = .ok outcomes) :
    outcomes.map (fun outcome => outcome.detector.id) = detectors.map Detector.id :=
  forall₂_map_eq (fun detector outcome here => by rw [run_detector_ok here]) (mapM_ok.mp ran)

/-- What a run that commits is made of. -/
theorem perform_ok {rows final : List Finding} {outcomes : List DetectorOutcome}
    (performed : perform runtime run rows = .ok (outcomes, final)) :
    (outcomes.map fun outcome => outcome.detector.id).Nodup ∧ ∃ stored reproduced,
      store runtime run rows outcomes = .ok (stored, reproduced) ∧ final = resolve run reproduced stored := by
  unfold perform at performed
  by_cases distinct : (run.detectors.map Detector.id).Nodup
  · simp only [distinct, decide_true, Bool.not_true, Bool.false_eq_true, if_false] at performed
    obtain ⟨outcomes', ran, performed⟩ := bind_eq_ok.mp performed
    obtain ⟨⟨stored, reproduced⟩, storing, performed⟩ := bind_eq_ok.mp performed
    split at performed
    · cases performed
      exact ⟨(outcome_ids ran).symm ▸ distinct, stored, reproduced, storing, rfl⟩
    · simp [throw, throwThe, MonadExceptOf.throw] at performed
  · simp [distinct, throw, throwThe, MonadExceptOf.throw, bind, Except.bind] at performed

/-- A row that a detector wrote is not absent for a detector of the same id. -/
theorem written_not_absent {reproduced : Reproduced} {row : Finding} {entry other : Detector × List Text}
    (distinct : (reproduced.map fun entry => entry.1.id).Nodup) (member : entry ∈ reproduced) (inside : other ∈ reproduced)
    (written : WrittenBy other.1 other.2 row) : ¬Absent run entry row := by
  rintro ⟨_, _, detector, _, _, fresh, _⟩
  have same : entry = other :=
    List.inj_on_of_nodup_map distinct member inside (detector.symm.trans written.2.1)
  exact fresh (same ▸ written.2.2)

theorem execute_run_spec (runtime : Runtime) (run : DetectionRun) {rows : List Finding} (wellformed : Wellformed rows) :
    Wellformed (execute_run runtime run rows) ∧ Detected runtime run rows (execute_run runtime run rows) := by
  unfold execute_run
  cases performed : perform runtime run rows with
  | error raised =>
    exact ⟨wellformed, fun row member => ⟨row, member, Survives.refl row⟩, fun row member _ => Or.inl member⟩
  | ok result =>
    obtain ⟨outcomes, final⟩ := result
    obtain ⟨distinct, stored, reproduced, storing, rfl⟩ := perform_ok performed
    obtain ⟨reconciled, accounts, sublist⟩ := store_ok wellformed.unique storing
    have resolved := resolve_spec run reproduced stored
    have fingerprints : (resolve run reproduced stored).map (·.fingerprint) = stored.map (·.fingerprint) :=
      forall₂_map_eq (fun _ _ resolves => resolves.survives.1.fingerprint) resolved
    refine ⟨⟨by rw [fingerprints]; exact reconciled.unique, fun row' member => ?_⟩, fun row member => ?_, ?_⟩
    · obtain ⟨row, inside, resolves⟩ := forall₂_right resolved member
      exact resolves.sound (reconciled.sound wellformed.sound row inside)
    · obtain ⟨row₁, inside, survives⟩ := reconciled.survives row member
      obtain ⟨row', member', resolves⟩ := forall₂_left resolved inside
      exact ⟨row', member', survives.trans resolves.survives⟩
    · intro row' member status
      obtain ⟨row, inside, resolves⟩ := forall₂_right resolved member
      rcases resolves with rfl | ⟨moment, rfl, entry, listed, gone⟩
      · -- a row that was resolved before this run, which no detector wrote
        rcases reconciled.written row' inside with old | ⟨_, _, kept, _⟩
        · exact Or.inl old
        · exact absurd status kept
      · have old : row ∈ rows := by
          rcases reconciled.written row inside with old | ⟨other, writer, written⟩
          · exact old
          · exact absurd gone (written_not_absent (sublist.nodup distinct) listed writer written)
        obtain ⟨outcome, reported, findings, same, result, identities⟩ := accounts entry listed
        obtain ⟨unevaluated, covered, detector, _, _, fresh, evaluated⟩ := gone
        refine Or.inr ⟨row, old, rfl, outcomes, _, performed, outcome, reported, by rw [same, detector], findings, result, ?_,
          unevaluated, by rw [same]; exact covered, evaluated⟩
        intro detected produced identified
        obtain ⟨fingerprint, reproduces, found⟩ := forall₂_left identities produced
        rw [same, found, Except.ok.injEq] at identified
        exact fresh (identified ▸ reproduces)

/-! ### An operator's decision -/

theorem set_status_fingerprints (fingerprint : Text) (status : FindingStatus) (note : Option Text) (rows : List Finding) :
    (set_status fingerprint status note rows).map (·.fingerprint) = rows.map (·.fingerprint) := by
  rw [set_status, List.map_map]
  refine List.map_congr_left fun row _ => ?_
  by_cases same : row.fingerprint = fingerprint <;> simp [same]

/-- A decided row is the old one, or the old one with the operator's status. -/
theorem mem_set_status {fingerprint : Text} {status : FindingStatus} {note : Option Text} {rows : List Finding} {row' : Finding}
    (member : row' ∈ set_status fingerprint status note rows) : row' ∈ rows ∨ ∃ row ∈ rows,
      row' = { row with status := status, status_note := note, resolved_at := if status = .open then none else row.resolved_at } := by
  obtain ⟨row, inside, rfl⟩ := List.mem_map.mp member
  split
  · exact Or.inr ⟨row, inside, rfl⟩
  · exact Or.inl inside

theorem set_status_spec (fingerprint : Text) (note : Option Text) {status : FindingStatus} {rows : List Finding}
    (wellformed : Wellformed rows) (operator : status ∈ OPERATOR_STATUSES) :
    Wellformed (set_status fingerprint status note rows) ∧ Kept rows (set_status fingerprint status note rows) ∧
      ∀ row' ∈ set_status fingerprint status note rows, row'.status = .resolved → row' ∈ rows := by
  have unresolved : status ≠ .resolved := by
    rintro rfl
    simp [OPERATOR_STATUSES] at operator
  refine ⟨⟨by rw [set_status_fingerprints]; exact wellformed.unique, fun row' member => ?_⟩, fun row member => ?_, ?_⟩
  · rcases mem_set_status member with old | ⟨row, _, rfl⟩
    · exact wellformed.sound row' old
    · exact ⟨fun opened => if_pos opened, fun resolved => absurd resolved unresolved⟩
  · refine ⟨_, List.mem_map_of_mem member, ?_⟩
    by_cases same : row.fingerprint = fingerprint
    · rw [if_pos same]
      exact ⟨rfl, rfl, rfl⟩
    · rw [if_neg same]
      exact Keeps.refl row
  · intro row' member resolved
    rcases mem_set_status member with old | ⟨row, _, rfl⟩
    · exact old
    · exact absurd resolved unresolved

/-! ### Whole runs -/

theorem step_wellformed (rows : List Finding) (action : Action) (rows' : List Finding) (wellformed : Wellformed rows)
    (stepped : step runtime rows action = some rows') : Wellformed rows' ∧ Kept rows rows' := by
  cases action with
  | detect run =>
    cases stepped
    obtain ⟨after, detected⟩ := execute_run_spec runtime run wellformed
    refine ⟨after, fun row member => ?_⟩
    obtain ⟨row', member', survives⟩ := detected.survives row member
    exact ⟨row', member', survives.1⟩
  | decide fingerprint status note permitted =>
    simp only [step] at stepped
    split at stepped
    · rename_i operator
      cases stepped
      cases permitted with
      | true =>
        obtain ⟨after, kept, _⟩ := set_status_spec fingerprint note wellformed operator
        exact ⟨after, kept⟩
      | false => exact ⟨wellformed, Kept.refl rows⟩
    · simp at stepped

theorem run_wellformed {rows rows' : List Finding} {actions : List Action} (wellformed : Wellformed rows)
    (ran : Runs.run (step runtime) rows actions = some rows') : Wellformed rows' ∧ Kept rows rows' :=
  invariant_run (fun later => Wellformed later ∧ Kept rows later)
    (fun before action after held stepped =>
      have ⟨wellformed, kept⟩ := step_wellformed before action after held.1 stepped
      ⟨wellformed, held.2.trans kept⟩)
    ⟨wellformed, Kept.refl rows⟩ ran

/-- Only a detection run resolves, and only what its detector did not reproduce. -/
def ResolvesRightly (runtime : Runtime) (rows : List Finding) (action : Action) (rows' : List Finding) : Prop :=
  ∀ row' ∈ rows', row'.status = .resolved → row' ∈ rows ∨ ∃ run, action = .detect run ∧
    ∃ row ∈ rows, row.fingerprint = row'.fingerprint ∧ Unreproduced runtime run rows row

/-- A detection run leaves the status an operator decided on. -/
def LeavesOwned (rows : List Finding) (action : Action) (rows' : List Finding) : Prop :=
  ∀ run, action = .detect run → ∀ row ∈ rows, row.status ∈ OPERATOR_OWNED_STATUSES →
    ∀ row' ∈ rows', row'.fingerprint = row.fingerprint → row'.status = row.status

/-- The lifecycle of findings over every sequence of detection runs and
    decisions on a Dockyard without findings. -/
theorem lifecycle {actions later : List Action} {rows rows' : List Finding}
    (ran : Runs.run (step runtime) [] actions = some rows) (ran' : Runs.run (step runtime) rows later = some rows') :
    Wellformed rows ∧ Kept rows rows' ∧ ∀ action next, step runtime rows action = some next →
      LeavesOwned rows action next ∧ ResolvesRightly runtime rows action next := by
  have wellformed : Wellformed rows := (run_wellformed ⟨by simp, by simp⟩ ran).1
  refine ⟨wellformed, (run_wellformed wellformed ran').2, fun action next stepped => ?_⟩
  have after := (step_wellformed rows action next wellformed stepped).1
  cases action with
  | detect run =>
    cases stepped
    have detected := (execute_run_spec runtime run wellformed).2
    refine ⟨?_, fun row' member resolved => (detected.resolves row' member resolved).imp id fun holds => ⟨run, rfl, holds⟩⟩
    rintro _ _ row member owned row' member' same
    obtain ⟨found, inside, survives⟩ := detected.survives row member
    have equal : row' = found :=
      List.inj_on_of_nodup_map after.unique member' inside (same.trans survives.1.fingerprint.symm)
    rw [equal, survives.2 owned]
  | decide fingerprint status note permitted =>
    refine ⟨fun run other => by simp at other, fun row' member resolved => Or.inl ?_⟩
    simp only [step] at stepped
    split at stepped
    · rename_i operator
      cases stepped
      cases permitted with
      | true => exact (set_status_spec fingerprint note wellformed operator).2.2 row' member resolved
      | false => exact member
    · simp at stepped

/-! ### A finding that is resolved -/

def plainRuntime : Runtime where
  repr := Object.shown
  repr_keys := fun _ => some []
  sha256 := id

/-- One finding for each observation. -/
def stubFinding (observation : ObservationView) : DetectedFinding where
  rule_id := .str "stub-rule".toList
  title := .str "Stub".toList
  description := .str "A stub.".toList
  category := .str "hardening".toList (some (.category .hardening))
  severity := .str "low".toList (some (.severity .low))
  confidence := .str "high".toList (some (.confidence .high))
  evidence_observation_ids := .ids [observation.id]
  asset_id := .none
  service_id := .none
  scope_key := .str []
  remediation := .none
  detail := .dict []
  cve_references := .references []

def stubDetector : Detector where
  id := "stub.detector".toList
  version := "1".toList
  detect := fun context => .ok (.sequence (context.observations.map fun observation => some (stubFinding observation)))
  unevaluated := fun _ => .ok []
  separated := by decide +kernel

def stubRun (id : Nat) (observations : List ObservationView) : DetectionRun where
  id := id
  detectors := [stubDetector]
  context := { generated_at := id, observations := observations }
  resolved_at := fun _ => id
  accepts := fun _ => true

def stubObservation : ObservationView := { id := 7, observation_type := "stub".toList, observed_at := 1 }

theorem lifecycle_resolved : ∃ rows rows', Runs.run (step plainRuntime) [] [.detect (stubRun 1 [stubObservation])] = some rows ∧
    Runs.run (step plainRuntime) rows [.detect (stubRun 2 [])] = some rows' ∧ rows.map (·.status) = [.open] ∧
      rows'.map (·.status) = [.resolved] ∧ Wellformed rows ∧ Kept rows rows' := by
  have first : (Runs.run (step plainRuntime) [] [.detect (stubRun 1 [stubObservation])]).map
      (fun rows => (rows.map (·.status), (Runs.run (step plainRuntime) rows [.detect (stubRun 2 [])]).map
        fun rows' => rows'.map (·.status))) = some ([.open], some [.resolved]) := by decide +kernel
  obtain ⟨rows, ran, facts⟩ := Option.map_eq_some_iff.mp first
  rw [Prod.mk.injEq] at facts
  obtain ⟨opened, second⟩ := facts
  obtain ⟨rows', ran', resolved⟩ := Option.map_eq_some_iff.mp second
  have all := lifecycle ran ran'
  exact ⟨rows, rows', ran, ran', opened, resolved, all.1, all.2.1⟩

end RedDock.FindingLifecycle
