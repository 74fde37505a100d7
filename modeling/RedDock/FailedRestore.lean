import RedDock.RestoreRecovery

/-!
# Restores that fail

A restore that fails before it is committed rolls back. The old data are always
put back; the marker is left behind when the old data do not pass validation, or
when the restore fails as it writes the marker.
-/
set_option autoImplicit false
namespace RedDock.FailedRestore
open Text Durable Program Restore RestoreRecovery

section
variable {Db File : Type} {check : Check Db File} {db : Option Db} {files : Option (List File)} {archive : Archive Db File}

/-- The live data are as they were, and there is no marker. -/
structure Intact (db : Option Db) (files : Option (List File)) (s : Store Db File) : Prop where
  database : s.database = db
  evidence : s.evidence = files
  marker : s.marker = none

/-- A state of a restore that is not committed. -/
def Uncommitted (s : Store Db File) : Prop := ∀ document, s.marker = some document → document.state = .prepared

theorem not_intact {s : Store Db File} {document : Marker} (marked : s.marker = some document) : ¬Intact db files s := by
  intro intact
  rw [intact.marker] at marked
  cases marked

variable (check) in
/-- The handler of a restore that fails once its marker is there. -/
theorem handler_guarantees (old_data : files.isSome = true → db.isSome = true) {p : Store Db File} (prepared : Prepared db files p) :
    Guarantees (fun t => Prepared db files t ∨ t = settled db files) (fun t => t = settled db files ∧ Sound check db files)
      (fun _ t => t.marker.isSome = true ∧ ¬Sound check db files) (handle_failure check true) p := by
  apply guarantees_look
  rw [prepared.marker]
  apply guarantees_look
  have described : ((document db files .prepared).had_evidence && !(document db files .prepared).had_database) = false := by
    rw [Bool.and_eq_false_iff, Bool.not_eq_false']
    show files.isSome = false ∨ db.isSome = true
    by_cases had : files.isSome = true
    · exact Or.inr (old_data had)
    · exact Or.inl (Bool.not_eq_true _ ▸ had)
  have confirmed : ¬((document db files .prepared).state = .prepared ∧ true = false) := by simp
  simp only [prepared.marker, described, Bool.false_eq_true, if_false, if_neg confirmed]
  refine guarantees_append ((rollback_guarantees check prepared).weaken (fun _ kept => Or.inl kept) (fun _ ends => ends) ?_) ?_
  · rintro _ t ⟨marked, _, unsound⟩
    exact ⟨by rw [marked]; rfl, unsound⟩
  · rintro t ⟨marked, restored, sound⟩
    have kept : ∀ v, Prepared db files (staging.set v t) := fun _ =>
      Restored.prepared ⟨restored.database, restored.evidence, restored.old_database, restored.old_evidence⟩ marked
    exact (finish_guarantees restored (Or.inl (restored.prepared marked)) (fun v => Or.inl (kept v)) (Or.inr rfl)).weaken
      (fun _ stays => stays) (fun _ is => ⟨is, sound⟩) fun _ _ fails => fails

variable (check) in
/-- The handler of a restore that fails before its marker is known to be there. -/
theorem unprepared_guarantees {p : Store Db File} (preparing : Preparing db files p) :
    Guarantees (fun t => Restored db files t ∧ t.marker = p.marker) (fun t => Restored db files t ∧ t.marker = p.marker)
      (fun _ _ => False) (handle_failure check false) p := by
  have restored := preparing.1
  exact unstage_guarantees ⟨restored, rfl⟩ fun _ =>
    ⟨⟨restored.database, restored.evidence, restored.old_database, restored.old_evidence⟩, rfl⟩

theorem intact_of_restored {p t : Store Db File} (restored : Restored db files t) (same : t.marker = p.marker) :
    Intact db files t ↔ p.marker = none :=
  ⟨fun intact => same ▸ intact.marker, fun unmarked => ⟨restored.database, restored.evidence, same.trans unmarked⟩⟩

theorem uncommitted_prepared {p : Store Db File} (failure : Failure check archive (settled db files) true p)
    (uncommitted : Uncommitted p) : Prepared db files p := by
  rcases failure_installing failure with prepared | ⟨_, _, _, _, committed⟩
  · exact prepared
  · cases uncommitted _ committed.marker

/-- A restore that fails before it is committed leaves the live data as they
    were and no marker exactly when it fails before the marker is there, or when
    it knows of the marker and the old data pass validation. Where the rollback
    fails too, it does exactly when the marker is removed first. -/
theorem failed_restore_intact_iff (old_data : files.isSome = true → db.isSome = true) {marker_created : Bool} {p : Store Db File}
    (failure : Failure check archive (settled db files) marker_created p) (uncommitted : Uncommitted p) :
    (∀ error t, (handle_failure check marker_created).run p = (error, t) →
      (Intact db files t ↔ p.marker = none ∨ (marker_created = true ∧ Sound check db files))) ∧
    ∀ t, Stopped (handle_failure check marker_created) p t → (Intact db files t ↔ t.marker = none) := by
  cases marker_created with
  | false =>
    have handles := unprepared_guarantees check (failure_preparing failure)
    constructor
    · intro error t ran
      have never : ¬(false = true ∧ Sound check db files) := fun both => Bool.false_ne_true both.1
      cases error with
      | none =>
        obtain ⟨restored, same⟩ := handles.done t ran
        exact (intact_of_restored restored same).trans ⟨Or.inl, fun either => either.resolve_right never⟩
      | some error => exact (handles.raised error t ran).elim
    · intro t stopped
      obtain ⟨restored, _⟩ := handles.stopped t stopped
      exact intact_of_restored restored rfl
  | true =>
    have prepared := uncommitted_prepared failure uncommitted
    have handles := handler_guarantees check old_data prepared
    have marked : p.marker ≠ none := by
      rw [prepared.marker]
      exact Option.some_ne_none _
    constructor
    · intro error t ran
      cases error with
      | none =>
        obtain ⟨rfl, sound⟩ := handles.done t ran
        exact ⟨fun _ => Or.inr ⟨rfl, sound⟩, fun _ => ⟨rfl, rfl, rfl⟩⟩
      | some error =>
        obtain ⟨left, unsound⟩ := handles.raised error t ran
        obtain ⟨document, left⟩ := Option.isSome_iff_exists.mp left
        refine ⟨fun intact => (not_intact left intact).elim, fun either => ?_⟩
        exact (unsound (either.resolve_left marked).2).elim
    · intro t stopped
      rcases handles.stopped t stopped with stays | rfl
      · refine ⟨fun intact => (not_intact stays.marker intact).elim, fun unmarked => ?_⟩
        rw [stays.marker] at unmarked
        cases unmarked
      · exact ⟨fun _ => rfl, fun _ => ⟨rfl, rfl, rfl⟩⟩

end

/-! ### Two restores that leave their marker -/

/-- A bad archive, of which nothing is staged. -/
def bad_archive : Archive Nat Nat := .error ("Backup archive contains a corrupt ZIP member".toList, {})

/-- What is there once the marker is written. -/
def marked (database : Option Nat) : Store Nat Nat where
  database := database
  staging := some {}
  marker := some ⟨.prepared, database.isSome, false⟩

theorem bad_archive_fails (database : Option Nat) : Failure number_check bad_archive (settled database none) true (marked database) :=
  .refused rfl rfl

theorem marked_uncommitted (database : Option Nat) : Uncommitted (marked database) := by
  intro document is
  cases is
  rfl

theorem failed_restore_intact_sound : ∃ t, (handle_failure number_check true).run (marked (some 1)) = (none, t) ∧ Intact (some 1) none t := by
  have ran : (handle_failure number_check true).run (marked (some 1)) = (none, settled (some 1) none) := rfl
  have sound : Sound number_check (some 1) none := by
    intro d is
    cases is
    rfl
  refine ⟨_, ran, ((failed_restore_intact_iff ?_ (bad_archive_fails (some 1)) (marked_uncommitted _)).1 _ _ ran).mpr (Or.inr ⟨rfl, sound⟩)⟩
  intro present
  cases present

/-- A restore over a corrupt database from a bad archive, and a restore that fails
    right after the marker is linked. -/
theorem failed_restores_leave_marker :
    (Failure number_check bad_archive (settled (some 0) none) true (marked (some 0)) ∧ Uncommitted (marked (some 0)) ∧
      ∃ error t, (handle_failure number_check true).run (marked (some 0)) = (error, t) ∧ ¬Intact (some 0) none t) ∧
    Failure number_check bad_archive (settled (some 1) none) false (marked (some 1)) ∧ Uncommitted (marked (some 1)) ∧
      ∃ error t, (handle_failure number_check false).run (marked (some 1)) = (error, t) ∧ ¬Intact (some 1) none t := by
  let start : Store Nat Nat := settled (some 1) none
  have linked : Stopped (prepare (marker_document start)) start (marked (some 1)) :=
    .later (.later .now)
  refine ⟨⟨bad_archive_fails _, marked_uncommitted _, _, _, rfl, not_intact rfl⟩, .preparing linked, marked_uncommitted _, _, _, rfl,
    not_intact rfl⟩

end RedDock.FailedRestore
