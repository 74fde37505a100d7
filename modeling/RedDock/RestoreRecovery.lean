import RedDock.Restore

/-!
# What recovery restores

Wherever a restore or its recovery is stopped, recovery ends with the old
database and evidence before the restore is committed, and with the new ones
after it.
-/
set_option autoImplicit false
namespace RedDock.RestoreRecovery
open Text Durable Program Restore

section
variable {Db File : Type}

/-- A data directory that holds nothing else. -/
def settled (database : Option Db) (evidence : Option (List File)) : Store Db File := { database := database, evidence := evidence }

/-! ### One path -/

/-- A path that a prepared restore may have moved, and that recovery puts back. -/
structure Recoverable {α : Type} (had live old staged : Option α) : Prop where
  kept : had.isSome = true → (live = had ∧ old = none) ∨ old = had
  absent : had = none → old = none ∧ (live = none ∨ staged = none)

theorem Recoverable.back {α : Type} {had staged : Option α} : Recoverable had had none staged where
  kept := fun _ => Or.inl ⟨rfl, rfl⟩
  absent := fun none => ⟨rfl, Or.inl none⟩

/-- Three paths that do not overlap. -/
structure Apart {σ α : Type} (live old staged : Slot σ α) : Prop where
  live_live : ∀ v s, live.get (live.set v s) = v
  old_live : ∀ v s, old.get (live.set v s) = old.get s
  staged_live : ∀ v s, staged.get (live.set v s) = staged.get s
  old_old : ∀ v s, old.get (old.set v s) = v
  live_old : ∀ v s, live.get (old.set v s) = live.get s

theorem database_apart : Apart (database : Slot (Store Db File) Db) old_database staged_database := by
  constructor <;> intros <;> rfl

theorem evidence_apart : Apart (evidence : Slot (Store Db File) (List File)) old_evidence staged_evidence := by
  constructor <;> intros <;> rfl

/-- A program that removes what is at a path, and leaves a part of it when it is
    stopped. -/
def Removes {σ α : Type} (path : Slot σ α) (p : Program Text σ) : Prop :=
  ∀ (I Q : σ → Prop) (R : Text → σ → Prop) (s : σ), I s → (∀ v, I (path.set v s)) → Q (path.set none s) → Guarantees I Q R p s

theorem rmtree_removes {σ α : Type} (path : Slot σ α) (part : α → α → Prop) : Removes path (rmtree_durable path part) := by
  intro I Q R s here within after
  refine guarantees_operation here ?_ (guarantees_done (within none) after)
  rintro t ⟨_, left, _, _, rfl⟩
  exact within (some left)

theorem guarantees_atomically {σ : Type} {I Q : σ → Prop} {R : Text → σ → Prop} {effect : σ → σ} {s : σ} (here : I s)
    (within : I (effect s)) (after : Q (effect s)) : Guarantees I Q R (atomically effect) s :=
  guarantees_operation here (fun _ never => never.elim) (guarantees_done within after)

theorem unlink_removes {σ α : Type} (path : Slot σ α) : Removes path (unlink_durable path) :=
  fun _ _ _ _ here within after => guarantees_atomically here (within none) after

/-- Putting one path back, while what holds of the rest is left alone. -/
theorem roll_back_guarantees {α : Type} {live old staged : Slot (Store Db File) α} (apart : Apart live old staged) {had : Option α}
    {remove : Program Text (Store Db File)} (removes : Removes live remove) {F : Store Db File → Prop}
    (of_live : ∀ v t, F t → F (live.set v t)) (of_old : ∀ v t, F t → F (old.set v t)) {R : Text → Store Db File → Prop}
    {s : Store Db File} (rest : F s) (recoverable : Recoverable had (live.get s) (old.get s) (staged.get s)) :
    Guarantees (fun t => F t ∧ Recoverable had (live.get t) (old.get t) (staged.get t))
      (fun t => F t ∧ live.get t = had ∧ old.get t = none) R (roll_back live old staged had.isSome remove) s := by
  apply guarantees_look
  split
  · rename_i copied
    rw [Slot.exists] at copied
    -- the rollback copy is what the path had
    have is_old : old.get s = had := by
      cases given : had with
      | none =>
        rw [(recoverable.absent given).1] at copied
        cases copied
      | some a =>
        rcases recoverable.kept (by rw [given]; rfl) with ⟨_, none⟩ | is
        · rw [none] at copied
          cases copied
        · rw [is, given]
    have present : had.isSome = true := by
      rw [← is_old]
      exact copied
    have from_copy : ∀ v, Recoverable had (live.get (live.set v s)) (old.get (live.set v s)) (staged.get (live.set v s)) := by
      intro v
      refine ⟨fun _ => Or.inr ?_, fun none => ?_⟩
      · rw [apart.old_live, is_old]
      · rw [none] at present
        cases present
    have moved : ∀ t, F t → old.get t = had → Guarantees (fun t => F t ∧ Recoverable had (live.get t) (old.get t) (staged.get t))
        (fun t => F t ∧ live.get t = had ∧ old.get t = none) R (replace_durable old live) t := by
      intro t rest same
      have after : live.get (old.set none (live.set (old.get t) t)) = had := by rw [apart.live_old, apart.live_live, same]
      have gone : old.get (old.set none (live.set (old.get t) t)) = none := apart.old_old _ _
      have rest_after : F (old.set none (live.set (old.get t) t)) := of_old _ _ (of_live _ _ rest)
      refine guarantees_atomically ⟨rest, ⟨fun _ => Or.inr same, fun none => ?_⟩⟩ ⟨rest_after, ?_⟩ ⟨rest_after, after, gone⟩
      · rw [none] at present
        cases present
      · rw [after, gone]
        exact Recoverable.back
    refine guarantees_append (M := fun t => F t ∧ old.get t = had) ?_ fun t ready => moved t ready.1 ready.2
    refine guarantees_when (fun _ => ?_) fun _ => ⟨⟨rest, recoverable⟩, rest, is_old⟩
    exact removes _ _ _ s ⟨rest, recoverable⟩ (fun v => ⟨of_live v s rest, from_copy v⟩)
      ⟨of_live none s rest, by rw [apart.old_live, is_old]⟩
  · rename_i uncopied
    rw [Slot.exists, Bool.not_eq_true, Option.isSome_eq_false_iff, Option.isNone_iff_eq_none] at uncopied
    refine guarantees_when (fun removed => ?_) fun kept => ⟨⟨rest, recoverable⟩, rest, ?_, uncopied⟩
    · simp only [Slot.exists, Bool.and_eq_true, Bool.not_eq_true', Option.isSome_eq_false_iff, Option.isNone_iff_eq_none] at removed
      obtain ⟨⟨had_none, staged_none⟩, _⟩ := removed
      have left : ∀ v, Recoverable had (live.get (live.set v s)) (old.get (live.set v s)) (staged.get (live.set v s)) := by
        intro v
        refine ⟨fun present => ?_, fun _ => ⟨?_, Or.inr ?_⟩⟩
        · rw [had_none] at present
          cases present
        · rw [apart.old_live, uncopied]
        · rw [apart.staged_live, staged_none]
      exact removes _ _ _ s ⟨rest, recoverable⟩ (fun v => ⟨of_live v s rest, left v⟩)
        ⟨of_live none s rest, by rw [apart.live_live, had_none], by rw [apart.old_live, uncopied]⟩
    · cases given : had with
      | some a =>
        rcases recoverable.kept (by rw [given]; rfl) with ⟨is, _⟩ | is
        · rw [is, given]
        · rw [uncopied, given] at is
          cases is
      | none =>
        simp only [given, Option.isSome_none, Bool.not_false, Bool.true_and, Slot.exists, Bool.and_eq_false_iff,
          Bool.not_eq_false'] at kept
        rcases (recoverable.absent given).2 with none | none
        · exact none
        · rw [none] at kept
          rcases kept with staged | absent
          · cases staged
          · rw [Option.isSome_eq_false_iff, Option.isNone_iff_eq_none] at absent
            exact absent

/-! ### A prepared restore -/

variable (check : Check Db File)

/-- A database passes validation with its evidence. -/
def Sound (database : Option Db) (evidence : Option (List File)) : Prop := ∀ db, database = some db → check db (evidence.getD []) = none

variable {check} {db : Option Db} {files : Option (List File)}

variable (db files) in
def document (state : MarkerState) : Marker := ⟨state, db.isSome, files.isSome⟩

/-- The old database and evidence can be put back. -/
structure Prepared (db : Option Db) (files : Option (List File)) (s : Store Db File) : Prop where
  marker : s.marker = some (document db files .prepared)
  database : Recoverable db s.database s.old_database (staged_database.get s)
  evidence : Recoverable files s.evidence s.old_evidence (staged_evidence.get s)

/-- The old database and evidence are in place. -/
structure Restored (db : Option Db) (files : Option (List File)) (s : Store Db File) : Prop where
  database : s.database = db
  evidence : s.evidence = files
  old_database : s.old_database = none
  old_evidence : s.old_evidence = none

theorem Restored.prepared {s : Store Db File} (restored : Restored db files s) (marker : s.marker = some (document db files .prepared)) :
    Prepared db files s where
  marker := marker
  database := by
    rw [restored.database, restored.old_database]
    exact Recoverable.back
  evidence := by
    rw [restored.evidence, restored.old_evidence]
    exact Recoverable.back

theorem Restored.settled {s : Store Db File} (restored : Restored db files s) (staging : s.staging = none) (marker : s.marker = none) :
    s = settled db files := by
  obtain ⟨rfl, rfl, old_database, old_evidence⟩ := restored
  cases s
  cases old_database
  cases old_evidence
  cases staging
  cases marker
  rfl

variable (check) in
/-- Validation of the database and the evidence that are in place. -/
theorem validate_guarantees {I : Store Db File → Prop} {require : Bool} {s : Store Db File} {d : Db} (here : I s)
    (database : s.database = some d) (evidence : require = true → s.evidence.isSome = true) :
    Guarantees I (fun t => t = s ∧ check d (s.evidence.getD []) = none) (fun _ t => t = s ∧ check d (s.evidence.getD []) ≠ none)
      (validate_live_data check require) s := by
  apply guarantees_look
  have present : ¬(require = true ∧ s.evidence = none) := by
    rintro ⟨required, none⟩
    have is := evidence required
    rw [none] at is
    cases is
  simp only [database, present, if_false]
  split
  · rename_i message found
    exact guarantees_raises here ⟨rfl, by rw [found]; exact Option.some_ne_none _⟩
  · rename_i nothing
    exact guarantees_done here ⟨rfl, nothing⟩

variable (check) in
/-- The rollback of a prepared restore puts the old data back, and raises only
    when they do not pass validation. -/
theorem rollback_guarantees {s : Store Db File} (prepared : Prepared db files s) :
    Guarantees (Prepared db files)
      (fun t => t.marker = some (document db files .prepared) ∧ Restored db files t ∧ Sound check db files)
      (fun _ t => t.marker = some (document db files .prepared) ∧ Restored db files t ∧ ¬Sound check db files)
      (rollback check (document db files .prepared)) s := by
  let F := fun t : Store Db File => t.marker = some (document db files .prepared) ∧
    Recoverable db t.database t.old_database (staged_database.get t)
  let G := fun t : Store Db File => t.marker = some (document db files .prepared) ∧ t.evidence = files ∧ t.old_evidence = none
  have evidence := roll_back_guarantees evidence_apart (rmtree_removes evidence part_of_tree) (F := F) (fun _ _ rest => rest)
    (fun _ _ rest => rest) (R := fun _ t => t.marker = some (document db files .prepared) ∧ Restored db files t ∧ ¬Sound check db files)
    ⟨prepared.marker, prepared.database⟩ prepared.evidence
  refine guarantees_append (M := fun t => t.marker = some (document db files .prepared) ∧ Restored db files t)
    (guarantees_append (evidence.weaken (fun t kept => ⟨kept.1.1, kept.1.2, kept.2⟩) (fun _ ends => ends) fun _ _ fails => fails)
      fun t ready => ?_) fun t ready => ?_
  · have database := roll_back_guarantees database_apart (unlink_removes database) (F := G) (fun _ _ rest => rest) (fun _ _ rest => rest)
      (R := fun _ t => t.marker = some (document db files .prepared) ∧ Restored db files t ∧ ¬Sound check db files)
      ⟨ready.1.1, ready.2.1, ready.2.2⟩ ready.1.2
    refine database.weaken (fun t kept => ⟨kept.1.1, kept.2, ?_⟩) (fun t ends => ⟨ends.1.1, ends.2.1, ends.1.2.1, ends.2.2, ends.1.2.2⟩)
      fun _ _ fails => fails
    rw [kept.1.2.1, kept.1.2.2]
    exact Recoverable.back
  · obtain ⟨marker, restored⟩ := ready
    have here := restored.prepared marker
    cases given : db with
    | none =>
      subst given
      exact guarantees_done here ⟨marker, restored, fun d is => by cases is⟩
    | some d =>
      subst given
      have required : files.isSome = true → t.evidence.isSome = true := by
        intro present
        rw [restored.evidence]
        exact present
      have validated := validate_guarantees check here restored.database required
      refine validated.weaken (fun _ kept => kept) ?_ ?_
      · rintro _ ⟨rfl, passes⟩
        rw [restored.evidence] at passes
        exact ⟨marker, restored, fun other is => Option.some.inj is ▸ passes⟩
      · rintro _ _ ⟨rfl, fails⟩
        rw [restored.evidence] at fails
        exact ⟨marker, restored, fun sound => fails (sound d rfl)⟩

/-! ### Recovery -/

/-- The new database and evidence are in place, and are marked committed. -/
structure Committed (db : Option Db) (files : Option (List File)) (d : Db) (new : List File) (s : Store Db File) : Prop where
  marker : s.marker = some (document db files .committed)
  database : s.database = some d
  evidence : s.evidence = some new

variable (db files) in
/-- What recovery ends with. -/
def recovered (d : Db) (new : List File) : MarkerState → Store Db File
  | .prepared => settled db files
  | .committed => settled (some d) (some new)

variable (db files) in
/-- A restore that was stopped, by the state of its marker, or is recovered. -/
def Interrupted (d : Db) (new : List File) (state : MarkerState) (s : Store Db File) : Prop :=
  s = recovered db files d new state ∨ match state with
    | .prepared => Prepared db files s
    | .committed => Committed db files d new s

def Confirms (state : MarkerState) (confirm_rollback confirm_finalize : Bool) : Prop :=
  (state = .prepared → confirm_rollback = true) ∧ (state = .committed → confirm_finalize = true)

/-- The last steps, when everything else is in place. -/
theorem finish_guarantees {I : Store Db File → Prop} {R : Text → Store Db File → Prop} {t : Store Db File} (restored : Restored db files t)
    (here : I t) (stays : ∀ v, I (staging.set v t)) (settles : I (settled db files)) :
    Guarantees I (fun u => u = settled db files) R finish t := by
  refine guarantees_append (M := fun u => I u ∧ Restored db files u ∧ u.staging = none) ?_ ?_
  · refine guarantees_when (fun _ => ?_) fun absent => ⟨here, here, restored, ?_⟩
    · exact rmtree_removes staging part_of_staging _ _ _ t here stays
        ⟨stays none, ⟨restored.database, restored.evidence, restored.old_database, restored.old_evidence⟩, rfl⟩
    · rw [Slot.exists, Option.isSome_eq_false_iff, Option.isNone_iff_eq_none] at absent
      exact absent
  · rintro u ⟨here, restored, cleared⟩
    have last : marker.set none u = settled db files :=
      Restored.settled ⟨restored.database, restored.evidence, restored.old_database, restored.old_evidence⟩ cleared rfl
    exact guarantees_atomically here (last ▸ settles) last

/-- Deleting the rollback copies of a committed restore. -/
theorem discard_guarantees {d : Db} {new : List File} {R : Text → Store Db File → Prop} {s : Store Db File}
    (committed : Committed db files d new s) :
    Guarantees (Committed db files d new) (fun t => Committed db files d new t ∧ Restored (some d) (some new) t) R discard_copies
      s := by
  refine guarantees_append (M := fun t => Committed db files d new t ∧ t.old_database = none) ?_ ?_
  · refine guarantees_when (fun _ => ?_) fun absent => ⟨committed, committed, ?_⟩
    · have kept : ∀ v, Committed db files d new (old_database.set v s) := fun _ =>
        ⟨committed.marker, committed.database, committed.evidence⟩
      exact unlink_removes old_database _ _ _ s committed kept ⟨kept none, rfl⟩
    · rw [Slot.exists, Option.isSome_eq_false_iff, Option.isNone_iff_eq_none] at absent
      exact absent
  · rintro t ⟨committed, gone⟩
    refine guarantees_when (fun _ => ?_) fun absent => ⟨committed, committed, committed.database, committed.evidence, gone, ?_⟩
    · have kept : ∀ v, Committed db files d new (old_evidence.set v t) := fun _ =>
        ⟨committed.marker, committed.database, committed.evidence⟩
      exact rmtree_removes old_evidence part_of_tree _ _ _ t committed kept
        ⟨kept none, committed.database, committed.evidence, gone, rfl⟩
    · rw [Slot.exists, Option.isSome_eq_false_iff, Option.isNone_iff_eq_none] at absent
      exact absent

variable {d : Db} {new : List File}

theorem committed_finish {R : Text → Store Db File → Prop} {t : Store Db File} (committed : Committed db files d new t)
    (restored : Restored (some d) (some new) t) :
    Guarantees (Interrupted db files d new .committed) (fun u => u = settled (some d) (some new)) R finish t :=
  finish_guarantees restored (Or.inr committed) (fun _ => Or.inr ⟨committed.marker, committed.database, committed.evidence⟩) (Or.inl rfl)

/-- Recovery keeps an interrupted restore recoverable, and ends it when it is
    confirmed. -/
theorem recover_guarantees (old_data : files.isSome = true → db.isSome = true) (old_sound : Sound check db files)
    (new_sound : check d new = none) {state : MarkerState} {s : Store Db File} (interrupted : Interrupted db files d new state s)
    (confirm_rollback confirm_finalize : Bool) :
    Guarantees (Interrupted db files d new state) (fun t => t = recovered db files d new state)
      (fun _ _ => ¬Confirms state confirm_rollback confirm_finalize) (recover_restore_locked check confirm_rollback confirm_finalize) s := by
  apply guarantees_look
  have described : ((document db files state).had_evidence && !(document db files state).had_database) = false := by
    rw [Bool.and_eq_false_iff, Bool.not_eq_false']
    show files.isSome = false ∨ db.isSome = true
    by_cases had : files.isSome = true
    · exact Or.inr (old_data had)
    · exact Or.inl (Bool.not_eq_true _ ▸ had)
  rcases interrupted with rfl | case
  · have unmarked : (recovered db files d new state).marker = none := by cases state <;> rfl
    simp only [unmarked]
    exact guarantees_done (Or.inl rfl) rfl
  · have marked : s.marker = some (document db files state) := by
      cases state with
      | prepared => exact case.marker
      | committed => exact case.marker
    simp only [marked, described, Bool.false_eq_true, if_false]
    split
    · rename_i unconfirmed
      refine guarantees_raises (Or.inr case) fun confirms => ?_
      rw [confirms.1 unconfirmed.1] at unconfirmed
      cases unconfirmed.2
    split
    · rename_i unconfirmed
      refine guarantees_raises (Or.inr case) fun confirms => ?_
      rw [confirms.2 unconfirmed.1] at unconfirmed
      cases unconfirmed.2
    cases state with
    | prepared =>
      have back := (rollback_guarantees check case).weaken (J := Interrupted db files d new .prepared)
        (V := fun _ _ => ¬Confirms .prepared confirm_rollback confirm_finalize) (fun _ kept => Or.inr kept) (fun _ ends => ends)
        fun _ _ fails => absurd old_sound fails.2.2
      refine guarantees_append back fun t ready => ?_
      obtain ⟨marker, restored, _⟩ := ready
      refine finish_guarantees restored (Or.inr (restored.prepared marker)) (fun _ => Or.inr ?_) (Or.inl rfl)
      exact Restored.prepared ⟨restored.database, restored.evidence, restored.old_database, restored.old_evidence⟩ marker
    | committed =>
      have present : true = true → s.evidence.isSome = true := by
        intro _
        rw [case.evidence]
        rfl
      have validated := validate_guarantees check (I := Committed db files d new) case case.database present
      rw [case.evidence] at validated
      refine guarantees_append (M := fun t => Committed db files d new t ∧ Restored (some d) (some new) t) ?_ fun t ready =>
        committed_finish ready.1 ready.2
      refine guarantees_append (M := Committed db files d new) ?_ fun t here =>
        (discard_guarantees here).weaken (fun _ kept => Or.inr kept) (fun _ ends => ends) fun _ _ fails => fails
      refine validated.weaken (fun _ kept => Or.inr kept) ?_ fun _ _ fails => absurd new_sound fails.2
      rintro _ ⟨rfl, _⟩
      exact case

/-! ### Restore -/

/-- The old data are in place, and a marker of a prepared restore may be there. -/
def Preparing (db : Option Db) (files : Option (List File)) (s : Store Db File) : Prop :=
  Restored db files s ∧ (s.marker = none ∨ s.marker = some (document db files .prepared))

theorem prepare_guarantees {R : Text → Store Db File → Prop} :
    Guarantees (Preparing db files) (fun t => Restored db files t ∧ t.marker = some (document db files .prepared)) R
      (prepare (document db files .prepared)) (settled db files) := by
  have before : Preparing db files (settled db files) := ⟨⟨rfl, rfl, rfl, rfl⟩, Or.inl rfl⟩
  have made : Preparing db files (staging.set (some {}) (settled db files)) := ⟨⟨rfl, rfl, rfl, rfl⟩, Or.inl rfl⟩
  refine guarantees_append (M := fun t => t = staging.set (some {}) (settled db files)) (guarantees_atomically before made rfl) ?_
  rintro _ rfl
  exact guarantees_atomically made ⟨⟨rfl, rfl, rfl, rfl⟩, Or.inr rfl⟩ ⟨⟨rfl, rfl, rfl, rfl⟩, rfl⟩

/-- The old data are moved away and the staged data are not yet in place. -/
structure MovedAway (db : Option Db) (files : Option (List File)) (d : Db) (new : List File) (s : Store Db File) : Prop where
  marker : s.marker = some (document db files .prepared)
  database : s.database = none ∧ s.old_database = db
  evidence : s.evidence = none ∧ s.old_evidence = files
  staged : s.staging = some ⟨some d, some new⟩

/-- A path that was moved away, whatever is in its place and unless it is staged. -/
theorem Recoverable.moved {α : Type} {had live staged : Option α} (placed : live = none ∨ staged = none) :
    Recoverable had live had staged where
  kept := fun _ => Or.inr rfl
  absent := fun none => ⟨none, placed⟩

/-- Moving the old data away. -/
theorem move_guarantees {R : Text → Store Db File → Prop} {s : Store Db File} (restored : Restored db files s)
    (marked : s.marker = some (document db files .prepared)) (staged : s.staging = some ⟨some d, some new⟩) :
    Guarantees (Prepared db files) (MovedAway db files d new) R move_away s := by
  have here := restored.prepared marked
  refine guarantees_append (M := fun t => t.marker = some (document db files .prepared) ∧ (t.database = none ∧ t.old_database = db) ∧
    (t.evidence = files ∧ t.old_evidence = none) ∧ t.staging = some ⟨some d, some new⟩) ?_ ?_
  · refine guarantees_when (fun _ => ?_) fun absent => ⟨here, marked, ⟨?_, ?_⟩, ⟨restored.evidence, restored.old_evidence⟩, staged⟩
    · refine guarantees_atomically here ⟨marked, ?_, here.evidence⟩
        ⟨marked, ⟨rfl, restored.database⟩, ⟨restored.evidence, restored.old_evidence⟩, staged⟩
      show Recoverable db none s.database _
      rw [restored.database]
      exact Recoverable.moved (Or.inl rfl)
    · rw [Slot.exists, Option.isSome_eq_false_iff, Option.isNone_iff_eq_none] at absent
      exact absent
    · rw [Slot.exists, Option.isSome_eq_false_iff, Option.isNone_iff_eq_none] at absent
      rw [restored.old_database, ← restored.database]
      exact absent.symm
  · rintro t ⟨marked, ⟨gone, copied⟩, ⟨in_place, uncopied⟩, staged⟩
    have databases : Recoverable db t.database t.old_database (staged_database.get t) := by
      rw [gone, copied]
      exact Recoverable.moved (Or.inl rfl)
    have here : Prepared db files t := by
      refine ⟨marked, databases, ?_⟩
      rw [in_place, uncopied]
      exact Recoverable.back
    refine guarantees_when (fun _ => ?_) fun absent => ⟨here, marked, ⟨gone, copied⟩, ⟨?_, ?_⟩, staged⟩
    · refine guarantees_atomically here ⟨marked, databases, ?_⟩ ⟨marked, ⟨gone, copied⟩, ⟨rfl, in_place⟩, staged⟩
      show Recoverable files none t.evidence _
      rw [in_place]
      exact Recoverable.moved (Or.inl rfl)
    · rw [Slot.exists, Option.isSome_eq_false_iff, Option.isNone_iff_eq_none] at absent
      exact absent
    · rw [Slot.exists, Option.isSome_eq_false_iff, Option.isNone_iff_eq_none] at absent
      rw [uncopied, ← in_place]
      exact absent.symm

/-- The staged database is in place, and the staged evidence is not. -/
structure DatabasePlaced (db : Option Db) (files : Option (List File)) (d : Db) (new : List File) (s : Store Db File) : Prop where
  marker : s.marker = some (document db files .prepared)
  database : s.database = some d ∧ s.old_database = db
  evidence : s.evidence = none ∧ s.old_evidence = files
  staged : s.staging = some ⟨none, some new⟩

theorem MovedAway.prepared {s : Store Db File} (moved : MovedAway db files d new s) : Prepared db files s := by
  refine ⟨moved.marker, ?_, ?_⟩
  · rw [moved.database.1, moved.database.2]
    exact Recoverable.moved (Or.inl rfl)
  · rw [moved.evidence.1, moved.evidence.2]
    exact Recoverable.moved (Or.inl rfl)

theorem DatabasePlaced.prepared {s : Store Db File} (placed : DatabasePlaced db files d new s) : Prepared db files s := by
  refine ⟨placed.marker, ?_, ?_⟩
  · rw [placed.database.2]
    refine Recoverable.moved (Or.inr ?_)
    show s.staging.bind Staging.database = none
    rw [placed.staged]
    rfl
  · rw [placed.evidence.1, placed.evidence.2]
    exact Recoverable.moved (Or.inl rfl)

/-- Putting the staged data in place. -/
theorem place_guarantees {R : Text → Store Db File → Prop} {s : Store Db File} (moved : MovedAway db files d new s) :
    Guarantees (Prepared db files) (fun t => Prepared db files t ∧ t.database = some d ∧ t.evidence = some new) R put_in_place s := by
  refine guarantees_append (M := DatabasePlaced db files d new) ?_ ?_
  · have ends : DatabasePlaced db files d new (staged_database.set none (database.set (staged_database.get s) s)) := by
      refine ⟨moved.marker, ⟨?_, moved.database.2⟩, moved.evidence, ?_⟩
      · show s.staging.bind Staging.database = _
        rw [moved.staged]
        rfl
      · show s.staging.map _ = _
        rw [moved.staged]
        rfl
    exact guarantees_atomically moved.prepared ends.prepared ends
  · intro t placed
    have staged : staged_evidence.get t = some new := by
      show t.staging.bind Staging.evidence = _
      rw [placed.staged]
      rfl
    have ends : Prepared db files (staged_evidence.set none (evidence.set (staged_evidence.get t) t)) := by
      refine ⟨placed.marker, ?_, ?_⟩
      · show Recoverable db t.database t.old_database ((t.staging.map _).bind Staging.database)
        rw [placed.database.2, placed.staged]
        exact Recoverable.moved (Or.inr rfl)
      · show Recoverable files _ t.old_evidence ((t.staging.map _).bind Staging.evidence)
        rw [placed.evidence.2, placed.staged]
        exact Recoverable.moved (Or.inr rfl)
    exact guarantees_atomically placed.prepared ends ⟨ends, placed.database.1, staged⟩

variable (check) in
/-- From its marker to the committed marker a restore keeps the old data
    recoverable, and commits data that pass validation. -/
theorem install_guarantees {archive : Archive Db File} {s : Store Db File} (restored : Restored db files s)
    (marked : s.marker = some (document db files .prepared)) :
    Guarantees (fun t => Prepared db files t ∨ ∃ d new, archive = .ok (d, new) ∧ check d new = none ∧ Committed db files d new t)
      (fun t => ∃ d new, archive = .ok (d, new) ∧ check d new = none ∧ Committed db files d new t)
      (fun _ t => Prepared db files t) (install check archive (document db files .prepared)) s := by
  have here := restored.prepared marked
  have kept : ∀ v, Restored db files (staging.set v s) := fun _ =>
    ⟨restored.database, restored.evidence, restored.old_database, restored.old_evidence⟩
  have partly : ∀ t, (∃ staged, t = { s with staging := some staged }) → Prepared db files t := by
    rintro _ ⟨staged, rfl⟩
    exact (kept (some staged)).prepared marked
  cases archive with
  | error failure =>
    exact guarantees_append (M := fun _ => False) (guarantees_operation (Or.inl here) (fun t within => Or.inl (partly t within))
      (guarantees_raises (Or.inl ((kept _).prepared marked)) ((kept _).prepared marked))) fun _ never => never.elim
  | ok extracted =>
    obtain ⟨d, new⟩ := extracted
    refine guarantees_append (M := fun t => t = staging.set (some ⟨some d, some new⟩) s) (guarantees_operation (Or.inl here)
      (fun t within => Or.inl (partly t within)) (guarantees_done (Or.inl ((kept _).prepared marked)) rfl)) ?_
    rintro _ rfl
    have placed : Guarantees (Prepared db files) (fun t => Prepared db files t ∧ t.database = some d ∧ t.evidence = some new)
        (fun _ t => Prepared db files t) (move_away ++ put_in_place) (staging.set (some ⟨some d, some new⟩) s) :=
      guarantees_append (move_guarantees (kept _) marked rfl) fun _ moved => place_guarantees moved
    have validated := guarantees_append (q := validate_live_data check true) placed (I := Prepared db files)
      (Q := fun t => check d new = none ∧ Prepared db files t ∧ t.database = some d ∧ t.evidence = some new) fun t ready => by
        have present : true = true → t.evidence.isSome = true := by
          intro _
          rw [ready.2.2]
          rfl
        have validated := validate_guarantees check (I := Prepared db files) ready.1 ready.2.1 present
        rw [ready.2.2] at validated
        refine validated.weaken (fun _ kept => kept) ?_ ?_
        · rintro _ ⟨rfl, passes⟩
          exact ⟨passes, ready⟩
        · rintro _ _ ⟨rfl, _⟩
          exact ready.1
    refine guarantees_append (validated.weaken (fun _ kept => Or.inl kept) (fun _ ends => ends) fun _ _ fails => fails) ?_
    rintro t ⟨passes, prepared, database, evidence⟩
    have ends : ∃ d' new', (Except.ok (d, new) : Archive Db File) = .ok (d', new') ∧ check d' new' = none ∧
        Committed db files d' new' (Restore.marker.set (some (document db files .committed)) t) :=
      ⟨d, new, rfl, passes, rfl, database, evidence⟩
    exact guarantees_atomically (Or.inl prepared) (Or.inr ends) ends

/-! ### Wherever a restore is stopped -/

/-- The data that are restored. -/
structure Restores (check : Check Db File) (db : Option Db) (files : Option (List File)) (d : Db) (new : List File) : Prop where
  old_data : files.isSome = true → db.isSome = true
  old_sound : Sound check db files
  new_sound : check d new = none

/-- A state whose marker says what recovery ends with. -/
def Recorded (db : Option Db) (files : Option (List File)) (d : Db) (new : List File) (s : Store Db File) : Prop :=
  ∀ document, s.marker = some document → Interrupted db files d new document.state s

theorem Preparing.recorded {s : Store Db File} (preparing : Preparing db files s) : Recorded db files d new s := by
  intro document marked
  rcases preparing.2 with unmarked | prepared
  · rw [unmarked] at marked
    cases marked
  · rw [prepared] at marked
    cases marked
    exact Or.inr (preparing.1.prepared prepared)

theorem Prepared.recorded {s : Store Db File} (prepared : Prepared db files s) : Recorded db files d new s := by
  intro document marked
  rw [prepared.marker] at marked
  cases marked
  exact Or.inr prepared

theorem Committed.recorded {s : Store Db File} (committed : Committed db files d new s) : Recorded db files d new s := by
  intro document marked
  rw [committed.marker] at marked
  cases marked
  exact Or.inr committed

theorem recovered_recorded (state : MarkerState) : Recorded db files d new (recovered db files d new state) := by
  intro document marked
  cases state with
  | prepared => cases marked
  | committed => cases marked

theorem Interrupted.recorded {state : MarkerState} {s : Store Db File} (interrupted : Interrupted db files d new state s) :
    Recorded db files d new s := by
  rcases interrupted with rfl | case
  · exact recovered_recorded state
  · cases state with
    | prepared => exact Prepared.recorded case
    | committed => exact Committed.recorded case

theorem marker_document_settled : marker_document (settled db files) = document db files .prepared := rfl

/-- A restore is recorded wherever it is stopped. -/
theorem restore_recorded :
    Guarantees (Recorded db files d new) (fun t => t = settled (some d) (some new)) (fun _ _ => True)
      (restore_backup_locked check (.ok (d, new))) (settled db files) := by
  have start : Recorded db files d new (settled db files) := recovered_recorded .prepared
  apply guarantees_look
  rw [marker_document_settled]
  split
  · exact guarantees_raises start trivial
  split
  · exact guarantees_raises start trivial
  · have prepares : Guarantees (Preparing db files) _ (fun _ _ => True) _ _ := prepare_guarantees
    refine guarantees_append (M := fun t => Committed db files d new t) (guarantees_append (prepares.weaken
      (fun _ preparing => preparing.recorded) (fun _ ends => ends) fun _ _ fails => fails) fun t ready => ?_) fun t committed => ?_
    · refine (install_guarantees check ready.1 ready.2).weaken ?_ ?_ fun _ _ _ => trivial
      · rintro t (prepared | ⟨_, _, same, _, committed⟩)
        · exact prepared.recorded
        · cases same
          exact committed.recorded
      · rintro t ⟨_, _, same, _, committed⟩
        cases same
        exact committed
    · exact guarantees_append ((discard_guarantees committed).weaken (fun _ kept => kept.recorded) (fun _ ends => ends)
        fun _ _ fails => fails) fun t ready => (committed_finish ready.1 ready.2).weaken (fun _ kept => kept.recorded)
          (fun _ ends => ends) fun _ _ fails => fails

/-- Where a restore fails after its marker was written. -/
theorem failure_installing {archive : Archive Db File} {p : Store Db File} (failure : Failure check archive (settled db files) true p) :
    Prepared db files p ∨ ∃ d new, archive = .ok (d, new) ∧ check d new = none ∧ Committed db files d new p := by
  have prepares : Guarantees (Preparing db files) _ (fun _ _ => True) _ _ := prepare_guarantees
  cases failure with
  | installing prepared stopped =>
    obtain ⟨restored, marked⟩ := prepares.done _ prepared
    exact (install_guarantees check restored marked).stopped _ stopped
  | refused prepared refuses =>
    obtain ⟨restored, marked⟩ := prepares.done _ prepared
    exact Or.inl ((install_guarantees check restored marked).raised _ _ refuses)

theorem failure_preparing {archive : Archive Db File} {p : Store Db File} (failure : Failure check archive (settled db files) false p) :
    Preparing db files p := by
  have prepares : Guarantees (Preparing db files) _ (fun _ _ => True) _ _ := prepare_guarantees
  cases failure with
  | preparing stopped => exact prepares.stopped _ stopped

/-- Removing what was staged of a restore that was not recorded. -/
theorem unstage_guarantees {I : Store Db File → Prop} {R : Text → Store Db File → Prop} {p : Store Db File} (here : I p)
    (stays : ∀ v, I (staging.set v p)) : Guarantees I I R (handle_failure check false) p :=
  guarantees_when (fun _ => rmtree_removes staging part_of_staging _ _ _ p here stays (stays none)) fun _ => ⟨here, here⟩

theorem handler_recorded (restores : Restores check db files d new) {created : Bool} {p s : Store Db File}
    (failure : Failure check (.ok (d, new)) (settled db files) created p) (stopped : Stopped (handle_failure check created) p s) :
    Recorded db files d new s := by
  cases created with
  | false =>
    have preparing := failure_preparing failure
    have stays : ∀ v, Preparing db files (staging.set v p) := fun _ =>
      ⟨⟨preparing.1.database, preparing.1.evidence, preparing.1.old_database, preparing.1.old_evidence⟩, preparing.2⟩
    exact Preparing.recorded ((unstage_guarantees (R := fun _ _ => True) preparing stays).stopped _ stopped)
  | true =>
    rcases failure_installing failure with prepared | ⟨_, _, same, _, committed⟩
    · have interrupted : Interrupted db files d new .prepared p := Or.inr prepared
      have handled : Guarantees (Interrupted db files d new .prepared) (fun t => t = settled db files)
          (fun _ _ => ¬Confirms .prepared true false) (handle_failure check true) p := by
        apply guarantees_look
        rw [prepared.marker]
        exact recover_guarantees restores.old_data restores.old_sound restores.new_sound interrupted true false
      exact (handled.stopped _ stopped).recorded
    · cases same
      have handled : Guarantees (Committed db files d new) (fun _ => True) (fun _ _ => True) (handle_failure check true) p := by
        apply guarantees_look
        rw [committed.marker]
        exact guarantees_raises committed trivial
      exact (handled.stopped _ stopped).recorded

theorem recoveries_interrupted (restores : Restores check db files d new) {state : MarkerState} {s t : Store Db File}
    (interrupted : Interrupted db files d new state s) (recoveries : Relation.ReflTransGen (RecoveryStopped check) s t) :
    Interrupted db files d new state t := by
  induction recoveries with
  | refl => exact interrupted
  | tail _ stopped ih =>
    obtain ⟨confirm_rollback, confirm_finalize, stopped⟩ := stopped
    exact (recover_guarantees restores.old_data restores.old_sound restores.new_sound ih confirm_rollback confirm_finalize).stopped _
      stopped

/-- Once the marker is there, wherever the restore and then any number of
    recoveries are stopped, a recovery that is confirmed ends with the old data
    when the marker was prepared and with the new data when it was committed. -/
theorem recovery_ends (restores : Restores check db files d new) {s t : Store Db File} {document : Marker}
    (halted : Halted check (.ok (d, new)) (settled db files) s) (marked : s.marker = some document)
    (recoveries : Relation.ReflTransGen (RecoveryStopped check) s t) :
    (recover_restore_locked check (document.state = .prepared) (document.state = .committed)).run t =
      (none, recovered db files d new document.state) := by
  have recorded : Recorded db files d new s := by
    cases halted with
    | restoring stopped => exact restore_recorded.stopped _ stopped
    | handling failure stopped => exact handler_recorded restores failure stopped
  have interrupted := recoveries_interrupted restores (recorded document marked) recoveries
  have recovers := recover_guarantees restores.old_data restores.old_sound restores.new_sound interrupted
    (document.state = .prepared) (document.state = .committed)
  obtain ⟨u, ran, rfl⟩ := (recovers.weaken (fun _ kept => kept) (fun _ ends => ends) fun _ _ unconfirmed =>
    unconfirmed ⟨fun is => decide_eq_true is, fun is => decide_eq_true is⟩).ends
  exact ran

end

/-! ### A restore that is stopped while it moves -/

/-- Databases and files are numbers, and a database is sound when it is not 0. -/
def number_check : Check Nat Nat := fun d _ => if d = 0 then some "SQLite integrity check failed".toList else none

/-- The database is moved away, and the evidence is not. -/
def half_moved : Store Nat Nat where
  evidence := some [7]
  old_database := some 1
  staging := some ⟨some 2, some [8, 9]⟩
  marker := some ⟨.prepared, true, true⟩

/-- A first recovery is stopped while it deletes what was staged. -/
def half_recovered : Store Nat Nat where
  database := some 1
  evidence := some [7]
  staging := some ⟨none, some [9]⟩
  marker := some ⟨.prepared, true, true⟩

theorem recovery_ends_half_moved :
    (recover_restore_locked number_check true false).run half_recovered = (none, settled (some 1) (some [7])) := by
  have restores : Restores number_check (some 1) (some [7]) 2 [8, 9] := by
    refine ⟨fun _ => rfl, fun d is => ?_, rfl⟩
    cases is
    rfl
  have halted : Halted number_check (.ok (2, [8, 9])) (settled (some 1) (some [7])) half_moved := by
    refine .restoring (.look (.later (.later ?_)))
    exact .later (.look (.later (.look .now)))
  have recovers : RecoveryStopped number_check half_moved half_recovered := by
    have part : part_of_staging (⟨some 2, some [8, 9]⟩ : Staging Nat Nat) ⟨none, some [9]⟩ := by
      refine ⟨Or.inl rfl, fun files is => ?_⟩
      cases is
      exact ⟨_, rfl, .cons 8 (.refl [9])⟩
    have back : (rollback number_check ⟨.prepared, true, true⟩).run half_moved =
      (none, { half_moved with database := some 1, old_database := none }) := rfl
    exact ⟨true, false, .look (.after back (.look (.torn ⟨_, _, rfl, part, rfl⟩)))⟩
  exact recovery_ends restores halted rfl (.single recovers)

end RedDock.RestoreRecovery
