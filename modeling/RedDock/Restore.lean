import RedDock.Durable
import RedDock.Text

/-!
# Restoring a backup

`_restore_backup_locked` and `_recover_restore_locked` over what they move: the
live database and evidence, their rollback copies, the staging directory and the
marker.
-/
set_option autoImplicit false
namespace RedDock.Restore
open Text Durable Program

inductive MarkerState
  | prepared
  | committed
  deriving DecidableEq, Repr

/-- The marker's document. -/
structure Marker where
  state : MarkerState
  had_database : Bool
  had_evidence : Bool
  deriving DecidableEq, Repr

/-- The staging directory. -/
structure Staging (Db File : Type) where
  database : Option Db := none
  evidence : Option (List File) := none

/-- What a restore moves in the data directory. Evidence is a tree of files. -/
structure Store (Db File : Type) where
  database : Option Db := none
  evidence : Option (List File) := none
  old_database : Option Db := none
  old_evidence : Option (List File) := none
  staging : Option (Staging Db File) := none
  marker : Option Marker := none

/-- A path that may be there. -/
structure Slot (σ α : Type) where
  get : σ → Option α
  set : Option α → σ → σ

def Slot.exists {σ α : Type} (slot : Slot σ α) (s : σ) : Bool := (slot.get s).isSome

section
variable {Db File : Type}

def database : Slot (Store Db File) Db := ⟨Store.database, fun database s => { s with database }⟩
def evidence : Slot (Store Db File) (List File) := ⟨Store.evidence, fun evidence s => { s with evidence }⟩
def old_database : Slot (Store Db File) Db := ⟨Store.old_database, fun old_database s => { s with old_database }⟩
def old_evidence : Slot (Store Db File) (List File) := ⟨Store.old_evidence, fun old_evidence s => { s with old_evidence }⟩
def staging : Slot (Store Db File) (Staging Db File) := ⟨Store.staging, fun staging s => { s with staging }⟩
def marker : Slot (Store Db File) Marker := ⟨Store.marker, fun marker s => { s with marker }⟩

/-- `staging / DATABASE_MEMBER` -/
def staged_database : Slot (Store Db File) Db :=
  ⟨fun s => s.staging.bind Staging.database, fun database s => { s with staging := s.staging.map fun staged => { staged with database } }⟩

/-- `staging / "evidence"` -/
def staged_evidence : Slot (Store Db File) (List File) :=
  ⟨fun s => s.staging.bind Staging.evidence, fun evidence s => { s with staging := s.staging.map fun staged => { staged with evidence } }⟩

/-! ### Durable operations -/

section
variable {σ α : Type}

/-- An operation that is done as a whole. -/
def atomically (effect : σ → σ) : Program Text σ := operation effect (fun _ _ => False) done

/-- `_replace_durable` -/
def replace_durable (source destination : Slot σ α) : Program Text σ :=
  atomically fun s => source.set none (destination.set (source.get s) s)

/-- `_unlink_durable` -/
def unlink_durable (path : Slot σ α) : Program Text σ := atomically (path.set none)

/-- `_rmtree_durable`, which may leave a part of the tree behind. -/
def rmtree_durable (path : Slot σ α) (part : α → α → Prop) : Program Text σ :=
  operation (path.set none) (fun s t => ∃ whole left, path.get s = some whole ∧ part whole left ∧ t = path.set (some left) s) done

end

/-- Some of the files of a tree. -/
def part_of_tree (files left : List File) : Prop := left.Sublist files

def part_of_staging (whole left : Staging Db File) : Prop :=
  (left.database = none ∨ left.database = whole.database) ∧
    ∀ files, left.evidence = some files → ∃ all, whole.evidence = some all ∧ part_of_tree all files

/-- `_write_restore_marker` -/
def write_restore_marker (document : Marker) : Program Text (Store Db File) := atomically (marker.set (some document))

/-! ### The live data -/

/-- What `_validate_live_data` finds wrong with a database and its evidence. -/
abbrev Check (Db File : Type) := Db → List File → Option Text

variable (check : Check Db File)

/-- `_validate_live_data` -/
def validate_live_data (require_evidence : Bool) : Program Text (Store Db File) :=
  look fun s => match s.database with
    | none => raises "SQLite database must be a regular file".toList
    | some database =>
      if require_evidence ∧ s.evidence = none then raises "Restored evidence directory must be present".toList
      else match check database (s.evidence.getD []) with
        | some message => raises message
        | none => done

/-! ### Recovery -/

/-- Deleting the rollback copies, as recovery and restore do. -/
def discard_copies : Program Text (Store Db File) :=
  when old_database.exists (unlink_durable old_database) ++ when old_evidence.exists (rmtree_durable old_evidence part_of_tree)

/-- The last steps of recovery and restore. -/
def finish : Program Text (Store Db File) :=
  when staging.exists (rmtree_durable staging part_of_staging) ++ unlink_durable marker

/-- The branch of a committed restore. -/
def finalize : Program Text (Store Db File) := validate_live_data check true ++ discard_copies

/-- What happens to one path of a prepared restore. -/
def roll_back {α : Type} (live old staged : Slot (Store Db File) α) (had : Bool) (remove : Program Text (Store Db File)) :
    Program Text (Store Db File) :=
  look fun s =>
    if old.exists s then when live.exists remove ++ replace_durable old live
    else when (fun s => !had && !staged.exists s && live.exists s) remove

/-- The branch of a prepared restore. -/
def rollback (document : Marker) : Program Text (Store Db File) :=
  roll_back evidence old_evidence staged_evidence document.had_evidence (rmtree_durable evidence part_of_tree) ++
    roll_back database old_database staged_database document.had_database (unlink_durable database) ++
      (if document.had_database then validate_live_data check document.had_evidence else done)

/-- `_recover_restore_locked` -/
def recover_restore_locked (confirm_rollback confirm_finalize : Bool) : Program Text (Store Db File) :=
  look fun s => match s.marker with
    | none => done
    | some document =>
      if document.had_evidence && !document.had_database then raises "Restore marker describes evidence without a database".toList
      else if document.state = .prepared ∧ confirm_rollback = false then
        raises ("Interrupted restore is prepared; inspect the data, then rerun with " ++
          "--confirm-rollback to restore the previous database and evidence").toList
      else if document.state = .committed ∧ confirm_finalize = false then
        raises ("Interrupted restore is committed; inspect the restored data, then rerun with " ++
          "--confirm-finalize to keep it and delete the previous rollback copies").toList
      else (match document.state with
        | .committed => finalize check
        | .prepared => rollback check document) ++ finish

/-! ### Restore -/

/-- What extracting an archive comes to: its database and evidence, or an error
    and what was staged until then. -/
abbrev Archive (Db File : Type) := Except (Text × Staging Db File) (Db × List File)

/-- `_extract_verified` -/
def extract_verified (archive : Archive Db File) : Program Text (Store Db File) :=
  let partly := fun s t : Store Db File => ∃ staged, t = { s with staging := some staged }
  match archive with
  | .ok (database, files) => operation (staging.set (some ⟨some database, some files⟩)) partly done
  | .error (message, staged) => operation (staging.set (some staged)) partly (raises message)

/-- The document of the marker of a restore. -/
def marker_document (s : Store Db File) : Marker := ⟨.prepared, s.database.isSome, s.evidence.isSome⟩

/-- The steps until the marker is there. -/
def prepare (document : Marker) : Program Text (Store Db File) := atomically (staging.set (some {})) ++ write_restore_marker document

/-- Renaming the old database and evidence to their rollback copies. -/
def move_away : Program Text (Store Db File) :=
  when database.exists (replace_durable database old_database) ++ when evidence.exists (replace_durable evidence old_evidence)

/-- Renaming the staged database and evidence to the live ones. -/
def put_in_place : Program Text (Store Db File) :=
  replace_durable staged_database database ++ replace_durable staged_evidence evidence

/-- The steps from the marker to the committed marker. -/
def install (archive : Archive Db File) (document : Marker) : Program Text (Store Db File) :=
  extract_verified archive ++ (move_away ++ put_in_place ++ validate_live_data check true ++
    write_restore_marker { document with state := .committed })

/-- The steps after the committed marker. -/
def cleanup : Program Text (Store Db File) := discard_copies ++ finish

/-- `_restore_backup_locked`, where no operation fails. -/
def restore_backup_locked (archive : Archive Db File) : Program Text (Store Db File) :=
  look fun s =>
    if s.marker.isSome then raises "An incomplete restore is recorded; run recover before restoring".toList
    else if s.evidence.isSome && !s.database.isSome then
      raises "Restore target cannot contain evidence without its SQLite database".toList
    else prepare (marker_document s) ++ install check archive (marker_document s) ++ cleanup

/-- What is done when a restore fails before it is committed: `marker_created`
    tells whether the marker was written. -/
def handle_failure (marker_created : Bool) : Program Text (Store Db File) :=
  if marker_created then
    look fun s => match s.marker with
      | some ⟨.committed, _, _⟩ => raises ("Restore reached committed state, but commit durability is uncertain; " ++
        "keep RedDock stopped and run recover to inspect the required action").toList
      | some _ => recover_restore_locked check true false
      | none => raises "Restore marker is not a regular, non-link file".toList
  else when staging.exists (rmtree_durable staging part_of_staging)

/-! ### Restores that are stopped -/

section
variable (archive : Archive Db File) (start : Store Db File)

/-- Where a restore from `start` fails, and whether its marker was written. An
    operation fails in a state where the process may also be stopped. -/
inductive Failure : Bool → Store Db File → Prop
  | preparing {p : Store Db File} : Stopped (prepare (marker_document start)) start p → Failure false p
  | installing {q p : Store Db File} : (prepare (marker_document start)).run start = (none, q) →
      Stopped (install check archive (marker_document start)) q p → Failure true p
  | refused {q p : Store Db File} {message : Text} : (prepare (marker_document start)).run start = (none, q) →
      (install check archive (marker_document start)).run q = (some message, p) → Failure true p

/-- Where the process may be stopped within `_restore_backup_locked`. -/
inductive Halted : Store Db File → Prop
  | restoring {s : Store Db File} : Stopped (restore_backup_locked check archive) start s → Halted s
  | handling {marker_created : Bool} {p s : Store Db File} : Failure check archive start marker_created p →
      Stopped (handle_failure check marker_created) p s → Halted s

end

/-- One recovery that is stopped. -/
def RecoveryStopped (s t : Store Db File) : Prop :=
  ∃ confirm_rollback confirm_finalize, Stopped (recover_restore_locked check confirm_rollback confirm_finalize) s t

end
end RedDock.Restore
