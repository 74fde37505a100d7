import RedDock.BackupCreation
import RedDock.RestoredBackups

/-!
# From a backup to the live data

What a restore makes of an archive that was verified, and of an archive that was
created from the live data.
-/
set_option autoImplicit false
namespace RedDock.BackupRoundTrip
open Text Bytes Fallible Trees Members Checks ManifestChecks LiveData AcceptedManifests ExtractedBackups BackupManifests RestoredBackups
open BackupCreation CreatedBackups
open HostileArchives hiding MAX_ARCHIVE_BYTES
open DatabaseEvidence (MAX_MANIFEST_BYTES)
open EvidenceFiles (Portable MAX_EVIDENCE_DEPTH MAX_EVIDENCE_DIRECTORIES)
open RestoreRecovery (settled)

/-! ### Accepted archives -/

/-- The backup of one numbered file. -/
def one_file : Bytes := archive_bytes (sample_library (numbered 1)) sample_writer sample_database (numbered 1) REVISION

theorem one_file_small : backup_manifest_size CREATED_AT REVISION sample_database (numbered 1) ≤ MAX_MANIFEST_BYTES := by
  decide +kernel

theorem one_file_verified : Returns (verify_backup (sample_library (numbered 1)) one_file) :=
  (verify_backup_archive (numbered_documented (by decide)) (numbered_closed 1) (numbered_evidence 1).components (numbered_sound (by decide))).mpr
    one_file_small

section
variable {library : Library} {writer : Writer} {database : Bytes} {tree : Tree Text Bytes} {schema_revision : Text}

theorem evidence_records (library : Library) (database : Bytes) (tree : Tree Text Bytes) :
    (records library database tree).filter (fun record => decide (record.path ≠ DATABASE_MEMBER)) = file_records library tree := by
  rw [records, backup_files, List.map_cons, List.filter_cons_of_neg (by simp [record]), List.map_map]
  refine List.filter_eq_self.mpr fun other member => ?_
  obtain ⟨file, _, rfl⟩ := List.mem_map.mp member
  exact decide_eq_true (evidence_member_ne file.1)

theorem tail_of_file (closed : Tree.Closed tree) (components : ∀ entry ∈ tree, ∀ part ∈ entry.1, Component part)
    {file : Path Text × Bytes} (member : file ∈ sorted_files tree) : (parts (Members.evidence_member file.1)).tail = file.1 := by
  have inside := mem_sorted_files.mp member
  rw [parts_evidence_member (closed.named _ inside) (components _ inside), List.tail_cons]

theorem created_paths (closed : Tree.Closed tree) (components : ∀ entry ∈ tree, ∀ part ∈ entry.1, Component part) :
    evidence_paths (records library database tree) = (sorted_files tree).map Prod.fst := by
  rw [evidence_paths, evidence_records, file_records, List.map_map]
  exact List.map_congr_left fun file member => tail_of_file closed components member

/-- A file of the tree is in nobody's way. -/
theorem created_apart (closed : Tree.Closed tree) : ∀ path ∈ (sorted_files tree).map Prod.fst, ∀ other ∈ (sorted_files tree).map Prod.fst,
    ¬Tree.Above path other := by
  rintro path member other member' above
  obtain ⟨file, inside, rfl⟩ := List.mem_map.mp member
  obtain ⟨deeper, inside', rfl⟩ := List.mem_map.mp member'
  have there := closed.above (mem_sorted_files.mp inside') above.1 above.2
  rw [closed.look (mem_sorted_files.mp inside)] at there
  cases there

theorem created_depth (closed : Tree.Closed tree) (portable : Portable library.strings.names tree) :
    ∀ path ∈ (sorted_files tree).map Prod.fst, path.length ≤ MAX_EVIDENCE_DEPTH + 1 := by
  intro path member
  obtain ⟨file, inside, rfl⟩ := List.mem_map.mp member
  by_cases deep : file.1.length ≤ 1
  · omega
  · have length : file.1.dropLast.length = file.1.length - 1 := List.length_dropLast
    have nonempty : file.1.dropLast ≠ [] := List.ne_nil_of_length_pos (by omega)
    have parent := Tree.mem_of_look nonempty (closed.parents _ (mem_sorted_files.mp inside))
    have bound := portable.depth _ (Tree.mem_directories.mpr parent)
    omega

/-- The directories above files are directories of the tree. -/
theorem created_directories (closed : Tree.Closed tree) (portable : Portable library.strings.names tree) :
    (folders ((sorted_files tree).map Prod.fst)).length + 1 ≤ MAX_EVIDENCE_DIRECTORIES := by
  have once : (folders ((sorted_files tree).map Prod.fst)).Nodup := List.nodup_dedup _
  have inside : folders ((sorted_files tree).map Prod.fst) ⊆ tree.directories := by
    intro path member
    obtain ⟨nonempty, other, listed, before, strict⟩ := mem_folders.mp member
    obtain ⟨file, there, rfl⟩ := List.mem_map.mp listed
    exact Tree.mem_directories.mpr (Tree.mem_of_look nonempty (closed.above (mem_sorted_files.mp there) before strict))
  have fewer := (List.subperm_of_subset once inside).length_le
  have bound := portable.directories
  omega

/-- A backup that was created, opened again. -/
theorem created_opened {data : DataDirectory} {file : Bytes} (is : data.database = some database)
    (documented : Documented library writer database (tree_of data) schema_revision) (sound : Sound library database (tree_of data) schema_revision)
    (created : create_backup_locked library writer data = .ok file) : ∃ archive document revision,
      Opened library file archive document revision (records library database (tree_of data)) ∧
        GivesBack archive (archived library writer database (tree_of data) schema_revision) := by
  have wrote : write_archive library writer database (data.evidence.map Evidence.tree) schema_revision = _ :=
    write_archive_sound (tree_closed data) sound
  unfold create_backup_locked at created
  simp only [is, if_neg (Int.not_lt.mpr sound.bounded), sound.checked, ok_bind, wrote] at created
  cases verified : verify_backup library (archive_bytes library writer database (tree_of data) schema_revision) with
  | error raised =>
    have failed := created
    rw [show (Option.map Evidence.tree data.evidence).getD [] = tree_of data from rfl, verified] at failed
    cases failed
  | ok document =>
    rw [show (Option.map Evidence.tree data.evidence).getD [] = tree_of data from rfl, verified] at created
    cases created
    obtain ⟨archive, revision, listed, opened⟩ := verify_backup_inv verified
    obtain ⟨given, zip_file, gives⟩ := documented.zip_file
    cases zip_file.symm.trans opened.zip_file
    have small := (verify_backup_archive documented (tree_closed data) (tree_components data) sound).mp ⟨document, verified⟩
    have read := opened.read.1
    rw [read_manifest_given documented sound gives small] at read
    cases read
    exact ⟨_, _, _, opened, gives⟩

/-- The files of the archive have the contents of the files. -/
theorem created_items {archive : Archive} (closed : Tree.Closed tree) (components : ∀ entry ∈ tree, ∀ part ∈ entry.1, Component part)
    (gives : GivesBack archive (archived library writer database tree schema_revision)) :
    items (member_content archive) (records library database tree) = sorted_files tree := by
  rw [items, evidence_records, file_records, List.map_map]
  refine (List.map_congr_left fun file member => ?_).trans (List.map_id _)
  have archived : (⟨Members.evidence_member file.1, file.2, true⟩ : DeflatedArchives.Source) ∈ archived library writer database tree schema_revision :=
    file_archived (List.mem_cons_of_mem _ (List.mem_map_of_mem member))
  have content : member_content archive (file_record library file) = file.2 := by
    rw [member_content, file_record, member_given gives archived]
  exact Prod.ext (tail_of_file closed components member) content

theorem created_sized {archive : Archive} (gives : GivesBack archive (archived library writer database tree schema_revision)) :
    ∀ record ∈ records library database tree, Sized (member_content archive) record := by
  intro listed member
  obtain ⟨file, inside, rfl⟩ := List.mem_map.mp member
  have content : member_content archive (record library file) = file.2 := by
    have read : archive.member file.1 = .ok file.2 := member_given gives (file_archived inside)
    rw [member_content, record, read]
  rw [Sized, content]
  rfl

end

end RedDock.BackupRoundTrip
