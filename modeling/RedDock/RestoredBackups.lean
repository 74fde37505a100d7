import RedDock.ExtractedBackups
import RedDock.RestoreRecovery

/-!
# Restoring an accepted archive

`_restore_backup_locked` of an archive that was verified. It ends well exactly
when the files of the archive can be placed below one directory that is within
the limits of the live data, and then the live data is what the archive lists.
-/
set_option autoImplicit false
namespace RedDock.RestoredBackups
open Text Fallible Trees Members Checks ManifestChecks EvidenceReferences LiveData AcceptedManifests ExtractedBackups BackupManifests
open HostileArchives hiding MAX_ARCHIVE_BYTES
open DatabaseEvidence (record_of check_database validate_database_evidence)
open EvidenceFiles (Portable MAX_EVIDENCE_DEPTH MAX_EVIDENCE_DIRECTORIES)
open RestoreRecovery (settled document)
open Durable (Program)

/-! ### The restore -/

/-- The message of an error, as far as it has one of its own. -/
def message_of : Raised → Text
  | .backup_error message => message
  | _ => "Restore filesystem operation failed; original data was restored".toList

/-- The staging directory. A tree without entries was not created yet. -/
def staging_of (staged : Staged) : Restore.Staging Bytes (Path Text × Node Bytes) where
  database := staged.database
  evidence := if staged.evidence.isEmpty then none else some staged.evidence

section
variable (library : Library)

def extracted (file : Bytes) : Restore.Archive Bytes (Path Text × Node Bytes) :=
  (extract_verified library file).mapError fun failure => (message_of failure.1, staging_of failure.2)

/-- What `_validate_live_data` finds wrong. -/
def live_check : Restore.Check Bytes (Path Text × Node Bytes) := fun database tree =>
  match validate_files library database (some tree) with
  | .ok _ => none
  | .error raised => some (message_of raised)

/-- `_restore_backup_locked` of the archive in a file. -/
def restore_backup (file : Bytes) : Program Text (Restore.Store Bytes (Path Text × Node Bytes)) :=
  Restore.restore_backup_locked (live_check library) (extracted library file)

end

section
variable {ε σ : Type} {p q : Program ε σ} {s : σ}

theorem run_append : (p ++ q).run s = match p.run s with
    | (none, t) => q.run t
    | (some error, t) => (some error, t) := by
  show (p.seq q).run s = _
  induction p generalizing s with
  | done => rfl
  | raises error => rfl
  | operation effect torn next ih => exact ih
  | look next ih => exact ih s

end

section
variable {Db File : Type} {check : Restore.Check Db File} {db : Option Db} {files : Option (List File)}

theorem validated {s : Restore.Store Db File} {d : Db} {new : List File} {require : Bool} (database : s.database = some d)
    (evidence : s.evidence = some new) : (Restore.validate_live_data check require).run s = (check d new, s) := by
  rw [Restore.validate_live_data, Program.run, database]
  simp only [evidence, Option.getD_some]
  cases require <;> cases check d new <;> simp [Program.run]

/-- The extracted data is in place, and was not validated yet. -/
def moved (db : Option Db) (files : Option (List File)) (d : Db) (new : List File) : Restore.Store Db File where
  database := some d
  evidence := some new
  old_database := db
  old_evidence := files
  staging := some {}
  marker := some (document db files .prepared)

/-- A restore of an archive that is extracted, by what is found in it. -/
theorem restore_extracted {d : Db} {new : List File} (whole : files.isSome = true → db.isSome = true) :
    (Restore.restore_backup_locked check (.ok (d, new))).run (settled db files) = match check d new with
      | none => (none, settled (some d) (some new))
      | some message => (some message, moved db files d new) := by
  have reached : (Restore.restore_backup_locked check (.ok (d, new))).run (settled db files) =
      (Restore.validate_live_data check true ++ Restore.write_restore_marker { document db files .prepared with state := .committed } ++
        Restore.cleanup).run (moved db files d new) := by
    cases db <;> cases files <;> first | rfl | cases whole rfl
  rw [reached, run_append, run_append, validated rfl rfl]
  cases check d new with
  | some message => rfl
  | none => cases db <;> cases files <;> rfl

/-- A restore ends well exactly when the archive is extracted and what it holds is valid. -/
theorem restore_ends {archive : Restore.Archive Db File} (whole : files.isSome = true → db.isSome = true) (t : Restore.Store Db File) :
    (Restore.restore_backup_locked check archive).run (settled db files) = (none, t) ↔
      ∃ d new, archive = .ok (d, new) ∧ check d new = none ∧ t = settled (some d) (some new) := by
  cases archive with
  | error failure =>
    obtain ⟨message, staged⟩ := failure
    have refused : ((Restore.restore_backup_locked check (.error (message, staged))).run (settled db files)).1 ≠ none := by
      cases files with
      | none => cases db <;> exact Option.some_ne_none _
      | some old => cases db <;> exact Option.some_ne_none _
    refine iff_of_false (fun ran => refused (congrArg Prod.fst ran)) ?_
    rintro ⟨_, _, same, _⟩
    cases same
  | ok pair =>
    obtain ⟨d, new⟩ := pair
    rw [restore_extracted whole]
    constructor
    · intro ran
      cases checked : check d new with
      | some message =>
        rw [checked] at ran
        cases ran
      | none =>
        rw [checked] at ran
        cases ran
        exact ⟨d, new, rfl, checked, rfl⟩
    · rintro ⟨_, _, same, checked, rfl⟩
      cases same
      rw [checked]

end

/-! ### The directories above files -/

/-- The directories above some paths. -/
def folders (paths : List (Path Text)) : List (Path Text) :=
  (paths.flatMap fun path => path.inits.filter fun above => above ≠ [] ∧ above ≠ path).dedup

theorem mem_folders {paths : List (Path Text)} {above : Path Text} : above ∈ folders paths ↔ above ≠ [] ∧ ∃ path ∈ paths, Tree.Above above path := by
  simp only [folders, List.mem_dedup, List.mem_flatMap, List.mem_filter, List.mem_inits, decide_eq_true_eq, Tree.Above]
  constructor
  · rintro ⟨path, inside, before, nonempty, other⟩
    exact ⟨nonempty, path, inside, before, other⟩
  · rintro ⟨nonempty, path, inside, before, other⟩
    exact ⟨path, inside, before, nonempty, other⟩

section
variable {items : List (Path Text × Bytes)} {tree : Tree Text Bytes}

theorem filled_folders (filled : Tree.Filled items tree) : tree.directories.Perm (folders (items.map Prod.fst)) := by
  have once : tree.directories.Nodup := (List.filter_sublist.map Prod.fst).nodup filled.closed.once
  have distinct : (folders (items.map Prod.fst)).Nodup := List.nodup_dedup _
  refine (List.perm_ext_iff_of_nodup once distinct).mpr fun path => ?_
  rw [filled.directories, mem_folders]
  simp only [List.mem_map, exists_exists_and_eq_and]

/-- The deepest directories are right above files. -/
theorem filled_depth (filled : Tree.Filled items tree) (limit : Nat) :
    (∀ path ∈ tree.directories, path.length ≤ limit) ↔ ∀ item ∈ items, item.1.length ≤ limit + 1 := by
  constructor
  · intro shallow item member
    by_cases deep : item.1.length ≤ 1
    · omega
    · have length : item.1.dropLast.length = item.1.length - 1 := List.length_dropLast
      have nonempty : item.1.dropLast ≠ [] := List.ne_nil_of_length_pos (by omega)
      have strict : item.1.dropLast ≠ item.1 := fun same => by
        rw [same] at length
        omega
      have bound := shallow _ ((filled.directories _).mpr ⟨nonempty, item, member, List.dropLast_prefix _, strict⟩)
      omega
  · intro shallow path member
    obtain ⟨_, item, inside, before, strict⟩ := (filled.directories path).mp member
    have bound := shallow item inside
    have shorter : path.length < item.1.length :=
      lt_of_le_of_ne before.length_le fun same => strict (before.eq_of_length same)
    omega

end

/-! ### What is restored -/

/-- The paths of the records below the evidence directory. -/
def evidence_paths (records : List Record) : List (Path Text) :=
  (records.filter fun record => record.path ≠ DATABASE_MEMBER).map fun record => (parts record.path).tail

/-- A list of records whose files can be placed within the limits of the live data. -/
structure Restorable (contents : Record → Bytes) (records : List Record) : Prop where
  sized : ∀ record ∈ records, Sized contents record
  apart : ∀ path ∈ evidence_paths records, ∀ other ∈ evidence_paths records, ¬Tree.Above path other
  depth : ∀ path ∈ evidence_paths records, path.length ≤ MAX_EVIDENCE_DEPTH + 1
  directories : (folders (evidence_paths records)).length + 1 ≤ MAX_EVIDENCE_DIRECTORIES

/-- A content with the size and the hash that a record states. -/
structure Holds (library : Library) (record : Record) (content : Bytes) : Prop where
  size : (content.length : Int) = record.size_bytes
  digest : library.sha256 content = record.sha256

/-- A database and a tree that hold the files of some records and no others. -/
structure Exactly (library : Library) (records : List Record) (database : Bytes) (tree : Tree Text Bytes) : Prop where
  database : ∃ record ∈ records, record.path = DATABASE_MEMBER ∧ Holds library record database
  listed : ∀ record ∈ records, record.path ≠ DATABASE_MEMBER →
    ∃ file ∈ tree.files, record.path = Members.evidence_member file.1 ∧ Holds library record file.2
  only : ∀ file ∈ tree.files, ∃ record ∈ records, record.path = Members.evidence_member file.1 ∧ Holds library record file.2
  inside : ∀ entry ∈ tree, ∀ part ∈ entry.1, Component part ∧ part ≠ ['.', '.']
  once : (tree.map Prod.fst).Nodup
  apart : ∀ file ∈ tree.files, ∀ entry ∈ tree, ¬Tree.Above file.1 entry.1

section
variable {library : Library} {archive : Archive} {contents : Record → Bytes} {records : List Record} {tree : Tree Text Bytes}

theorem items_paths (contents : Record → Bytes) (records : List Record) : (items contents records).map Prod.fst = evidence_paths records := by
  rw [items, List.map_map]
  rfl

theorem fills_apart (listed : Listed library.strings.names records) : (∃ tree, Tree.fill [] (items contents records) = some tree) ↔
    ∀ path ∈ evidence_paths records, ∀ other ∈ evidence_paths records, ¬Tree.Above path other := by
  rw [← Option.isSome_iff_exists, (fill_items listed).1, ← items_paths contents]
  simp only [List.forall_mem_map]

/-- The sizes of the database and of the files are listed. -/
theorem extracted_total {database : Bytes} {record : Record} (inside : record ∈ records) (named : record.path = DATABASE_MEMBER)
    (is : contents record = database) (filled : Tree.Filled (items contents records) tree) (sizes : ∀ record ∈ records, Sized contents record) :
    total_size database (sorted_files tree) ≤ (records.map (·.size_bytes)).sum := by
  have files : (sorted_files tree).Perm (items contents records) := (sorted_perm tree).trans (.of_eq filled.files)
  have sums : ((items contents records).map fun item => (item.2.length : Int)).sum =
      ((records.filter fun record => record.path ≠ DATABASE_MEMBER).map (·.size_bytes)).sum := by
    rw [items, List.map_map]
    refine congrArg List.sum (List.map_congr_left fun other member => ?_)
    exact sizes other (List.mem_filter.mp member).1
  have nonneg : ∀ size ∈ (records.filter fun record => record.path = DATABASE_MEMBER).map (·.size_bytes), 0 ≤ size := by
    intro size member
    obtain ⟨other, listed, rfl⟩ := List.mem_map.mp member
    have size : ((contents other).length : Int) = other.size_bytes := sizes other (List.mem_filter.mp listed).1
    omega
  have own : record.size_bytes ≤ ((records.filter fun record => record.path = DATABASE_MEMBER).map (·.size_bytes)).sum :=
    List.single_le_sum nonneg _ (List.mem_map_of_mem (List.mem_filter.mpr ⟨inside, decide_eq_true named⟩))
  have whole := ((List.filter_append_perm (fun record : Record => decide (record.path = DATABASE_MEMBER)) records).map (·.size_bytes)).sum_eq
  have size : ((contents record).length : Int) = record.size_bytes := sizes record inside
  rw [List.map_append, List.sum_append] at whole
  simp only [decide_not] at sums
  rw [total_size, (files.map _).sum_eq, sums, ← is]
  omega

/-- The records of the files are those of the archive, below the evidence directory. -/
theorem records_agree (listed : Listed library.strings.names records) (filled : Tree.Filled (items contents records) tree)
    (verified : ∀ record ∈ records, Verified library archive record (contents record)) (sizes : ∀ record ∈ records, Sized contents record) :
    Agree records (file_records library tree) archive.member (read_bounded_file tree) where
  recorded := by
    intro member below
    have files : (file_records library tree).Perm ((items contents records).map (file_record library)) :=
      ((sorted_perm tree).trans (.of_eq filled.files)).map _
    have paths : ((items contents records).map (file_record library)).map (·.path) =
        (records.map (·.path)).filter fun path => path ≠ DATABASE_MEMBER := by
      rw [List.map_map, ← @items_members library contents records listed]
      rfl
    have once : ((file_records library tree).map (·.path)).Nodup := by
      rw [(files.map _).nodup_iff, paths]
      exact listed.apart.filter _
    have same : ∀ record : Record, record.path = member → (record ∈ records ↔ record ∈ file_records library tree) := by
      intro record named
      have other : record.path ≠ DATABASE_MEMBER := fun database => absurd (database ▸ named ▸ below) (by decide)
      rw [files.mem_iff]
      have is : ∀ listed_record ∈ records, listed_record.path ≠ DATABASE_MEMBER →
          file_record library ((parts listed_record.path).tail, contents listed_record) = listed_record := by
        intro listed_record inside other
        have path := (recordable_below (listed.recordable listed_record inside) other).2.2
        have size : ((contents listed_record).length : Int) = listed_record.size_bytes := sizes listed_record inside
        rw [file_record, ← path, size, (verified listed_record inside).digest]
      constructor
      · intro inside
        exact List.mem_map.mpr ⟨_, mem_items.mpr ⟨record, inside, other, rfl⟩, is record inside other⟩
      · intro inside
        obtain ⟨item, placed, rfl⟩ := List.mem_map.mp inside
        obtain ⟨first, here, elsewhere, rfl⟩ := mem_items.mp placed
        rw [is first here elsewhere]
        exact here
    exact KeyedRows.find_agree listed.apart once same
  readable := (extracted_agree listed filled verified sizes).readable

theorem expected_revision {strings : Strings} {loads : Bytes → Except Unread Value} {parse_int : DatabaseEvidence.SqlValue → Option Int}
    {reader : Text → Except Raised Bytes} {size : Nat} {connection : DatabaseEvidence.Connection} {expected : Value} {revision : Text}
    (checked : check_database size connection = .ok revision)
    (ran : validate_database_evidence strings loads parse_int records reader size connection expected = .ok ()) :
    validate_database_evidence strings loads parse_int records reader size connection (.str (points revision)) = .ok () := by
  unfold validate_database_evidence at ran ⊢
  rw [checked, ok_bind] at ran ⊢
  split at ran
  · have told : is_text (.str (points revision)) revision = true := decide_eq_true rfl
    rw [if_pos told]
    exact ran
  · cases ran

/-- What keeps the names of an accepted archive portable. -/
theorem accepted_portable (accepts : Accepts library.strings.names records) (filled : Tree.Filled (items contents records) tree)
    (depth : ∀ path ∈ evidence_paths records, path.length ≤ MAX_EVIDENCE_DEPTH + 1)
    (directories : (folders (evidence_paths records)).length + 1 ≤ MAX_EVIDENCE_DIRECTORIES) : Portable library.strings.names tree where
  depth := by
    rw [filled_depth filled]
    intro item member
    exact depth item.1 (items_paths contents records ▸ List.mem_map_of_mem member)
  directories := by
    rw [(filled_folders filled).length_eq, items_paths]
    exact directories
  files := by
    obtain ⟨record, inside, named⟩ := List.mem_map.mp accepts.database
    have fewer : (records.filter fun record => decide (record.path ≠ DATABASE_MEMBER)).length < records.length :=
      List.length_filter_lt_length_iff_exists.mpr ⟨record, inside, by simpa using named⟩
    have few := accepts.few
    rw [filled.files, items, List.length_map]
    simp only [ZipDirectory.MAX_ARCHIVE_ENTRIES, MAX_ARCHIVE_ENTRIES] at few ⊢
    omega
  safe := by
    intro file member
    rw [filled.files] at member
    obtain ⟨record, inside, below, rfl⟩ := mem_items.mp member
    have recordable := accepts.listed.recordable record inside
    rw [← (recordable_below recordable below).2.2]
    exact recordable.safe
  apart := by
    have paths := @items_members library contents records accepts.listed
    have folded := accepts.folded
    have same : (items contents records).map (fun file => library.strings.names.casefold (Members.evidence_member file.1)) =
        ((records.map (·.path)).filter fun path => path ≠ DATABASE_MEMBER).map library.strings.names.casefold := by
      rw [← paths, List.map_map]
      rfl
    rw [filled.files, same]
    rw [show (fun record : Record => library.strings.names.casefold record.path) = library.strings.names.casefold ∘ (·.path) from rfl,
      ← List.map_map] at folded
    exact folded.sublist (List.filter_sublist.map _)

section
variable {file : Bytes} {document revision : Value} {database : Bytes}

theorem opened_verified (opened : Opened library file archive document revision records) :
    ∀ record ∈ records, Verified library archive record (member_content archive record) := by
  intro record member
  obtain ⟨content, verified⟩ := opened.members record member
  have same : member_content archive record = content := by rw [member_content, verified.read]
  exact same ▸ verified

/-- Extracted data is valid exactly when its directories are within the limits. -/
theorem extracted_valid (opened : Opened library file archive document revision records) (sizes : ∀ record ∈ records, Sized (member_content archive) record)
    (filled : Tree.Filled (items (member_content archive) records) tree) (read : archive.member DATABASE_MEMBER = .ok database) :
    validate_files library database (some tree) = .ok () ↔ (∀ path ∈ evidence_paths records, path.length ≤ MAX_EVIDENCE_DEPTH + 1) ∧
      (folders (evidence_paths records)).length + 1 ≤ MAX_EVIDENCE_DIRECTORIES := by
  have accepts := opened.accepts
  have verified := opened_verified opened
  rw [@validate_files_ok _ _ (some tree) filled.closed]
  constructor
  · rintro ⟨schema_revision, sound⟩
    have depth := (filled_depth filled _).mp sound.portable.depth
    have directories := sound.portable.directories
    rw [Option.getD_some, (filled_folders filled).length_eq, items_paths] at directories
    refine ⟨fun path member => ?_, directories⟩
    obtain ⟨item, inside, rfl⟩ := List.mem_map.mp (items_paths (member_content archive) records ▸ member)
    exact depth item inside
  · rintro ⟨depth, directories⟩
    obtain ⟨content, reads, _, referenced⟩ := opened.referenced
    cases read.symm.trans reads
    obtain ⟨schema_revision, checked, _⟩ := bind_eq_ok.mp referenced
    have bounded : (database.length : Int) ≤ MAX_DATABASE_BYTES := by
      unfold check_database at checked
      split at checked
      · cases checked
      next small => exact Int.not_lt.mp small
    obtain ⟨record, inside, named⟩ := List.mem_map.mp accepts.database
    have is : member_content archive record = database := by rw [member_content, named, read]
    have agree := records_agree accepts.listed filled verified sizes
    refine ⟨schema_revision, checked, accepted_portable accepts filled depth directories, bounded, ?_, ?_⟩
    · exact (extracted_total inside named is filled sizes).trans accepts.listed.total
    · rw [database_evidence_agree agree] at referenced
      exact expected_revision checked referenced

theorem extracted_exactly (opened : Opened library file archive document revision records) (sizes : ∀ record ∈ records, Sized (member_content archive) record)
    (filled : Tree.Filled (items (member_content archive) records) tree) (read : archive.member DATABASE_MEMBER = .ok database) :
    Exactly library records database tree where
  database := by
    obtain ⟨record, inside, named⟩ := List.mem_map.mp opened.accepts.database
    have is : member_content archive record = database := by rw [member_content, named, read]
    exact ⟨record, inside, named, is ▸ sizes record inside, is ▸ (opened_verified opened record inside).digest⟩
  listed := by
    intro record inside below
    refine ⟨((parts record.path).tail, member_content archive record), filled.files ▸ mem_items.mpr ⟨record, inside, below, rfl⟩, ?_, ?_⟩
    · exact (recordable_below (opened.accepts.listed.recordable record inside) below).2.2
    · exact ⟨sizes record inside, (opened_verified opened record inside).digest⟩
  only := by
    intro file member
    obtain ⟨record, inside, below, rfl⟩ := mem_items.mp (filled.files ▸ member)
    refine ⟨record, inside, (recordable_below (opened.accepts.listed.recordable record inside) below).2.2, ?_⟩
    exact ⟨sizes record inside, (opened_verified opened record inside).digest⟩
  inside := by
    have of_item : ∀ item ∈ items (member_content archive) records, ∀ part ∈ item.1, Component part ∧ part ≠ ['.', '.'] := by
      intro item member
      obtain ⟨record, inside, below, rfl⟩ := mem_items.mp member
      exact (recordable_below (opened.accepts.listed.recordable record inside) below).2.1
    rintro ⟨path, node⟩ member part inside
    cases node with
    | file content => exact of_item _ (filled.files ▸ Tree.mem_files.mpr member) part inside
    | directory =>
      obtain ⟨_, item, listed, before, _⟩ := (filled.directories path).mp (Tree.mem_directories.mpr member)
      exact of_item item listed part (before.subset inside)
  once := filled.closed.once
  apart := by
    rintro file member ⟨path, node⟩ entry above
    have there := filled.closed.above entry above.1 above.2
    rw [filled.closed.look (Tree.mem_files.mp member)] at there
    cases there

/-- What a restore of an accepted archive ends with, when it ends well. -/
theorem restore_opened (opened : Opened library file archive document revision records) {db : Option Bytes}
    {files : Option (List (Path Text × Node Bytes))} (whole : files.isSome = true → db.isSome = true)
    (t : Restore.Store Bytes (Path Text × Node Bytes)) : (restore_backup library file).run (settled db files) = (none, t) ↔
      ∃ database tree, (∀ record ∈ records, Sized (member_content archive) record) ∧
        Tree.fill [] (items (member_content archive) records) = some tree ∧ archive.member DATABASE_MEMBER = .ok database ∧
          (∀ path ∈ evidence_paths records, path.length ≤ MAX_EVIDENCE_DEPTH + 1) ∧
            (folders (evidence_paths records)).length + 1 ≤ MAX_EVIDENCE_DIRECTORIES ∧ t = settled (some database) (some tree) := by
  have checks : ∀ database tree, live_check library database tree = none ↔ validate_files library database (some tree) = .ok () := by
    intro database tree
    unfold live_check
    cases validate_files library database (some tree) <;> simp
  have extracts : ∀ database tree, extracted library file = .ok (database, tree) ↔ (∀ record ∈ records, Sized (member_content archive) record) ∧
      Tree.fill [] (items (member_content archive) records) = some tree ∧ archive.member DATABASE_MEMBER = .ok database := by
    intro database tree
    rw [← extract_verified_ok opened, extracted]
    cases extract_verified library file <;> simp [Except.mapError]
  have ends : (restore_backup library file).run (settled db files) = (none, t) ↔ _ := restore_ends whole t
  rw [ends]
  refine exists_congr fun database => exists_congr fun tree => ?_
  rw [extracts, checks]
  constructor
  · rintro ⟨⟨sizes, fills, read⟩, valid, is⟩
    have filled := (fill_items opened.accepts.listed).2 tree fills
    obtain ⟨depth, directories⟩ := (extracted_valid opened sizes filled read).mp valid
    exact ⟨sizes, fills, read, depth, directories, is⟩
  · rintro ⟨sizes, fills, read, depth, directories, is⟩
    have filled := (fill_items opened.accepts.listed).2 tree fills
    exact ⟨⟨sizes, fills, read⟩, (extracted_valid opened sizes filled read).mpr ⟨depth, directories⟩, is⟩

end
end

end RedDock.RestoredBackups
