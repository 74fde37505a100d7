import RedDock.LiveData
import RedDock.BackupManifests
import RedDock.DeflatedArchives
import RedDock.KeyedRows

/-!
# Creating a backup

`_create_backup_locked` writes the files of a data directory with their manifest
and verifies what it wrote. Data that is sound is backed up exactly when the
manifest, which grows with every file, is within its limit.
-/
set_option autoImplicit false
namespace RedDock.CreatedBackups
open Text Fallible Trees Members Checks ManifestChecks EvidenceReferences LiveData BackupManifests
open DatabaseEvidence (MAX_MANIFEST_BYTES record_of check_database validate_database_evidence load_document)
open HostileArchives hiding MAX_ARCHIVE_BYTES
open DeflatedArchives (Source written directory PRIVATE_ATTR ZIP_DEFLATED)
open EvidenceFiles (evidence_files Portable)

/-- What is written with: the compressor, and the time as `isoformat` gives it. -/
structure Writer where
  deflate : Bytes → Bytes
  created_at : Text

section
variable (library : Library) (writer : Writer)

/-- The records and the members until now. -/
structure Writing where
  records : List Record
  sources : List Source

/-- `_write_source` of a file, if it can be opened. -/
def write_source (writing : Writing) (source : Text × Option Bytes) : Except Raised Writing :=
  match source.2 with
  | none => .error .os_error
  | some content =>
    if MAX_UNCOMPRESSED_BYTES - (writing.records.map (·.size_bytes)).sum < content.length then
      refused "Backup exceeds the fixed uncompressed size limit"
    else .ok {
      records := writing.records ++ [⟨source.1, content.length, library.sha256 content⟩]
      sources := writing.sources ++ [⟨source.1, content, true⟩] }

/-- The `except` clause for a file system that fails. -/
def filesystem_failed : Raised → Raised
  | .os_error => .backup_error "Backup filesystem operation failed".toList
  | raised => raised

/-- The archive of a database and an evidence directory, when it has been verified. -/
def write_archive (database : Bytes) (evidence : Option (Tree Text Bytes)) (schema_revision : Text) : Except Raised Bytes := do
  let members ← (evidence_files library.strings.names evidence).mapError Raised.backup_error
  let sources := (DATABASE_MEMBER, some database) :: members.map fun member => (member.1, content_of (evidence.getD []) member.2)
  if MAX_ARCHIVE_ENTRIES < sources.length then refused "Backup contains too many files"
  else
    let writing ← sources.foldlM (write_source library) ⟨[], []⟩
    let manifest : Source := ⟨MANIFEST_NAME, manifest_bytes writer.created_at writing.records schema_revision, false⟩
    let file := written writer.deflate (writing.sources ++ [manifest])
    let _ ← verify_backup library file
    return file

/-- `_create_backup_locked`, once the output may be written. -/
def create_backup_locked (data : DataDirectory) : Except Raised Bytes :=
  match data.database with
  | none => refused "SQLite database must be a regular, non-link file"
  | some database =>
    if MAX_DATABASE_BYTES < (database.length : Int) then refused "SQLite database exceeds the fixed database size limit"
    else do
      let schema_revision ← check_database database.length (library.connection database)
      (write_archive library writer database (data.evidence.map Evidence.tree) schema_revision).mapError filesystem_failed

/-! ### What is written -/

/-- The files of a backup by their members. -/
def backup_files (database : Bytes) (tree : Tree Text Bytes) : List (Text × Bytes) :=
  (DATABASE_MEMBER, database) :: (sorted_files tree).map fun file => (Members.evidence_member file.1, file.2)

def record (file : Text × Bytes) : Record := ⟨file.1, file.2.length, library.sha256 file.2⟩

def source (file : Text × Bytes) : Source := ⟨file.1, file.2, true⟩

def records (database : Bytes) (tree : Tree Text Bytes) : List Record := (backup_files database tree).map (record library)

/-- The members of the archive, with the manifest behind them. -/
def archived (database : Bytes) (tree : Tree Text Bytes) (schema_revision : Text) : List Source :=
  (backup_files database tree).map source ++
    [⟨MANIFEST_NAME, manifest_bytes writer.created_at (records library database tree) schema_revision, false⟩]

def archive_bytes (database : Bytes) (tree : Tree Text Bytes) (schema_revision : Text) : Bytes :=
  written writer.deflate (archived library writer database tree schema_revision)

/-- The entry of a member, as it is read back. -/
def info (source : Source) : ZipInfo where
  filename := source.name
  file_size := source.content.length
  flag_bits := source.flag_bits
  compress_type := ZIP_DEFLATED
  external_attr := PRIVATE_ATTR
  create_system := 3

/-- An archive that gives back the members it was written of. -/
structure GivesBack (archive : Archive) (members : List Source) : Prop where
  infolist : archive.infolist = members.map info
  read : ∀ member ∈ members, archive.read member.name = .ok member.content

/-- What the Unicode tables do to names: ASCII without capitals stays as it is. -/
structure PlainNames (names : Names) : Prop where
  nfc : ∀ t : Text, isAscii t = true → names.nfc t = t
  casefold_append : ∀ first second : Text, names.casefold (first ++ second) = names.casefold first ++ names.casefold second
  casefold : ∀ t : Text, isAscii t = true → (t.all fun c => !c.isUpper) = true → names.casefold t = t

/-- What the libraries are documented to do, as far as one backup asks it of them. -/
structure Documented (database : Bytes) (tree : Tree Text Bytes) (schema_revision : Text) : Prop where
  /-- `zipfile` reads the members it wrote. -/
  zip_file : ∃ archive, library.zip_file (archive_bytes library writer database tree schema_revision) = .ok archive ∧
    GivesBack archive (archived library writer database tree schema_revision)
  /-- Raw deflate adds little to what it cannot compress. -/
  deflate : ∀ content, (writer.deflate content).length ≤ content.length + content.length / 1024 + 64
  /-- `json.loads` reads what `json.dumps` wrote. -/
  loads : library.loads (manifest_bytes writer.created_at (records library database tree) schema_revision) =
    .ok (value_of (manifest_json writer.created_at (records library database tree) schema_revision))
  /-- `fromisoformat` reads what `isoformat` wrote of a time in UTC. -/
  fromisoformat : library.strings.fromisoformat (points writer.created_at) = some (some 0)
  sha256 : ∀ content, valid_sha256 (points (library.sha256 content)) = true
  names : PlainNames library.strings.names

end

section
variable {library : Library} {writer : Writer} {database : Bytes} {tree : Tree Text Bytes} {schema_revision : Text}

theorem write_source_file (writing : Writing) (file : Text × Bytes) : write_source library writing (file.1, some file.2) =
    if MAX_UNCOMPRESSED_BYTES < (writing.records.map (·.size_bytes)).sum + file.2.length then
      refused "Backup exceeds the fixed uncompressed size limit"
    else .ok ⟨writing.records ++ [record library file], writing.sources ++ [source file]⟩ := by
  have same : MAX_UNCOMPRESSED_BYTES - (writing.records.map (·.size_bytes)).sum < file.2.length ↔
      MAX_UNCOMPRESSED_BYTES < (writing.records.map (·.size_bytes)).sum + file.2.length := by omega
  simp only [write_source, same]
  rfl

/-- Files that fit are written one after another. -/
theorem write_sources_ok {files : List (Text × Bytes)} {writing : Writing}
    (room : (writing.records.map (·.size_bytes)).sum + (files.map fun file => (file.2.length : Int)).sum ≤ MAX_UNCOMPRESSED_BYTES) :
    (files.map fun file => (file.1, some file.2)).foldlM (write_source library) writing =
      .ok ⟨writing.records ++ files.map (record library), writing.sources ++ files.map source⟩ := by
  induction files generalizing writing with
  | nil => simp [pure, Except.pure]
  | cons file files ih =>
    have rest : 0 ≤ (files.map fun file => (file.2.length : Int)).sum :=
      List.sum_nonneg fun size member => by
        obtain ⟨other, _, rfl⟩ := List.mem_map.mp member
        exact Int.natCast_nonneg _
    rw [List.map_cons, List.sum_cons] at room
    rw [List.map_cons, List.foldlM_cons, write_source_file, if_neg (by omega), ok_bind, ih]
    · simp
    · simp only [List.map_append, List.map_cons, List.map_nil, List.sum_append, List.sum_cons, List.sum_nil, record]
      omega

theorem backup_total (database : Bytes) (tree : Tree Text Bytes) :
    ((backup_files database tree).map fun file => (file.2.length : Int)).sum = total_size database (sorted_files tree) := by
  rw [backup_files, List.map_cons, List.sum_cons, List.map_map, total_size]
  rfl

/-- What is opened for a backup of portable evidence. -/
theorem opened_sources {evidence : Option (Tree Text Bytes)} (closed : Tree.Closed (evidence.getD []))
    (portable : Portable library.strings.names (evidence.getD [])) : ∃ members, evidence_files library.strings.names evidence = .ok members ∧
      (DATABASE_MEMBER, some database) :: members.map (fun member => (member.1, content_of (evidence.getD []) member.2)) =
        (backup_files database (evidence.getD [])).map fun file => (file.1, some file.2) := by
  refine ⟨(sorted_files (evidence.getD [])).map EvidenceFiles.member_of, ?_, ?_⟩
  · rw [evidence_files_tree, EvidenceFiles.evidence_files_ok closed, members_sorted]
    exact ⟨portable, rfl⟩
  · rw [backup_files, List.map_cons, List.map_map, List.map_map]
    refine congrArg _ (List.map_congr_left fun file member => ?_)
    exact congrArg (Prod.mk _) (content_of_file closed member)

/-- Sound data is written as a whole, and what was written is verified. -/
theorem write_archive_sound {evidence : Option (Tree Text Bytes)} (closed : Tree.Closed (evidence.getD []))
    (sound : Sound library database (evidence.getD []) schema_revision) : write_archive library writer database evidence schema_revision =
      (verify_backup library (archive_bytes library writer database (evidence.getD []) schema_revision)).map fun _ =>
        archive_bytes library writer database (evidence.getD []) schema_revision := by
  obtain ⟨members, lists, opened⟩ := @opened_sources library database evidence closed sound.portable
  have few : ((backup_files database (evidence.getD [])).map fun file => (file.1, some file.2)).length ≤ MAX_ARCHIVE_ENTRIES := by
    have files := sound.portable.files
    rw [← (sorted_perm _).length_eq] at files
    simp only [backup_files, List.length_map, List.length_cons, ZipDirectory.MAX_ARCHIVE_ENTRIES, MAX_ARCHIVE_ENTRIES] at files ⊢
    omega
  have room := sound.total
  rw [← backup_total] at room
  have ran := @write_sources_ok library (backup_files database (evidence.getD [])) ⟨[], []⟩ (by simpa using room)
  unfold write_archive
  simp only [lists, Except.mapError, ok_bind, opened, if_neg (Nat.not_lt.mpr few), ran, List.nil_append]
  show (verify_backup library (archive_bytes library writer database (evidence.getD []) schema_revision) >>= fun _ => _) = _
  cases verify_backup library (archive_bytes library writer database (evidence.getD []) schema_revision) <;> rfl

/-! ### Sizes -/

/-- What the files add to the size of the manifest. -/
def listed_size (files : List (Text × Bytes)) : Nat :=
  (files.map fun file => 134 + (JsonText.quoted true file.1).length + (dec file.2.length).length).sum

/-- The size of the manifest, by the names and sizes of the files. -/
def backup_manifest_size (created_at schema_revision : Text) (database : Bytes) (tree : Tree Text Bytes) : Nat :=
  manifest_size created_at schema_revision ((backup_files database tree).map fun file => (file.1, file.2.length))

theorem manifest_size_files (created_at : Text) : backup_manifest_size created_at schema_revision database tree =
    243 + (JsonText.quoted true created_at).length + (JsonText.quoted true schema_revision).length + listed_size (backup_files database tree) := by
  rw [backup_manifest_size, manifest_size, List.map_map]
  rfl

theorem manifest_bytes_length (digests : ∀ content, valid_sha256 (points (library.sha256 content)) = true) :
    (manifest_bytes writer.created_at (records library database tree) schema_revision).length =
      backup_manifest_size writer.created_at schema_revision database tree := by
  have some_file : records library database tree ≠ [] := List.cons_ne_nil _ _
  rw [manifest_length some_file, backup_manifest_size, records, List.map_map]
  · rfl
  · intro listed member
    obtain ⟨file, _, rfl⟩ := List.mem_map.mp member
    exact digests file.2
  · intro listed member
    obtain ⟨file, _, rfl⟩ := List.mem_map.mp member
    exact Int.natCast_nonneg _

/-- A file takes more room in the manifest than it takes beside its content in the
    archive. -/
theorem listed_size_cons (file : Text × Bytes) (files : List (Text × Bytes)) :
    137 + utf8_size file.1 + listed_size files ≤ listed_size (file :: files) := by
  have literal := JsonSizes.quoted_length file.1
  have digits := List.length_pos_iff.mpr (dec_ne_nil file.2.length)
  rw [listed_size, listed_size, List.map_cons, List.sum_cons]
  omega

theorem count_listed (files : List (Text × Bytes)) : 137 * files.length ≤ listed_size files := by
  induction files with
  | nil => exact Nat.zero_le _
  | cons file files ih =>
    have here := listed_size_cons file files
    rw [List.length_cons]
    omega

theorem entries_listed (files : List (Text × Bytes)) : (files.map fun file => 74 + utf8_size file.1).sum ≤ listed_size files := by
  induction files with
  | nil => exact Nat.zero_le _
  | cons file files ih =>
    have here := listed_size_cons file files
    rw [List.map_cons, List.sum_cons]
    omega

theorem contents_listed {deflate : Bytes → Bytes} (adds : ∀ content, (deflate content).length ≤ content.length + content.length / 1024 + 64)
    (files : List (Text × Bytes)) : 1024 * (files.map fun file => 50 + utf8_size file.1 + (deflate file.2).length).sum ≤
      1024 * listed_size files + 1025 * (files.map fun file => file.2.length).sum := by
  induction files with
  | nil => exact Nat.zero_le _
  | cons file files ih =>
    have here := listed_size_cons file files
    have content := adds file.2
    rw [List.map_cons, List.sum_cons, List.map_cons, List.sum_cons]
    omega

/-! ### Names -/

theorem safe_database (plain : PlainNames library.strings.names) :
    safe_member library.strings.names DATABASE_MEMBER = true := by
  have parts_are : parts DATABASE_MEMBER = ["database".toList, "reddock.db".toList] := by decide
  have first : safe_part library.strings.names "database".toList = true := by
    rw [safe_part, plain.casefold _ (by decide) (by decide)]
    decide
  have second : safe_part library.strings.names "reddock.db".toList = true := by
    rw [safe_part, plain.casefold _ (by decide) (by decide)]
    decide
  rw [safe_member, plain.nfc _ (by decide), parts_are, Bool.and_eq_true]
  refine ⟨by decide, ?_⟩
  rw [List.all_cons, List.all_cons, first, second]
  rfl

theorem safe_manifest (plain : PlainNames library.strings.names) :
    safe_member library.strings.names MANIFEST_NAME = true := by
  have parts_are : parts MANIFEST_NAME = [MANIFEST_NAME] := by decide
  have only : safe_part library.strings.names MANIFEST_NAME = true := by
    rw [safe_part, plain.casefold _ (by decide) (by decide)]
    decide
  rw [safe_member, plain.nfc _ (by decide), parts_are, Bool.and_eq_true]
  refine ⟨by decide, ?_⟩
  rw [List.all_cons, only]
  rfl

/-- A name below the evidence directory stays there when its case is folded. -/
theorem casefold_evidence (plain : PlainNames library.strings.names) (path : Path Text) :
    "evidence/".toList <+: library.strings.names.casefold (Members.evidence_member path) := by
  have kept : library.strings.names.casefold "evidence/".toList = "evidence/".toList :=
    plain.casefold _ (by decide) (by decide)
  have whole : library.strings.names.casefold (Members.evidence_member path) =
      "evidence/".toList ++ library.strings.names.casefold (join ['/'] path) :=
    (plain.casefold_append _ _).trans (congrArg (· ++ _) kept)
  exact ⟨_, whole.symm⟩

/-- The names of the files stay apart when their case is folded, and apart from the manifest. -/
theorem names_apart (plain : PlainNames library.strings.names) (portable : Portable library.strings.names tree) :
    ((backup_files database tree).map fun file => library.strings.names.casefold file.1).Nodup ∧
      library.strings.names.casefold MANIFEST_NAME ∉ (backup_files database tree).map fun file => library.strings.names.casefold file.1 := by
  have database_kept : library.strings.names.casefold DATABASE_MEMBER = DATABASE_MEMBER := plain.casefold _ (by decide) (by decide)
  have manifest_kept : library.strings.names.casefold MANIFEST_NAME = MANIFEST_NAME := plain.casefold _ (by decide) (by decide)
  have evidence : ((sorted_files tree).map fun file => library.strings.names.casefold (Members.evidence_member file.1)).Nodup :=
    ((sorted_perm tree).map _).nodup_iff.mpr portable.apart
  have outside : ∀ name : Text, ¬"evidence/".toList <+: name → name ∉ (sorted_files tree).map fun file =>
      library.strings.names.casefold (Members.evidence_member file.1) := by
    intro name apart member
    obtain ⟨file, _, rfl⟩ := List.mem_map.mp member
    exact apart (casefold_evidence plain file.1)
  have folded : ((backup_files database tree).map fun file => library.strings.names.casefold file.1) = DATABASE_MEMBER ::
      (sorted_files tree).map fun file => library.strings.names.casefold (Members.evidence_member file.1) := by
    rw [backup_files, List.map_cons, List.map_map, database_kept]
    rfl
  rw [folded, manifest_kept, List.nodup_cons, List.mem_cons, not_or]
  exact ⟨⟨outside _ (by decide), evidence⟩, by decide, outside _ (by decide)⟩

theorem archived_names : (archived library writer database tree schema_revision).map Source.name =
    (backup_files database tree).map Prod.fst ++ [MANIFEST_NAME] := by
  rw [archived, List.map_append, List.map_map]
  rfl

theorem archived_folded (plain : PlainNames library.strings.names)
    (portable : Portable library.strings.names tree) :
    (((archived library writer database tree schema_revision).map Source.name).map library.strings.names.casefold).Nodup := by
  obtain ⟨files, manifest⟩ := names_apart plain portable
  rw [archived_names, List.map_append, List.map_map]
  exact List.nodup_append'.mpr ⟨files, List.nodup_singleton _, List.disjoint_singleton.mpr manifest⟩

theorem archived_apart (plain : PlainNames library.strings.names)
    (portable : Portable library.strings.names tree) : ((archived library writer database tree schema_revision).map Source.name).Nodup :=
  List.Nodup.of_map _ (archived_folded plain portable)

theorem archived_safe (plain : PlainNames library.strings.names)
    (portable : Portable library.strings.names tree) :
    ∀ member ∈ archived library writer database tree schema_revision, safe_member library.strings.names member.name = true := by
  intro member inside
  rcases List.mem_append.mp inside with file | manifest
  · obtain ⟨listed, within, rfl⟩ := List.mem_map.mp file
    rcases List.mem_cons.mp within with rfl | evidence
    · exact safe_database plain
    · obtain ⟨below, member, rfl⟩ := List.mem_map.mp evidence
      exact portable.safe below ((sorted_perm tree).mem_iff.mp member)
  · rw [List.mem_singleton.mp manifest]
    exact safe_manifest plain

/-! ### Verification of what is written -/

section
variable {archive : Archive} {members : List Source}

theorem file_size_given (gives : GivesBack archive members) (apart : (members.map Source.name).Nodup) {member : Source}
    (inside : member ∈ members) : archive.file_size member.name = some member.content.length := by
  have unique : ((members.map info).map ZipInfo.filename).Nodup := by
    rw [List.map_map]
    exact apart
  have found : (members.map info).find? (fun entry => decide (entry.filename = member.name)) = some (info member) :=
    KeyedRows.find_key unique (List.mem_map_of_mem inside)
  rw [Archive.file_size, gives.infolist, found]
  rfl

theorem member_given (gives : GivesBack archive members) {member : Source} (inside : member ∈ members) :
    archive.member member.name = .ok member.content := member_ok.mpr (gives.read member inside)

theorem flag_bits_even (source : Source) : ¬source.flag_bits % 2 = 1 := by
  unfold Source.flag_bits
  split <;> decide

/-- A member that was written with a safe name has the private mode. -/
theorem check_info_given {member : Source} (safe : safe_member library.strings.names member.name = true) :
    check_info library (info member) = .ok () := by
  have name : (info member).filename = member.name := rfl
  have flags : (info member).flag_bits = member.flag_bits := rfl
  have compress_type : (info member).compress_type = 8 := rfl
  have create_system : (info member).create_system = 3 := rfl
  have mode : unix_mode (info member) = 0o100600 := by
    show PRIVATE_ATTR / 2 ^ 16 = 0o100600
    decide
  have regular : ¬(member.name.getLast? = some '/' ∨ 0o100600 &&& 0o170000 = 0o120000) :=
    fun either => either.elim (safe_member_ends safe) fun link => absurd link (by decide)
  rw [check_info, name, flags, safe, compress_type, create_system, mode, if_neg (by decide), if_neg (flag_bits_even member), if_neg (by decide),
    if_neg regular, if_neg (by decide)]

theorem forM_ok {α : Type} {f : α → Except Raised Unit} {items : List α} (each : ∀ item ∈ items, f item = .ok ()) : items.forM f = .ok () := by
  induction items with
  | nil => rfl
  | cons item items ih =>
    obtain ⟨here, later⟩ := List.forall_mem_cons.mp each
    show (f item >>= fun _ => items.forM f) = .ok ()
    rw [here]
    exact ih later

theorem check_infos_given (gives : GivesBack archive members) (few : members.length ≤ MAX_ARCHIVE_ENTRIES + 1)
    (folded : ((members.map Source.name).map library.strings.names.casefold).Nodup)
    (safe : ∀ member ∈ members, safe_member library.strings.names member.name = true) {manifest : Source} (inside : manifest ∈ members)
    (named : manifest.name = MANIFEST_NAME) :
    check_infos library archive = if MAX_MANIFEST_BYTES < manifest.content.length then refused "Backup manifest exceeds the fixed size limit" else .ok () := by
  have names : archive.infolist.map (·.filename) = members.map Source.name := by
    rw [gives.infolist, List.map_map]
    rfl
  have length : archive.infolist.length = members.length := by rw [gives.infolist, List.length_map]
  have apart := List.Nodup.of_map _ folded
  have listed : MANIFEST_NAME ∈ members.map Source.name := List.mem_map.mpr ⟨manifest, inside, named⟩
  have infos : archive.infolist.forM (check_info library) = .ok () := by
    refine forM_ok fun entry member => ?_
    rw [gives.infolist] at member
    obtain ⟨source, within, rfl⟩ := List.mem_map.mp member
    exact check_info_given (safe source within)
  have size : archive.file_size MANIFEST_NAME = some manifest.content.length := named ▸ file_size_given gives apart inside
  simp only [check_infos, names, length, infos, size, Option.any_some, ok_bind]
  rw [if_neg (Nat.not_lt.mpr few), if_neg (by simp [apart]), if_neg (by rw [decide_eq_true folded]; decide), if_neg (not_not.mpr listed)]
  by_cases large : MAX_MANIFEST_BYTES < manifest.content.length
  · simp [large]
  · simp [large]

end

/-! ### The manifest of what is written -/

theorem paths_of_records (library : Library) (database : Bytes) (tree : Tree Text Bytes) :
    (records library database tree).map (·.path) = (backup_files database tree).map Prod.fst := by
  rw [records, List.map_map]
  rfl

/-- A file below the evidence directory is not the database. -/
theorem evidence_member_ne (path : Path Text) : Members.evidence_member path ≠ DATABASE_MEMBER := by
  intro same
  have below : "evidence/".toList <+: DATABASE_MEMBER := same ▸ List.prefix_append _ _
  exact absurd below (by decide)

theorem database_first (path : Path Text) : DATABASE_MEMBER ≤ Members.evidence_member path :=
  le_of_lt (List.Lex.rel (by decide : 'd' < 'e'))

/-- The records stand in the order of their paths. -/
theorem records_sorted (library : Library) (database : Bytes) (tree : Tree Text Bytes) :
    ((records library database tree).map (·.path)).Pairwise (· ≤ ·) := by
  have sorted : (sorted_files tree).Pairwise by_member := by
    have total : Std.Total by_member := ⟨fun first second => le_total (Members.evidence_member first.1) (Members.evidence_member second.1)⟩
    have transitive : IsTrans (Path Text × Bytes) by_member := ⟨fun _ _ _ one other => le_trans one other⟩
    exact List.pairwise_insertionSort by_member _
  rw [paths_of_records, backup_files, List.map_cons, List.map_map, List.pairwise_cons]
  refine ⟨fun name member => ?_, List.pairwise_map.mpr sorted⟩
  obtain ⟨file, _, rfl⟩ := List.mem_map.mp member
  exact database_first file.1

theorem known_revision_of_check {size : Nat} {connection : DatabaseEvidence.Connection}
    (checked : check_database size connection = .ok schema_revision) : schema_revision ∈ SCHEMA_REVISIONS.map String.toList := by
  unfold check_database at checked
  split at checked
  · cases checked
  cases ran : DatabaseEvidence.check_rows connection with
  | error raised =>
    rw [ran] at checked
    cases checked
  | ok revision =>
    rw [ran] at checked
    cases checked
    obtain ⟨_, _, ran⟩ := bind_eq_ok.mp ran
    obtain ⟨_, _, ran⟩ := bind_eq_ok.mp ran
    obtain ⟨_, _, ran⟩ := bind_eq_ok.mp ran
    obtain ⟨revisions, _, ran⟩ := bind_eq_ok.mp ran
    split at ran
    · cases ran
    split at ran
    · cases ran
    split at ran
    · cases ran
    next revision known =>
      obtain ⟨_, _, same⟩ := bind_eq_ok.mp ran
      cases same
      unfold DatabaseEvidence.revision_of at known
      split at known
      · split at known
        next member =>
          cases known
          exact member
        · cases known
      · cases known

theorem records_recordable (documented : Documented library writer database tree schema_revision)
    (sound : Sound library database tree schema_revision) :
    ∀ record ∈ records library database tree, Recordable library.strings.names record := by
  intro listed member
  obtain ⟨file, inside, rfl⟩ := List.mem_map.mp member
  rcases List.mem_cons.mp inside with rfl | evidence
  · exact ⟨safe_database documented.names, Or.inl rfl, Int.natCast_nonneg _, documented.sha256 _, fun _ => sound.bounded⟩
  · obtain ⟨below, within, rfl⟩ := List.mem_map.mp evidence
    refine ⟨?_, Or.inr (List.prefix_append _ _), Int.natCast_nonneg _, documented.sha256 _, fun same => absurd same (evidence_member_ne _)⟩
    exact sound.portable.safe below ((sorted_perm tree).mem_iff.mp within)

theorem records_total (library : Library) (database : Bytes) (tree : Tree Text Bytes) :
    ((records library database tree).map (·.size_bytes)).sum = total_size database (sorted_files tree) := by
  rw [← backup_total, records, List.map_map]
  rfl

theorem archived_few (portable : Portable library.strings.names tree) :
    (archived library writer database tree schema_revision).length ≤ MAX_ARCHIVE_ENTRIES + 1 := by
  have files := portable.files
  rw [← (sorted_perm _).length_eq] at files
  simp only [archived, backup_files, List.length_append, List.length_map, List.length_cons, List.length_nil, ZipDirectory.MAX_ARCHIVE_ENTRIES,
    MAX_ARCHIVE_ENTRIES] at files ⊢
  omega

/-- The member of the manifest. -/
def manifest_source (library : Library) (writer : Writer) (database : Bytes) (tree : Tree Text Bytes) (schema_revision : Text) : Source :=
  ⟨MANIFEST_NAME, manifest_bytes writer.created_at (records library database tree) schema_revision, false⟩

theorem manifest_archived : manifest_source library writer database tree schema_revision ∈ archived library writer database tree schema_revision :=
  List.mem_append_right _ (List.mem_singleton_self _)

theorem file_archived {file : Text × Bytes} (inside : file ∈ backup_files database tree) :
    source file ∈ archived library writer database tree schema_revision := List.mem_append_left _ (List.mem_map_of_mem inside)

/-- The checks on the members of what was written leave the size of the manifest. -/
theorem check_infos_archived (documented : Documented library writer database tree schema_revision)
    (portable : Portable library.strings.names tree) {archive : Archive}
    (gives : GivesBack archive (archived library writer database tree schema_revision)) : check_infos library archive =
      if MAX_MANIFEST_BYTES < backup_manifest_size writer.created_at schema_revision database tree then
        refused "Backup manifest exceeds the fixed size limit" else .ok () := by
  have length : (manifest_source library writer database tree schema_revision).content.length =
      backup_manifest_size writer.created_at schema_revision database tree := manifest_bytes_length documented.sha256
  rw [← length]
  exact check_infos_given gives (archived_few portable) (archived_folded documented.names portable) (archived_safe documented.names portable)
    manifest_archived rfl

theorem check_contents_archived {archive : Archive} (gives : GivesBack archive (archived library writer database tree schema_revision)) :
    check_contents archive (records library database tree) = .ok () := by
  have names : archive.infolist.map (·.filename) = (backup_files database tree).map Prod.fst ++ [MANIFEST_NAME] := by
    rw [gives.infolist, List.map_map, ← archived_names]
    rfl
  unfold check_contents
  simp only [names, paths_of_records]
  rw [if_pos]
  rw [Bool.and_eq_true, List.all_eq_true, List.all_eq_true]
  refine ⟨fun name member => ?_, fun path member => decide_eq_true (List.mem_append_left _ member)⟩
  rw [Bool.or_eq_true, decide_eq_true_eq, decide_eq_true_eq]
  exact (List.mem_append.mp member).elim Or.inr fun manifest => Or.inl (List.mem_singleton.mp manifest)

/-- The manifest that was written is accepted with its records, where it is not too large. -/
theorem read_manifest_given (documented : Documented library writer database tree schema_revision)
    (sound : Sound library database tree schema_revision) {archive : Archive}
    (gives : GivesBack archive (archived library writer database tree schema_revision))
    (small : backup_manifest_size writer.created_at schema_revision database tree ≤ MAX_MANIFEST_BYTES) :
    read_manifest library archive = .ok (.dict (manifest_members writer.created_at (records library database tree) schema_revision),
      .str (points schema_revision), records library database tree) := by
  have infos : check_infos library archive = .ok () := by
    rw [check_infos_archived documented sound.portable gives, if_neg (Nat.not_lt.mpr small)]
  have payload : archive.member MANIFEST_NAME = .ok (manifest_bytes writer.created_at (records library database tree) schema_revision) :=
    member_given gives manifest_archived
  have document : load_document library.loads "Backup manifest is not valid UTF-8 JSON"
      (manifest_bytes writer.created_at (records library database tree) schema_revision) =
        .ok (.dict (manifest_members writer.created_at (records library database tree) schema_revision)) := by
    rw [load_document_ok, documented.loads, value_of_manifest]
  have few : (records library database tree).length ≤ MAX_ARCHIVE_ENTRIES := by
    have all := @archived_few library writer database tree schema_revision sound.portable
    rw [archived, List.length_append, List.length_map, List.length_singleton] at all
    rw [records, List.length_map]
    omega
  have folded : ((records library database tree).map fun record => library.strings.names.casefold record.path).Nodup := by
    rw [records, List.map_map]
    exact (names_apart documented.names sound.portable).1
  have apart : (((([] : List Record) ++ records library database tree)).map (·.path)).Nodup := by
    refine List.Nodup.of_map library.strings.names.casefold ?_
    rw [List.nil_append, List.map_map]
    exact folded
  have room : (((([] : List Record) ++ records library database tree)).map (·.size_bytes)).sum ≤ MAX_UNCOMPRESSED_BYTES := by
    rw [List.nil_append, records_total]
    exact sound.total
  have listed := list_records_ok (records_recordable documented sound) apart room
  have database_listed : DATABASE_MEMBER ∈ (records library database tree).map (·.path) := List.mem_cons_self
  have some_file : records library database tree ≠ [] := List.cons_ne_nil _ _
  unfold read_manifest
  rw [infos, ok_bind, payload, ok_bind, document, ok_bind, manifest_of, ok_bind, heading_ok documented.fromisoformat, ok_bind,
    declaration_ok (known_revision_of_check sound.checked), ok_bind, values_ok some_file few, ok_bind, listed, ok_bind,
    List.nil_append, check_records_ok database_listed (records_sorted library database tree) folded, ok_bind, check_contents_archived gives]
  rfl

/-! ### The archive that is verified -/

theorem verify_members_given {archive : Archive} {files : List (Text × Bytes)} (gives : ∀ file ∈ files, archive.file_size file.1 = some file.2.length ∧ archive.member file.1 = .ok file.2) :
    (files.map (record library)).foldlM (verify_member library archive) () = .ok () := by
  induction files with
  | nil => rfl
  | cons file files ih =>
    obtain ⟨⟨size, content⟩, later⟩ := List.forall_mem_cons.mp gives
    have sized : matches_size archive (record library file) = true := by
      rw [matches_size, decide_eq_true_eq]
      show (archive.file_size file.1).map Int.ofNat = some (file.2.length : Int)
      rw [size]
      rfl
    have verified : verify_member library archive () (record library file) = .ok () := by
      rw [verify_member, if_pos sized]
      show (archive.member file.1 >>= fun _ => _) = _
      rw [content, ok_bind]
      exact if_pos rfl
    rw [List.map_cons, List.foldlM_cons, verified]
    exact ih later

/-- The records of a backup agree with those of the files, below the evidence directory. -/
theorem records_agree (closed : Tree.Closed tree) (components : ∀ entry ∈ tree, ∀ part ∈ entry.1, Component part) {archive : Archive}
    (gives : GivesBack archive (archived library writer database tree schema_revision)) :
    Agree (file_records library tree) (records library database tree) (read_bounded_file tree) archive.member where
  recorded := by
    intro member below
    have other : ¬DATABASE_MEMBER = member := fun same => absurd (same ▸ below) (by decide)
    have listed : records library database tree = record library (DATABASE_MEMBER, database) :: file_records library tree := by
      rw [records, backup_files, List.map_cons, List.map_map]
      rfl
    rw [record_of, record_of, listed, List.find?_cons_of_neg]
    exact fun found => other (of_decide_eq_true found)
  readable := by
    intro member record _ found small
    obtain ⟨file, inside, rfl, rfl⟩ := record_of_file found
    have small : file.2.length ≤ MAX_MANIFEST_BYTES := Int.ofNat_le.mp small
    rw [read_bounded_file_ok closed inside (components _ (mem_sorted_files.mp inside)) small]
    exact (member_given gives (file_archived (List.mem_cons_of_mem _ (List.mem_map_of_mem inside)))).symm

theorem verify_database_given (closed : Tree.Closed tree) (components : ∀ entry ∈ tree, ∀ part ∈ entry.1, Component part)
    (sound : Sound library database tree schema_revision)
    (apart : ((archived library writer database tree schema_revision).map Source.name).Nodup) {archive : Archive}
    (gives : GivesBack archive (archived library writer database tree schema_revision)) :
    verify_database library archive (.str (points schema_revision)) (records library database tree) = .ok () := by
  have inside := @file_archived library writer database tree schema_revision (DATABASE_MEMBER, database) List.mem_cons_self
  have content : archive.member DATABASE_MEMBER = .ok database := member_given gives inside
  have size : archive.file_size DATABASE_MEMBER = some database.length := file_size_given gives apart inside
  have digest : (record_of (records library database tree) DATABASE_MEMBER).map (·.sha256) = some (library.sha256 database) := rfl
  have referenced := sound.referenced
  rw [EvidenceReferences.database_evidence_agree (records_agree closed components gives)] at referenced
  unfold verify_database
  rw [content, ok_bind, if_neg (not_not.mpr size), if_neg (not_not.mpr digest), referenced]
  rfl

theorem archived_contents (deflate : Bytes → Bytes) (files : List (Text × Bytes)) (manifest : Source) :
    ((files.map source ++ [manifest]).map fun member => 50 + utf8_size member.name + (deflate member.content).length).sum =
      (files.map fun file => 50 + utf8_size file.1 + (deflate file.2).length).sum +
        (50 + utf8_size manifest.name + (deflate manifest.content).length) := by
  rw [List.map_append, List.map_map, List.sum_append, List.map_singleton, List.sum_singleton]
  rfl

theorem archived_entries (files : List (Text × Bytes)) (manifest : Source) :
    ((files.map source ++ [manifest]).map fun member => 74 + utf8_size member.name).sum =
      (files.map fun file => 74 + utf8_size file.1).sum + (74 + utf8_size manifest.name) := by
  rw [List.map_append, List.map_map, List.sum_append, List.map_singleton, List.sum_singleton]
  rfl

theorem natural_total (files : List (Text × Bytes)) :
    (((files.map fun file => file.2.length).sum : Nat) : Int) = (files.map fun file => (file.2.length : Int)).sum := by
  induction files with
  | nil => rfl
  | cons file files ih => rw [List.map_cons, List.sum_cons, List.map_cons, List.sum_cons, Int.natCast_add, ih]

section
variable (documented : Documented library writer database tree schema_revision)
  (small : backup_manifest_size writer.created_at schema_revision database tree ≤ MAX_MANIFEST_BYTES)
include documented small

theorem manifest_source_small : (manifest_source library writer database tree schema_revision).content.length ≤ MAX_MANIFEST_BYTES := by
  have length : (manifest_source library writer database tree schema_revision).content.length =
      backup_manifest_size writer.created_at schema_revision database tree := manifest_bytes_length documented.sha256
  exact length.trans_le small

omit documented in
theorem listed_small : listed_size (backup_files database tree) ≤ MAX_MANIFEST_BYTES := by
  rw [manifest_size_files] at small
  omega

omit documented in
theorem directory_small : (directory writer.deflate 0 (archived library writer database tree schema_revision)).length ≤ MAX_MANIFEST_BYTES + 87 := by
  have listed := listed_small small
  have entries := entries_listed (backup_files database tree)
  have name : utf8_size (manifest_source library writer database tree schema_revision).name = 13 := by
    show utf8_size MANIFEST_NAME = 13
    decide
  refine (DeflatedArchives.directory_length 0 _).trans ?_
  refine (archived_entries (backup_files database tree) (manifest_source library writer database tree schema_revision)).trans_le ?_
  omega

/-- The members take little more than their contents and the manifest do. -/
theorem files_small (total : total_size database (sorted_files tree) ≤ MAX_UNCOMPRESSED_BYTES) :
    ((archived library writer database tree schema_revision).flatMap (DeflatedArchives.local_file writer.deflate)).length ≤
      4 * 1024 * 1024 * 1024 + 8 * 1024 * 1024 := by
  have listed := listed_small small
  have manifest := manifest_source_small documented small
  have deflated := documented.deflate (manifest_source library writer database tree schema_revision).content
  have contents := contents_listed documented.deflate (backup_files database tree)
  have name : utf8_size (manifest_source library writer database tree schema_revision).name = 13 := by
    show utf8_size MANIFEST_NAME = 13
    decide
  rw [← backup_total, ← natural_total] at total
  refine (DeflatedArchives.files_length _).trans ?_
  refine (archived_contents writer.deflate (backup_files database tree) (manifest_source library writer database tree schema_revision)).trans_le ?_
  simp only [MAX_UNCOMPRESSED_BYTES, MAX_MANIFEST_BYTES] at *
  omega

/-- With a small manifest the archive is within every other limit. -/
theorem archive_bounded (sound : Sound library database tree schema_revision) :
    (archive_bytes library writer database tree schema_revision).length ≤ HostileArchives.MAX_ARCHIVE_BYTES ∧
      ZipDirectory.preflight_zip_directory (archive_bytes library writer database tree schema_revision) = .ok () := by
  have files := files_small documented small sound.total
  have entries := @directory_small library writer database tree schema_revision small
  have count := count_listed (backup_files database tree)
  have listed := listed_small small
  have few : (archived library writer database tree schema_revision).length = (backup_files database tree).length + 1 := by
    rw [archived, List.length_append, List.length_map, List.length_singleton]
  constructor
  · have ends := DeflatedArchives.end_records_length (archived library writer database tree schema_revision).length
      (directory writer.deflate 0 (archived library writer database tree schema_revision)).length
      ((archived library writer database tree schema_revision).flatMap (DeflatedArchives.local_file writer.deflate)).length
    rw [archive_bytes, written, List.length_append, List.length_append]
    simp only [MAX_MANIFEST_BYTES, HostileArchives.MAX_ARCHIVE_BYTES] at *
    omega
  · refine DeflatedArchives.preflight_written (archived_few sound.portable) ?_ ?_ ?_
    · simp only [MAX_MANIFEST_BYTES] at listed
      omega
    · refine entries.trans ?_
      decide
    · simp only [MAX_MANIFEST_BYTES] at entries
      omega

end

/-! ### Backups of sound data -/

/-- What was written of sound data is accepted exactly when its manifest is small. -/
theorem verify_backup_archive (documented : Documented library writer database tree schema_revision) (closed : Tree.Closed tree)
    (components : ∀ entry ∈ tree, ∀ part ∈ entry.1, Component part) (sound : Sound library database tree schema_revision) :
    Returns (verify_backup library (archive_bytes library writer database tree schema_revision)) ↔
      backup_manifest_size writer.created_at schema_revision database tree ≤ MAX_MANIFEST_BYTES := by
  obtain ⟨archive, opened, gives⟩ := documented.zip_file
  constructor
  · rintro ⟨document, verified⟩
    have infos := check_infos_archived documented sound.portable gives
    unfold verify_backup at verified
    cases ran : verify_stream library (archive_bytes library writer database tree schema_revision) with
    | error raised =>
      rw [ran] at verified
      cases verified
    | ok manifest =>
      unfold verify_stream at ran
      split at ran
      · cases ran
      obtain ⟨_, _, ran⟩ := bind_eq_ok.mp ran
      obtain ⟨same, zip_file, ran⟩ := bind_eq_ok.mp ran
      rw [opened] at zip_file
      cases zip_file
      obtain ⟨_, checked, _⟩ := bind_eq_ok.mp ran
      obtain ⟨_, read, _⟩ := bind_eq_ok.mp checked
      obtain ⟨_, passed, _⟩ := bind_eq_ok.mp read
      rw [infos] at passed
      split at passed
      · cases passed
      next fits => exact Nat.not_lt.mp fits
  · intro small
    obtain ⟨bounded, preflight⟩ := archive_bounded documented small sound
    have read := read_manifest_given documented sound gives small
    have members := @verify_members_given library archive (backup_files database tree) fun file inside =>
      ⟨file_size_given gives (archived_apart documented.names sound.portable) (file_archived inside), member_given gives (file_archived inside)⟩
    have database_kept := verify_database_given closed components sound (archived_apart documented.names sound.portable) gives
    refine ⟨.dict (manifest_members writer.created_at (records library database tree) schema_revision), ?_⟩
    have verified : verify_open_archive library archive = .ok (.dict (manifest_members writer.created_at (records library database tree) schema_revision),
        .str (points schema_revision), records library database tree) := by
      rw [verify_open_archive, read, ok_bind]
      show (((backup_files database tree).map (record library)).foldlM (verify_member library archive) () >>= fun _ => _) = _
      rw [members]
      rfl
    rw [verify_backup, verify_stream, if_neg (Nat.not_lt.mpr bounded), preflight, opened]
    show (verify_open_archive library archive >>= fun _ => _).mapError open_archive = _
    rw [verified, ok_bind]
    show (verify_database library archive (.str (points schema_revision)) (records library database tree) >>= fun _ => _).mapError open_archive = _
    rw [database_kept]
    rfl

end
end RedDock.CreatedBackups
