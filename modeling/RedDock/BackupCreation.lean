import RedDock.CreatedBackups

/-!
# Data that can be backed up

A data directory that is accepted as live data is backed up exactly when its
manifest is within the limit. Some thousands of small files are too many.
-/
set_option autoImplicit false
namespace RedDock.BackupCreation
open Text Bytes Fallible Trees Members Checks ManifestChecks LiveData BackupManifests CreatedBackups
open DatabaseEvidence (MAX_MANIFEST_BYTES Connection check_database)
open HostileArchives (Library Archive verify_backup)
open DeflatedArchives (Source)
open EvidenceFiles (Portable)

/-- The tree of the evidence directory; without one, an empty tree. -/
def tree_of (data : DataDirectory) : Tree Text Bytes := (data.evidence.map Evidence.tree).getD []

theorem tree_closed (data : DataDirectory) : Tree.Closed (tree_of data) := by
  unfold tree_of
  cases data.evidence with
  | none => exact Tree.filled_nil.closed
  | some evidence => exact evidence.closed

theorem tree_components (data : DataDirectory) : ∀ entry ∈ tree_of data, ∀ part ∈ entry.1, Component part := by
  unfold tree_of
  cases data.evidence with
  | none => exact fun entry member => absurd member List.not_mem_nil
  | some evidence => exact evidence.components

/-- The size of the manifest of a backup, by the revision of the database, the time
    and the names and sizes of the files. -/
def data_manifest_size (library : Library) (created_at : Text) (data : DataDirectory) : Nat :=
  match data.database with
  | none => 0
  | some database => match check_database database.length (library.connection database) with
    | .error _ => 0
    | .ok schema_revision => backup_manifest_size created_at schema_revision database (tree_of data)

/-- What the libraries are documented to do for a backup of this data. -/
def DocumentedFor (library : Library) (writer : Writer) (data : DataDirectory) : Prop :=
  ∀ database schema_revision, data.database = some database → check_database database.length (library.connection database) = .ok schema_revision →
    Documented library writer database (tree_of data) schema_revision

section
variable {library : Library} {writer : Writer} {data : DataDirectory}

/-- A backup of sound data is created exactly when its manifest is small. -/
theorem create_backup_sound {database : Bytes} {schema_revision : Text} (is : data.database = some database)
    (documented : Documented library writer database (tree_of data) schema_revision) (sound : Sound library database (tree_of data) schema_revision) :
    (∃ file, create_backup_locked library writer data = .ok file ∧ ∃ manifest, verify_backup library file = .ok manifest) ↔
      backup_manifest_size writer.created_at schema_revision database (tree_of data) ≤ MAX_MANIFEST_BYTES := by
  have verified := verify_backup_archive documented (tree_closed data) (tree_components data) sound
  have wrote : write_archive library writer database (data.evidence.map Evidence.tree) schema_revision = _ :=
    write_archive_sound (tree_closed data) sound
  rw [← verified]
  unfold create_backup_locked
  simp only [is, if_neg (Int.not_lt.mpr sound.bounded), sound.checked, ok_bind, wrote]
  show (∃ file, ((verify_backup library (archive_bytes library writer database (tree_of data) schema_revision)).map fun _ =>
    archive_bytes library writer database (tree_of data) schema_revision).mapError filesystem_failed = .ok file ∧ _) ↔ _
  cases ran : verify_backup library (archive_bytes library writer database (tree_of data) schema_revision) with
  | error raised => simp [Except.map, Except.mapError]
  | ok manifest =>
    refine iff_of_true ⟨archive_bytes library writer database (tree_of data) schema_revision, rfl, manifest, ran⟩ (returns_ok manifest)

theorem sound_of_valid {require_evidence : Bool} (valid : validate_live_data library require_evidence data = .ok ()) :
    ∃ database schema_revision, data.database = some database ∧ Sound library database (tree_of data) schema_revision := by
  unfold validate_live_data at valid
  split at valid
  · cases valid
  next database is =>
    split at valid
    · cases valid
    · obtain ⟨schema_revision, sound⟩ := (validate_files_ok (tree_closed data)).mp valid
      exact ⟨database, schema_revision, is, sound⟩

end

/-! ### Numbered files -/

def CREATED_AT : Text := "2026-01-01T00:00:00+00:00".toList
def REVISION : Text := "0006_session_lifecycle".toList

/-- The first bytes of a database. -/
def sample_database : Bytes := utf8 "SQLite format 3\x00".toList

/-- A database of the last revision whose tables are empty. -/
def sample_connection : Connection where
  connect := .ok ()
  quick_check := .ok true
  foreign_key_check := .ok false
  version_num := .ok [.text REVISION]
  validate_schema _ := .ok ()
  tables := [.ok "alembic_version".toList, .ok "evidence_records".toList, .ok "report_runs".toList]
  evidence_records := []
  runs _ := []

/-- SHA-256 of nothing, and of the sample database. -/
def sample_sha256 (content : Bytes) : Text :=
  if content = [] then "e3b0c44298fc1c149afbf4c8996fb92427ae41e4649b934ca495991b7852b855".toList
  else "3f8434aff012ffcb594ad7527d6042841ce94f499887f86ab828f84a9a275f91".toList

/-- One stored block, which holds up to 65535 bytes. -/
def stored_block (content : Bytes) : Bytes := 1 :: (little 2 content.length ++ little 2 (0xFFFF - content.length) ++ content)

def sample_writer : Writer := ⟨stored_block, CREATED_AT⟩

def sample_names : Names := ⟨id, List.map Char.toLower⟩

/-- Libraries that read nothing back yet. -/
def bare_library : Library where
  strings := {
    names := sample_names
    normal := fun _ => true
    isdecimal := Char.isDigit
    fromisoformat := fun created => if created = points CREATED_AT then some (some 0) else none }
  loads _ := .error .json_decode_error
  sha256 := sample_sha256
  parse_int _ := none
  zip_file _ := .error .bad_zip_file
  connection _ := sample_connection
  finite := fun _ _ _ _ member => absurd member List.not_mem_nil

def archive_of (members : List Source) : Archive where
  infolist := members.map info
  read name := ((members.find? fun member => decide (member.name = name)).map (·.content)).elim (.error .bad_zip_file) .ok

/-- Libraries that read back one backup. -/
def sample_library (tree : Tree Text Bytes) : Library := { bare_library with
  loads := fun _ => .ok (value_of (manifest_json CREATED_AT (records bare_library sample_database tree) REVISION))
  zip_file := fun _ => .ok (archive_of (archived bare_library sample_writer sample_database tree REVISION)) }

/-- Empty files with numbers for names. -/
def numbered (count : Nat) : Tree Text Bytes := (List.range count).map fun i => ([dec i], .file [])

section
variable {count : Nat}

theorem mem_numbered {entry : Path Text × Node Bytes} : entry ∈ numbered count ↔ ∃ i < count, ([dec i], .file []) = entry := by
  simp only [numbered, List.mem_map, List.mem_range]

theorem dec_injective : Function.Injective dec := fun i j same => by
  rw [← ofDec_dec i, same, ofDec_dec]

theorem numbered_names : (numbered count).map Prod.fst = (List.range count).map fun i => [dec i] := by
  rw [numbered, List.map_map]
  rfl

theorem numbered_closed (count : Nat) : Tree.Closed (numbered count) where
  once := by
    rw [numbered_names]
    exact List.Nodup.map (fun i j same => dec_injective (List.cons.inj same).1) List.nodup_range
  named := by
    intro entry member
    obtain ⟨i, _, rfl⟩ := mem_numbered.mp member
    exact List.cons_ne_nil _ _
  parents := by
    intro entry member
    obtain ⟨i, _, rfl⟩ := mem_numbered.mp member
    exact Tree.look_root

theorem digit_of_dec {i : Nat} {c : Char} (member : c ∈ dec i) : 48 ≤ c.toNat ∧ c.toNat ≤ 57 := by
  have digit := isDigit_of_mem_dec member
  simp only [Char.isDigit, Bool.and_eq_true, decide_eq_true_eq, ge_iff_le, UInt32.le_iff_toNat_le] at digit
  exact digit

theorem not_mem_dec {i : Nat} {c : Char} (other : c.isDigit = false) : c ∉ dec i := fun member => by
  rw [isDigit_of_mem_dec member] at other
  cases other

theorem component_dec (i : Nat) : Component (dec i) :=
  ⟨dec_ne_nil i, fun dot => not_mem_dec (by decide) (dot ▸ List.mem_singleton_self '.'), not_mem_dec (by decide)⟩

def numbered_evidence (count : Nat) : Evidence where
  tree := numbered count
  closed := numbered_closed count
  components := by
    intro entry member part inside
    obtain ⟨i, _, rfl⟩ := mem_numbered.mp member
    rw [List.mem_singleton.mp inside]
    exact component_dec i

def numbered_data (count : Nat) : DataDirectory := ⟨some sample_database, some (numbered_evidence count)⟩

/-- No number is a reserved name. -/
theorem not_reserved (i : Nat) : dec i ∉ WINDOWS_RESERVED := by
  intro reserved
  have start : (WINDOWS_RESERVED.all fun name => name.any fun c => !c.isDigit) = true := by decide
  obtain ⟨c, member, other⟩ := List.any_eq_true.mp (List.all_eq_true.mp start _ reserved)
  rw [isDigit_of_mem_dec member] at other
  cases other

theorem toLower_other {c : Char} (other : c.isUpper = false) : c.toLower = c := by
  rw [Char.toLower, dif_neg]
  intro upper
  have is : c.isUpper = true := decide_eq_true upper
  rw [is] at other
  cases other

theorem plain_names : PlainNames sample_names where
  nfc := fun _ _ => rfl
  casefold_append := fun _ _ => List.map_append
  casefold := by
    intro t _ lower
    have same : ∀ c ∈ t, c.toLower = c := fun c member => toLower_other (by simpa using List.all_eq_true.mp lower c member)
    exact (List.map_congr_left same).trans (List.map_id _)

theorem digit_ascii {i : Nat} {c : Char} (member : c ∈ dec i) : c.toNat < 128 ∧ c.isUpper = false := by
  obtain ⟨_, high⟩ := digit_of_dec member
  refine ⟨by omega, Bool.eq_false_iff.mpr fun upper => ?_⟩
  simp only [Char.isUpper, decide_eq_true_eq, ge_iff_le, UInt32.le_iff_toNat_le] at upper
  have low : 65 ≤ c.toNat := upper.1
  omega

theorem casefold_dec (i : Nat) : sample_names.casefold (dec i) = dec i :=
  plain_names.casefold _ (List.all_eq_true.mpr fun _ member => decide_eq_true (digit_ascii member).1)
    (List.all_eq_true.mpr fun _ member => by rw [(digit_ascii member).2]; rfl)

theorem evidence_member_dec (i : Nat) : Members.evidence_member [dec i] = "evidence/".toList ++ dec i :=
  congrArg ("evidence/".toList ++ ·) List.intercalate_singleton

/-- A numbered file has a portable name. -/
theorem safe_numbered {i : Nat} (few : i < 100000) : safe_member sample_names (Members.evidence_member [dec i]) = true := by
  have short : (dec i).length ≤ 5 := dec_length_le (by decide) few
  have name := evidence_member_dec i
  have clear : ∀ c : Char, c.isDigit = false → c ∉ "evidence/".toList → c ∉ Members.evidence_member [dec i] := by
    intro c other outside member
    rw [name] at member
    exact (List.mem_append.mp member).elim outside (not_mem_dec other)
  have evidence : safe_part sample_names EVIDENCE = true := by decide
  have number : safe_part sample_names (dec i) = true := by
    have whole : (dec i).takeWhile (· ≠ '.') = dec i :=
      List.takeWhile_eq_self_iff.mpr fun c member => decide_eq_true fun dot => not_mem_dec (by decide) (dot ▸ member)
    have last : (dec i).getLast? ∉ [some ' ', some '.'] := by
      intro ends
      rcases List.mem_cons.mp ends with blank | ends
      · exact not_mem_dec (by decide) (List.mem_of_getLast? blank)
      · exact not_mem_dec (by decide) (List.mem_of_getLast? (List.mem_singleton.mp ends))
    have named : dec i ∉ [[], ['.'], ['.', '.']] := by
      intro bad
      simp only [List.mem_cons, List.not_mem_nil, or_false] at bad
      rcases bad with empty | dot | dots
      · exact dec_ne_nil i empty
      · exact not_mem_dec (by decide) (dot ▸ List.mem_cons_self)
      · exact not_mem_dec (by decide) (dots ▸ List.mem_cons_self)
    have control : ((dec i).any fun c => c.toNat < 32 || c.toNat = 127) = false := by
      refine List.any_eq_false.mpr fun c member => ?_
      obtain ⟨low, high⟩ := digit_of_dec member
      simp only [Bool.or_eq_true, decide_eq_true_eq, not_or]
      omega
    rw [safe_part, whole, casefold_dec, JsonSizes.dec_size, control]
    simp only [decide_eq_true named, decide_eq_true last, decide_eq_true (not_reserved i), decide_eq_true (short.trans (by decide : 5 ≤ 255))]
    rfl
  have parts_are := parts_evidence_member (List.cons_ne_nil (dec i) []) fun part member => List.mem_singleton.mp member ▸ component_dec i
  have posix : as_posix (parts (Members.evidence_member [dec i])) = Members.evidence_member [dec i] := by
    rw [parts_are, as_posix, if_neg (List.cons_ne_nil _ _), evidence_member_eq (List.cons_ne_nil _ _)]
  have length : (Members.evidence_member [dec i]).length ≤ 1024 := by
    rw [name, List.length_append]
    have nine : "evidence/".toList.length = 9 := by decide
    omega
  have marks : (Members.evidence_member [dec i]).any (· ∈ ['<', '>', '"', '|', '?', '*']) = false := by
    refine List.any_eq_false.mpr fun c member => ?_
    rw [decide_eq_true_eq]
    intro mark
    simp only [List.mem_cons, List.not_mem_nil, or_false] at mark
    rcases mark with rfl | rfl | rfl | rfl | rfl | rfl
    all_goals exact clear _ (by decide) (by decide) member
  have head : (Members.evidence_member [dec i]).head? ≠ some '/' := by
    rw [name]
    exact fun same => absurd (Option.some.inj same) (by decide)
  have nonempty : Members.evidence_member [dec i] ≠ [] := fun empty => by
    rw [empty] at length posix
    exact absurd posix (by decide)
  have normal : sample_names.nfc (Members.evidence_member [dec i]) = Members.evidence_member [dec i] := rfl
  rw [safe_member, normal, posix, parts_are, List.all_cons, List.all_cons, evidence, number, marks]
  simp only [decide_eq_true nonempty, decide_eq_true length, decide_eq_true (clear '\\' (by decide) (by decide)),
    decide_eq_true (clear ':' (by decide) (by decide)), decide_eq_true (clear '\x00' (by decide) (by decide)), decide_eq_true head]
  rfl

theorem numbered_files (count : Nat) : (numbered count).files = (List.range count).map fun i => ([dec i], []) := by
  rw [Tree.files, numbered, List.filterMap_map]
  exact congrFun List.filterMap_eq_map _

theorem numbered_directories (count : Nat) : (numbered count).directories = [] := by
  refine List.eq_nil_iff_forall_not_mem.mpr fun path member => ?_
  obtain ⟨i, _, same⟩ := mem_numbered.mp (Tree.mem_directories.mp member)
  cases same

theorem numbered_portable (few : count < 100000) : Portable sample_names (numbered count) where
  depth := by
    rw [numbered_directories]
    exact fun path member => absurd member List.not_mem_nil
  directories := by
    rw [numbered_directories]
    decide
  files := by
    rw [numbered_files, List.length_map, List.length_range]
    exact Nat.le_of_lt_succ few
  safe := by
    intro file member
    rw [numbered_files] at member
    obtain ⟨i, inside, rfl⟩ := List.mem_map.mp member
    exact safe_numbered ((List.mem_range.mp inside).trans few)
  apart := by
    have folded : ∀ i, sample_names.casefold (Members.evidence_member [dec i]) = "evidence/".toList ++ dec i := by
      intro i
      have kept : sample_names.casefold "evidence/".toList = "evidence/".toList := by decide
      rw [evidence_member_dec, plain_names.casefold_append, casefold_dec]
      exact congrArg (· ++ dec i) kept
    rw [numbered_files, List.map_map]
    refine List.Nodup.map (fun i j same => dec_injective ?_) List.nodup_range
    simp only [Function.comp_apply, folded] at same
    exact List.append_cancel_left same

theorem numbered_total (count : Nat) : total_size sample_database (sorted_files (numbered count)) = 16 := by
  have empty : ((sorted_files (numbered count)).map fun file => (file.2.length : Int)).sum = 0 := by
    refine List.sum_eq_zero fun size member => ?_
    obtain ⟨⟨path, content⟩, inside, rfl⟩ := List.mem_map.mp member
    obtain ⟨i, _, same⟩ := mem_numbered.mp (mem_sorted_files.mp inside)
    cases same
    rfl
  rw [total_size, empty]
  decide

theorem numbered_sound (few : count < 100000) : Sound (sample_library (numbered count)) sample_database (numbered count) REVISION where
  checked := rfl
  portable := numbered_portable few
  bounded := by decide
  total := by
    rw [numbered_total]
    decide
  referenced := rfl

/-- The archive gives back its members. -/
theorem archive_of_gives {members : List Source} (apart : (members.map Source.name).Nodup) : GivesBack (archive_of members) members where
  infolist := rfl
  read := by
    intro member inside
    have found : members.find? (fun other => decide (other.name = member.name)) = some member := KeyedRows.find_key apart inside
    show ((members.find? fun other => decide (other.name = member.name)).map (·.content)).elim _ _ = _
    rw [found]
    rfl

theorem literal_digest {characters : List Char} (digest : valid_sha256 (points characters) = true) :
    valid_sha256 (points (String.ofList characters).toList) = true := by
  rw [String.toList_ofList]
  exact digest

theorem sample_sha256_digest (content : Bytes) : valid_sha256 (points (sample_sha256 content)) = true := by
  unfold sample_sha256
  split <;> exact literal_digest (by decide)

theorem numbered_documented (few : count < 100000) :
    Documented (sample_library (numbered count)) sample_writer sample_database (numbered count) REVISION where
  zip_file := ⟨_, rfl, archive_of_gives (archived_apart plain_names (numbered_portable few))⟩
  deflate := by
    intro content
    simp only [sample_writer, stored_block, List.length_cons, List.length_append, length_little]
    omega
  loads := rfl
  fromisoformat := rfl
  sha256 := sample_sha256_digest
  names := plain_names

/-- Files with names of ten bytes and more take 147 bytes of the manifest and more. -/
theorem listed_at_least {files : List (Path Text × Bytes)} (long : ∀ file ∈ files, 10 ≤ utf8_size (Members.evidence_member file.1)) :
    147 * files.length ≤ listed_size (files.map fun file => (Members.evidence_member file.1, file.2)) := by
  induction files with
  | nil => exact Nat.zero_le _
  | cons file files ih =>
    obtain ⟨here, later⟩ := List.forall_mem_cons.mp long
    have first : 137 + utf8_size (Members.evidence_member file.1) + listed_size (files.map fun file => (Members.evidence_member file.1, file.2)) ≤
        listed_size ((Members.evidence_member file.1, file.2) :: files.map fun file => (Members.evidence_member file.1, file.2)) :=
      listed_size_cons (Members.evidence_member file.1, file.2) _
    have rest := ih later
    rw [List.map_cons, List.length_cons]
    omega

theorem numbered_manifest (count : Nat) :
    147 * count ≤ backup_manifest_size CREATED_AT REVISION sample_database (numbered count) := by
  have long : ∀ file ∈ sorted_files (numbered count), 10 ≤ utf8_size (Members.evidence_member file.1) := by
    rintro ⟨path, content⟩ member
    obtain ⟨i, _, same⟩ := mem_numbered.mp (mem_sorted_files.mp member)
    cases same
    have nine : utf8_size "evidence/".toList = 9 := by decide
    have digits := List.length_pos_iff.mpr (dec_ne_nil i)
    rw [evidence_member_dec, utf8_size_append, JsonSizes.dec_size, nine]
    omega
  have listed := listed_at_least long
  have length : (sorted_files (numbered count)).length = count := by
    rw [(sorted_perm _).length_eq, numbered_files, List.length_map, List.length_range]
  have first := listed_size_cons (DATABASE_MEMBER, sample_database) ((sorted_files (numbered count)).map fun file => (Members.evidence_member file.1, file.2))
  rw [manifest_size_files, backup_files]
  rw [length] at listed
  omega

theorem numbered_valid (few : count < 100000) : validate_live_data (sample_library (numbered count)) true (numbered_data count) = .ok () :=
  (@validate_files_ok _ _ (some (numbered count)) (numbered_closed count)).mpr ⟨REVISION, numbered_sound few⟩

theorem numbered_documented_for (few : count < 100000) : DocumentedFor (sample_library (numbered count)) sample_writer (numbered_data count) := by
  intro database schema_revision is checked
  cases is
  have same : (Except.ok schema_revision : Except Raised Text) = .ok REVISION := checked.symm.trans (numbered_sound few).checked
  cases same
  exact numbered_documented few

/-- Too many numbered files cannot be backed up. -/
theorem numbered_refused (few : count < 100000) (many : MAX_MANIFEST_BYTES < 147 * count) :
    ¬∃ file, create_backup_locked (sample_library (numbered count)) sample_writer (numbered_data count) = .ok file ∧
      ∃ manifest, verify_backup (sample_library (numbered count)) file = .ok manifest := by
  intro created
  have documented : Documented (sample_library (numbered count)) sample_writer sample_database (tree_of (numbered_data count)) REVISION :=
    numbered_documented few
  have small := (create_backup_sound rfl documented (numbered_sound few)).mp created
  exact absurd ((numbered_manifest count).trans small) (Nat.not_le.mpr many)

end

/-! ### Data that is backed up -/

/-- Live data that is accepted is backed up exactly when the manifest is within its limit. -/
theorem create_backup_accepted (library : Library) (writer : Writer) (require_evidence : Bool) (data : DataDirectory)
    (documented : DocumentedFor library writer data) (valid : validate_live_data library require_evidence data = .ok ()) :
    (∃ file, create_backup_locked library writer data = .ok file ∧ ∃ manifest, verify_backup library file = .ok manifest) ↔
      data_manifest_size library writer.created_at data ≤ MAX_MANIFEST_BYTES := by
  obtain ⟨database, schema_revision, is, sound⟩ := sound_of_valid valid
  have size : data_manifest_size library writer.created_at data = backup_manifest_size writer.created_at schema_revision database (tree_of data) := by
    simp only [data_manifest_size, is, sound.checked]
  rw [size]
  exact create_backup_sound is (documented database schema_revision is sound.checked) sound

theorem one_file_backed_up : (∃ file, create_backup_locked (sample_library (numbered 1)) sample_writer (numbered_data 1) = .ok file ∧
      ∃ manifest, verify_backup (sample_library (numbered 1)) file = .ok manifest) ↔
    data_manifest_size (sample_library (numbered 1)) CREATED_AT (numbered_data 1) ≤ MAX_MANIFEST_BYTES :=
  create_backup_accepted (sample_library (numbered 1)) sample_writer true (numbered_data 1) (numbered_documented_for (by decide))
    (numbered_valid (by decide))

/-- 8000 empty files are accepted as live data and cannot be backed up. -/
theorem many_files_refused : ¬∀ (library : Library) (writer : Writer) (data : DataDirectory), DocumentedFor library writer data →
    validate_live_data library true data = .ok () →
      ∃ file, create_backup_locked library writer data = .ok file ∧ ∃ manifest, verify_backup library file = .ok manifest := by
  intro backed_up
  have few : 8000 < 100000 := by decide
  exact numbered_refused few (by decide) (backed_up _ _ _ (numbered_documented_for few) (numbered_valid few))

end RedDock.BackupCreation
