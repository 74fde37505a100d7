import RedDock.EvidenceFiles
import RedDock.EvidenceReferences
import RedDock.HostileArchives

/-!
# The live data of an installation

`_validate_live_data` hashes the files of the evidence directory and compares
them with the references in the database.
-/
set_option autoImplicit false
namespace RedDock.LiveData
open Text Fallible Trees Members Checks ManifestChecks EvidenceReferences
open EvidenceFiles (evidence_files Portable member_of by_name)
open DatabaseEvidence (MAX_MANIFEST_BYTES record_of check_database validate_database_evidence)
open HostileArchives (Library)

/-- The evidence directory: no name of an entry has a slash in it. -/
structure Evidence where
  tree : Tree Text Bytes
  closed : Tree.Closed tree
  components : ∀ entry ∈ tree, ∀ part ∈ entry.1, Component part

structure DataDirectory where
  database : Option Bytes
  evidence : Option Evidence

def Node.content? : Node Bytes → Option Bytes
  | .directory => none
  | .file content => some content

def content_of (tree : Tree Text Bytes) (path : Path Text) : Option Bytes := (tree.look path).bind Node.content?

/-- `_read_bounded_file` of a member below the evidence directory. -/
def read_bounded_file (tree : Tree Text Bytes) (member : Text) : Except Raised Bytes :=
  match content_of tree (parts member).tail with
  | none => .error .os_error
  | some content =>
    if MAX_MANIFEST_BYTES < content.length then refused "An evidence file is not a bounded regular file" else .ok content

section
variable (library : Library)

/-- One round of the loop over the evidence files. -/
def hash_source (tree : Tree Text Bytes) (database_size : Nat) (listed : List Record) (source : Text × Path Text) : Except Raised (List Record) :=
  match content_of tree source.2 with
  | none => .error .os_error
  | some content =>
    if MAX_UNCOMPRESSED_BYTES - (database_size + (listed.map (·.size_bytes)).sum) < content.length then
      refused "Restored evidence exceeds the fixed size limit"
    else .ok (listed ++ [⟨source.1, content.length, library.sha256 content⟩])

/-- `_validate_live_data` of a database and the evidence directory, if there is one. -/
def validate_files (database : Bytes) (evidence : Option (Tree Text Bytes)) : Except Raised Unit := do
  let tree := evidence.getD []
  let revision ← check_database database.length (library.connection database)
  let sources ← (evidence_files library.strings.names evidence).mapError Raised.backup_error
  if MAX_DATABASE_BYTES < (database.length : Int) then refused "Restored SQLite database exceeds the fixed size limit"
  else
    let records ← sources.foldlM (hash_source library tree database.length) []
    validate_database_evidence library.strings library.loads library.parse_int records (read_bounded_file tree) database.length
      (library.connection database) (.str (points revision))

/-- `_validate_live_data` -/
def validate_live_data (require_evidence : Bool) (data : DataDirectory) : Except Raised Unit :=
  match data.database with
  | none => refused "SQLite database must be a regular file"
  | some database =>
    if require_evidence && data.evidence.isNone then refused "Restored evidence directory must be present"
    else validate_files library database (data.evidence.map Evidence.tree)

/-! ### Records of the files -/

def by_member (first second : Path Text × Bytes) : Prop := Members.evidence_member first.1 ≤ Members.evidence_member second.1

instance : DecidableRel by_member := fun first second =>
  inferInstanceAs (Decidable (Members.evidence_member first.1 ≤ Members.evidence_member second.1))

/-- The files of a tree in the order of their members. -/
def sorted_files (tree : Tree Text Bytes) : List (Path Text × Bytes) := tree.files.insertionSort by_member

/-- The record of a file. -/
def file_record (file : Path Text × Bytes) : Record := ⟨Members.evidence_member file.1, file.2.length, library.sha256 file.2⟩

def file_records (tree : Tree Text Bytes) : List Record := (sorted_files tree).map (file_record library)

/-- The number of bytes in a database and in files. -/
def total_size (database : Bytes) (files : List (Path Text × Bytes)) : Int := database.length + (files.map fun file => (file.2.length : Int)).sum

/-- What live data that is accepted is. -/
structure Sound (database : Bytes) (tree : Tree Text Bytes) (revision : Text) : Prop where
  checked : check_database database.length (library.connection database) = .ok revision
  portable : Portable library.strings.names tree
  bounded : (database.length : Int) ≤ MAX_DATABASE_BYTES
  total : total_size database (sorted_files tree) ≤ MAX_UNCOMPRESSED_BYTES
  referenced : validate_database_evidence library.strings library.loads library.parse_int (file_records library tree) (read_bounded_file tree)
    database.length (library.connection database) (.str (points revision)) = .ok ()

end

section
variable {library : Library} {tree : Tree Text Bytes} {database : Bytes}

theorem sorted_perm (tree : Tree Text Bytes) : (sorted_files tree).Perm tree.files := List.perm_insertionSort _ _

theorem mem_sorted_files {file : Path Text × Bytes} : file ∈ sorted_files tree ↔ (file.1, Node.file file.2) ∈ tree :=
  (sorted_perm tree).mem_iff.trans Tree.mem_files

theorem content_of_file (closed : Tree.Closed tree) {file : Path Text × Bytes} (member : file ∈ sorted_files tree) :
    content_of tree file.1 = some file.2 := by
  rw [content_of, closed.look (mem_sorted_files.mp member)]
  rfl

/-- The members that `_evidence_files` lists, in their order. -/
theorem members_sorted (tree : Tree Text Bytes) : (tree.files.map member_of).insertionSort by_name = (sorted_files tree).map member_of :=
  (List.map_insertionSort by_member by_name member_of tree.files fun _ _ _ _ => Iff.rfl).symm

theorem evidence_files_tree (evidence : Option (Tree Text Bytes)) :
    evidence_files library.strings.names evidence = evidence_files library.strings.names (some (evidence.getD [])) := by
  cases evidence with
  | some tree => rfl
  | none => rfl

theorem hash_source_file {database_size : Nat} (closed : Tree.Closed tree) (listed : List Record) {file : Path Text × Bytes}
    (member : file ∈ sorted_files tree) :
    hash_source library tree database_size listed (member_of file) =
      if MAX_UNCOMPRESSED_BYTES < database_size + (listed.map (·.size_bytes)).sum + file.2.length then
        refused "Restored evidence exceeds the fixed size limit"
      else .ok (listed ++ [file_record library file]) := by
  have same : MAX_UNCOMPRESSED_BYTES - (database_size + (listed.map (·.size_bytes)).sum) < file.2.length ↔
      MAX_UNCOMPRESSED_BYTES < database_size + (listed.map (·.size_bytes)).sum + file.2.length := by omega
  rw [hash_source, show content_of tree (member_of file).2 = some file.2 from content_of_file closed member]
  simp only [same]
  rfl

/-- The files are hashed as long as they fit beside the database. -/
theorem hash_sources_ok (closed : Tree.Closed tree) {files : List (Path Text × Bytes)} (inside : ∀ file ∈ files, file ∈ sorted_files tree)
    {listed records : List Record} (room : database.length + (listed.map (·.size_bytes)).sum ≤ MAX_UNCOMPRESSED_BYTES) :
    (files.map member_of).foldlM (hash_source library tree database.length) listed = .ok records ↔
      total_size database files + (listed.map (·.size_bytes)).sum ≤ MAX_UNCOMPRESSED_BYTES ∧ records = listed ++ files.map (file_record library) := by
  induction files generalizing listed with
  | nil =>
    simp only [List.map_nil, List.foldlM_nil, total_size, List.sum_nil, Int.add_zero, List.append_nil, room, true_and]
    exact ⟨fun same => (Except.ok.inj same).symm, fun same => congrArg Except.ok same.symm⟩
  | cons file files ih =>
    obtain ⟨here, later⟩ := List.forall_mem_cons.mp inside
    rw [List.map_cons, List.foldlM_cons, hash_source_file closed listed here]
    have total : total_size database (file :: files) = total_size database files + file.2.length := by
      simp only [total_size, List.map_cons, List.sum_cons]
      omega
    have rest : 0 ≤ (files.map fun file => (file.2.length : Int)).sum :=
      List.sum_nonneg fun size member => by
        obtain ⟨other, _, rfl⟩ := List.mem_map.mp member
        exact Int.natCast_nonneg _
    have size : ((listed ++ [file_record library file]).map (·.size_bytes)).sum = (listed.map (·.size_bytes)).sum + file.2.length := by
      simp [file_record]
    split
    next large =>
      refine iff_of_false (fun failed => by cases failed) fun both => ?_
      have fits := both.1
      rw [total, total_size] at fits
      omega
    next small =>
      rw [ok_bind, ih later (by rw [size]; omega), size, total, List.append_assoc]
      have arrange : total_size database files + ((listed.map (·.size_bytes)).sum + file.2.length) =
          total_size database files + file.2.length + (listed.map (·.size_bytes)).sum := by omega
      rw [arrange]
      rfl

/-- `_validate_live_data` accepts data that is sound. -/
theorem validate_files_ok {evidence : Option (Tree Text Bytes)} (closed : Tree.Closed (evidence.getD [])) :
    validate_files library database evidence = .ok () ↔ ∃ revision, Sound library database (evidence.getD []) revision := by
  unfold validate_files
  rw [bind_eq_ok, evidence_files_tree]
  refine exists_congr fun revision => ?_
  rw [bind_eq_ok]
  have listed : ∀ sources, (evidence_files library.strings.names (some (evidence.getD []))).mapError Raised.backup_error = .ok sources ↔
      Portable library.strings.names (evidence.getD []) ∧ sources = (sorted_files (evidence.getD [])).map member_of := by
    intro sources
    rw [← members_sorted, ← EvidenceFiles.evidence_files_ok closed]
    cases evidence_files library.strings.names (some (evidence.getD [])) <;> simp [Except.mapError]
  have hashed : ∀ records, (database.length : Int) ≤ MAX_DATABASE_BYTES →
      (((sorted_files (evidence.getD [])).map member_of).foldlM (hash_source library (evidence.getD []) database.length) [] = .ok records ↔
        total_size database (sorted_files (evidence.getD [])) ≤ MAX_UNCOMPRESSED_BYTES ∧ records = file_records library (evidence.getD [])) := by
    intro records bounded
    have fits : (database.length : Int) + (([] : List Record).map (·.size_bytes)).sum ≤ MAX_UNCOMPRESSED_BYTES := by
      simp only [List.map_nil, List.sum_nil, MAX_DATABASE_BYTES, MAX_UNCOMPRESSED_BYTES] at bounded ⊢
      omega
    simpa [file_records] using hash_sources_ok closed (fun file member => member) fits
  constructor
  · rintro ⟨checked, sources, lists, ran⟩
    obtain ⟨portable, rfl⟩ := (listed sources).mp lists
    split at ran
    · cases ran
    next small =>
      have bounded := Int.not_lt.mp small
      obtain ⟨records, hashes, referenced⟩ := bind_eq_ok.mp ran
      obtain ⟨total, rfl⟩ := (hashed records bounded).mp hashes
      exact ⟨checked, portable, bounded, total, referenced⟩
  · intro sound
    refine ⟨sound.checked, _, (listed _).mpr ⟨sound.portable, rfl⟩, ?_⟩
    rw [if_neg (Int.not_lt.mpr sound.bounded)]
    exact bind_eq_ok.mpr ⟨_, (hashed _ sound.bounded).mpr ⟨sound.total, rfl⟩, sound.referenced⟩

/-- A file that is no longer than a manifest is read by its member. -/
theorem read_bounded_file_ok (closed : Tree.Closed tree) {file : Path Text × Bytes} (member : file ∈ sorted_files tree)
    (components : ∀ part ∈ file.1, Component part) (small : file.2.length ≤ MAX_MANIFEST_BYTES) :
    read_bounded_file tree (Members.evidence_member file.1) = .ok file.2 := by
  have nonempty : file.1 ≠ [] := closed.named _ (mem_sorted_files.mp member)
  rw [read_bounded_file, parts_evidence_member nonempty components, List.tail_cons, content_of_file closed member]
  simp only
  rw [if_neg (Nat.not_lt.mpr small)]

/-- The record of a member below the evidence directory is that of a file. -/
theorem record_of_file {member : Text} {record : Record} (found : record_of (file_records library tree) member = some record) :
    ∃ file ∈ sorted_files tree, record = file_record library file ∧ Members.evidence_member file.1 = member := by
  obtain ⟨listed, named⟩ := DatabaseEvidence.record_of_some found
  obtain ⟨file, inside, rfl⟩ := List.mem_map.mp listed
  exact ⟨file, inside, rfl, named⟩

end
end RedDock.LiveData
