import RedDock.BackupManifests
import RedDock.HostileArchives

/-!
# What an accepted archive is

The records of a manifest that is accepted, and the members that they list.
-/
set_option autoImplicit false
namespace RedDock.AcceptedManifests
open Text Fallible Members Checks ManifestChecks BackupManifests
open HostileArchives hiding MAX_ARCHIVE_BYTES
open DatabaseEvidence (validate_database_evidence check_database record_of)

section
variable {strings : Strings}

/-! ### Names that are encoded -/

theorem of_whole {s : PyStr} (whole : s.all (·.char?.isSome) = true) : s = points (text_of s) := by
  induction s with
  | nil => rfl
  | cons point rest ih =>
    rw [List.all_cons, Bool.and_eq_true] at whole
    cases point with
    | char c =>
      have later := ih whole.2
      show Point.char c :: rest = points (c :: text_of rest)
      rw [show points (c :: text_of rest) = Point.char c :: points (text_of rest) from rfl, ← later]
    | surrogate low => cases whole.1

theorem safe_part_of_whole {part : PyStr} (safe : safe_part_of strings part = .ok true) : part.all (·.char?.isSome) = true := by
  unfold safe_part_of at safe
  split at safe
  · cases safe
  · obtain ⟨size, encoded, _⟩ := bind_eq_ok.mp safe
    unfold encoded_size at encoded
    split at encoded
    next whole => exact whole
    · cases encoded

theorem safe_parts_of_whole {list : List PyStr} (safe : safe_parts_of strings list = .ok true) :
    ∀ part ∈ list, part.all (·.char?.isSome) = true := by
  induction list with
  | nil => exact fun part member => absurd member List.not_mem_nil
  | cons first rest ih =>
    obtain ⟨passed, here, later⟩ := bind_eq_ok.mp safe
    cases passed with
    | false => cases later
    | true => exact List.forall_mem_cons.mpr ⟨safe_part_of_whole here, ih later⟩

theorem intercalate_whole {list : List PyStr} (whole : ∀ part ∈ list, part.all (·.char?.isSome) = true) :
    (List.intercalate (points ['/']) list).all (·.char?.isSome) = true := by
  induction list with
  | nil => rfl
  | cons first rest ih =>
    obtain ⟨here, later⟩ := List.forall_mem_cons.mp whole
    cases rest with
    | nil => rwa [List.intercalate_singleton]
    | cons second rest =>
      rw [List.intercalate_cons_cons, List.all_append, List.all_append, here, all_points, ih later]
      rfl

/-- A safe name has no surrogates, and its text is safe. -/
theorem safe_member_of_ok {name : PyStr} (safe : safe_member_of strings name = .ok true) :
    name = points (text_of name) ∧ safe_member strings.names (text_of name) = true := by
  have is : name = points (text_of name) := by
    unfold safe_member_of at safe
    split at safe
    next shape =>
      have parts_whole := safe_parts_of_whole safe
      simp only [shaped, Bool.and_eq_true, decide_eq_true_eq] at shape
      have whole := shape.2
      refine of_whole ?_
      rw [← whole, as_posix_of]
      split
      · rfl
      · exact intercalate_whole parts_whole
    · cases safe
  refine ⟨is, ?_⟩
  rw [is, safe_member_of_points] at safe
  exact Except.ok.inj safe

/-! ### Records -/

/-- What each record says, and what the records say together. -/
structure Listed (names : Names) (records : List Record) : Prop where
  recordable : ∀ record ∈ records, Recordable names record
  apart : (records.map (·.path)).Nodup
  total : (records.map (·.size_bytes)).sum ≤ MAX_UNCOMPRESSED_BYTES

theorem read_record_inv {value : Value} {record : Record} (ran : read_record strings value = .ok record) :
    safe_member strings.names record.path = true ∧ (record.path = DATABASE_MEMBER ∨ "evidence/".toList <+: record.path) ∧ 0 ≤ record.size_bytes ∧
      valid_sha256 (points record.sha256) = true := by
  unfold read_record at ran
  split at ran
  · split at ran
    · split at ran
      next name _ =>
        obtain ⟨safe, checked, ran⟩ := bind_eq_ok.mp ran
        split at ran
        next passed =>
          rw [passed] at checked
          split at ran
          next size digest _ _ =>
            split at ran
            next kept =>
              cases ran
              have hex : digest.all (·.char?.isSome) = true := by
                refine List.all_eq_true.mpr fun point member => ?_
                have digit := kept.2.2
                simp only [valid_sha256, Bool.and_eq_true, List.all_eq_true] at digit
                obtain ⟨c, _, rfl⟩ := List.mem_map.mp (of_decide_eq_true (digit.2 point member))
                rfl
              refine ⟨(safe_member_of_ok checked).2, kept.1, kept.2.1, ?_⟩
              rw [← of_whole hex]
              exact kept.2.2
            · cases ran
          · cases ran
        · cases ran
      · cases ran
    · cases ran
  · cases ran

theorem list_record_inv {listed after : List Record} {value : Value} (before : Listed strings.names listed)
    (ran : list_record strings listed value = .ok after) : Listed strings.names after ∧ after.length = listed.length + 1 := by
  obtain ⟨record, read, ran⟩ := bind_eq_ok.mp ran
  obtain ⟨safe, placed, nonneg, digest⟩ := read_record_inv read
  split at ran
  · cases ran
  next bounded =>
    split at ran
    · cases ran
    next unlisted =>
      split at ran
      · cases ran
      next fits =>
        cases ran
        have recordable : Recordable strings.names record :=
          ⟨safe, placed, nonneg, digest, fun database => Int.not_lt.mp fun large => bounded ⟨database, large⟩⟩
        refine ⟨⟨?_, ?_, ?_⟩, by rw [List.length_append]; rfl⟩
        · intro other member
          rcases List.mem_append.mp member with old | new
          · exact before.recordable other old
          · exact List.mem_singleton.mp new ▸ recordable
        · rw [List.map_append, List.map_singleton]
          exact List.nodup_append'.mpr ⟨before.apart, List.nodup_singleton _, List.disjoint_singleton.mpr unlisted⟩
        · rw [List.map_append, List.sum_append, List.map_singleton, List.sum_singleton]
          exact Int.not_lt.mp fits

theorem list_records_inv {values : List Value} {listed records : List Record} (before : Listed strings.names listed)
    (ran : values.foldlM (list_record strings) listed = .ok records) :
    Listed strings.names records ∧ records.length = listed.length + values.length := by
  induction values generalizing listed with
  | nil =>
    cases ran
    exact ⟨before, rfl⟩
  | cons value values ih =>
    obtain ⟨next, here, later⟩ := bind_eq_ok.mp ran
    obtain ⟨kept, length⟩ := list_record_inv before here
    obtain ⟨all, total⟩ := ih kept later
    refine ⟨all, ?_⟩
    rw [total, length, List.length_cons]
    omega

/-- The records of a manifest that is accepted. -/
structure Accepts (names : Names) (records : List Record) : Prop where
  listed : Listed names records
  few : records.length ≤ MAX_ARCHIVE_ENTRIES
  database : DATABASE_MEMBER ∈ records.map (·.path)
  folded : (records.map fun record => names.casefold record.path).Nodup

end

section
variable {library : Library} {archive : Archive}

theorem read_manifest_inv {document revision : Value} {records : List Record}
    (ran : read_manifest library archive = .ok (document, revision, records)) : Accepts library.strings.names records := by
  have database := read_manifest_database ran
  unfold read_manifest at ran
  obtain ⟨_, _, ran⟩ := bind_eq_ok.mp ran
  obtain ⟨_, _, ran⟩ := bind_eq_ok.mp ran
  obtain ⟨_, _, ran⟩ := bind_eq_ok.mp ran
  obtain ⟨_, _, ran⟩ := bind_eq_ok.mp ran
  obtain ⟨_, _, ran⟩ := bind_eq_ok.mp ran
  obtain ⟨_, _, ran⟩ := bind_eq_ok.mp ran
  obtain ⟨values, files, ran⟩ := bind_eq_ok.mp ran
  obtain ⟨listed, lists, ran⟩ := bind_eq_ok.mp ran
  obtain ⟨_, checked, ran⟩ := bind_eq_ok.mp ran
  obtain ⟨_, _, ran⟩ := bind_eq_ok.mp ran
  cases ran
  have nothing : Listed library.strings.names [] := ⟨fun record member => absurd member List.not_mem_nil, List.nodup_nil, by decide⟩
  obtain ⟨all, length⟩ := list_records_inv nothing lists
  have few : values.length ≤ MAX_ARCHIVE_ENTRIES := by
    unfold file_values at files
    split at files
    · split at files
      next bounds =>
        cases files
        exact bounds.2
      · cases files
    · cases files
  have folded : ((records.map (·.path)).map library.strings.names.casefold).Nodup := by
    unfold check_records at checked
    simp only at checked
    split at checked
    · cases checked
    · split at checked
      · cases checked
      · split at checked
        next nodup => exact nodup
        · cases checked
  rw [List.map_map] at folded
  refine ⟨all, ?_, database, folded⟩
  rw [length, List.length_nil, Nat.zero_add]
  exact few

/-- A member that is verified has the hash of its record, and its entry the size. -/
structure Verified (library : Library) (archive : Archive) (record : Record) (content : Bytes) : Prop where
  read : archive.member record.path = .ok content
  digest : library.sha256 content = record.sha256
  size : (archive.file_size record.path).map Int.ofNat = some record.size_bytes

theorem verify_member_inv {record : Record} (ran : verify_member library archive () record = .ok ()) :
    ∃ content, Verified library archive record content := by
  unfold verify_member at ran
  split at ran
  next sized =>
    obtain ⟨content, read, ran⟩ := bind_eq_ok.mp ran
    split at ran
    next digest => exact ⟨content, read, digest, of_decide_eq_true sized⟩
    · cases ran
  · cases ran

theorem verify_members_inv {records : List Record} (ran : records.foldlM (verify_member library archive) () = .ok ()) :
    ∀ record ∈ records, ∃ content, Verified library archive record content := by
  induction records with
  | nil => exact fun record member => absurd member List.not_mem_nil
  | cons record records ih =>
    obtain ⟨_, here, later⟩ := bind_eq_ok.mp ran
    exact List.forall_mem_cons.mpr ⟨verify_member_inv here, ih later⟩

/-- An archive with the records of its manifest, as `verify_backup` accepts it. -/
structure Opened (library : Library) (file : Bytes) (archive : Archive) (document revision : Value) (records : List Record) : Prop where
  bounded : file.length ≤ HostileArchives.MAX_ARCHIVE_BYTES
  preflight : ZipDirectory.preflight_zip_directory file = .ok ()
  zip_file : library.zip_file file = .ok archive
  verified : verify_open_archive library archive = .ok (document, revision, records)
  database : verify_database library archive revision records = .ok ()

theorem verify_backup_inv {file : Bytes} {document : Value} (ran : verify_backup library file = .ok document) :
    ∃ archive revision records, Opened library file archive document revision records := by
  unfold verify_backup at ran
  cases streamed : verify_stream library file with
  | error raised =>
    rw [streamed] at ran
    cases ran
  | ok manifest =>
    rw [streamed] at ran
    cases ran
    unfold verify_stream at streamed
    split at streamed
    · cases streamed
    next bounded =>
      obtain ⟨_, preflight, streamed⟩ := bind_eq_ok.mp streamed
      obtain ⟨archive, zip_file, streamed⟩ := bind_eq_ok.mp streamed
      obtain ⟨⟨document, revision, records⟩, verified, streamed⟩ := bind_eq_ok.mp streamed
      obtain ⟨_, database, streamed⟩ := bind_eq_ok.mp streamed
      cases streamed
      refine ⟨archive, revision, records, Nat.not_lt.mp bounded, ?_, ?_, verified, database⟩
      · cases passed : ZipDirectory.preflight_zip_directory file with
        | ok _ => rfl
        | error refused =>
          rw [passed] at preflight
          cases preflight
      · cases opened : library.zip_file file with
        | ok other =>
          rw [opened] at zip_file
          cases zip_file
          rfl
        | error raised =>
          rw [opened] at zip_file
          cases zip_file

variable {file : Bytes} {document revision : Value} {records : List Record}

theorem Opened.read (opened : Opened library file archive document revision records) :
    read_manifest library archive = .ok (document, revision, records) ∧ records.foldlM (verify_member library archive) () = .ok () := by
  obtain ⟨⟨_, _, _⟩, read, ran⟩ := bind_eq_ok.mp opened.verified
  obtain ⟨_, members, same⟩ := bind_eq_ok.mp ran
  cases same
  exact ⟨read, members⟩

theorem Opened.accepts (opened : Opened library file archive document revision records) : Accepts library.strings.names records :=
  read_manifest_inv opened.read.1

theorem Opened.members (opened : Opened library file archive document revision records) :
    ∀ record ∈ records, ∃ content, Verified library archive record content := verify_members_inv opened.read.2

/-- The database of an accepted archive refers to the records only. -/
theorem Opened.referenced (opened : Opened library file archive document revision records) :
    ∃ content, archive.member DATABASE_MEMBER = .ok content ∧ archive.file_size DATABASE_MEMBER = some content.length ∧
      validate_database_evidence library.strings library.loads library.parse_int records archive.member content.length (library.connection content)
        revision = .ok () := by
  have ran := opened.database
  unfold verify_database at ran
  cases read : archive.member DATABASE_MEMBER with
  | error raised =>
    rw [read] at ran
    cases ran
  | ok content =>
    rw [read, ok_bind] at ran
    split at ran
    · cases ran
    next size =>
      split at ran
      · cases ran
      · refine ⟨content, rfl, not_not.mp size, ?_⟩
        cases validated : validate_database_evidence library.strings library.loads library.parse_int records archive.member content.length
            (library.connection content) revision with
        | ok _ => rfl
        | error raised =>
          rw [validated] at ran
          cases ran

end
end RedDock.AcceptedManifests
