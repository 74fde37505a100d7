import RedDock.AcceptedManifests
import RedDock.LiveData
import RedDock.KeyedRows

/-!
# Extracting a backup

`_extract_verified` writes the members of an accepted archive below a staging
directory. It succeeds exactly when no member is in the way of another one and
every member has the size of its entry.
-/
set_option autoImplicit false
namespace RedDock.ExtractedBackups
open Text Fallible Trees Members Checks ManifestChecks EvidenceReferences LiveData AcceptedManifests BackupManifests
open HostileArchives hiding MAX_ARCHIVE_BYTES
open DatabaseEvidence (MAX_MANIFEST_BYTES record_of check_database validate_database_evidence)

/-- The staging directory. A member is the database, or below the evidence directory. -/
structure Staged where
  database : Option Bytes := none
  evidence : Tree Text Bytes := []

/-- Creating the file of a member, with the directories above it. -/
def place (staged : Staged) (name : Text) (content : Bytes) : Except Raised Staged :=
  if name = DATABASE_MEMBER then match staged.database with
    | none => .ok { staged with database := some content }
    | some _ => .error .os_error
  else match staged.evidence.create (parts name).tail content with
    | some evidence => .ok { staged with evidence }
    | none => .error .os_error

/-- A member that does not have the size of its entry, or the hash of its record. -/
def changed (doing : String) (name : Text) : Raised := .backup_error (("Backup member changed while " ++ doing ++ ": ").toList ++ name)

section
variable (library : Library)

/-- One round of the loop of `_extract_verified`: an error comes with what is staged. -/
def extract_record (archive : Archive) (staged : Staged) (record : Record) : Except (Raised × Staged) Staged := do
  let content ← (archive.member record.path).mapError (·, staged)
  let grown ← (place staged record.path content).mapError (·, staged)
  if archive.file_size record.path ≠ some content.length then
    .error (changed "extracting" record.path, grown)
  else if library.sha256 content ≠ record.sha256 then
    .error (changed "restoring" record.path, grown)
  else return grown

/-- The archive of a file, opened and verified. -/
def open_verified (file : Bytes) : Except Raised (Archive × Value × List Record) := do
  if HostileArchives.MAX_ARCHIVE_BYTES < file.length then refused "Backup is not a bounded regular file"
  else
    (ZipDirectory.preflight_zip_directory file).mapError of_preflight
    let archive ← (library.zip_file file).mapError ZipRaised.raised
    let (_, revision, records) ← verify_open_archive library archive
    return (archive, revision, records)

/-- `_extract_verified`, with the database and the evidence that are staged. -/
def extract_verified (file : Bytes) : Except (Raised × Staged) (Bytes × Tree Text Bytes) := do
  let (archive, revision, records) ← (open_verified library file).mapError fun raised => (open_archive raised, {})
  let staged ← (records.foldlM (extract_record library archive) {}).mapError fun failure => (open_archive failure.1, failure.2)
  match staged.database with
  | none => .error (.backup_error "SQLite database must be a regular, non-link file".toList, staged)
  | some database =>
    (validate_database_evidence library.strings library.loads library.parse_int records (read_bounded_file staged.evidence) database.length
      (library.connection database) revision).mapError (·, staged)
    return (database, staged.evidence)

end

/-- The files that the records put below the evidence directory. -/
def items (contents : Record → Bytes) (records : List Record) : List (Path Text × Bytes) :=
  (records.filter fun record => record.path ≠ DATABASE_MEMBER).map fun record => ((parts record.path).tail, contents record)

section
variable {library : Library} {archive : Archive} {contents : Record → Bytes}

/-- A member with the size that its record states. -/
def Sized (contents : Record → Bytes) (record : Record) : Prop := ((contents record).length : Int) = record.size_bytes

theorem extract_record_ok {staged grown : Staged} {record : Record} (verified : Verified library archive record (contents record)) :
    extract_record library archive staged record = .ok grown ↔ Sized contents record ∧ place staged record.path (contents record) = .ok grown := by
  have size : archive.file_size record.path = some (contents record).length ↔ Sized contents record := by
    have stated := verified.size
    unfold Sized
    cases entry : archive.file_size record.path with
    | none =>
      rw [entry] at stated
      cases stated
    | some size =>
      rw [entry] at stated
      have is : (size : Int) = record.size_bytes := Option.some.inj stated
      rw [Option.some_inj, ← is]
      omega
  unfold extract_record
  rw [verified.read]
  simp only [Except.mapError, ok_bind]
  cases placed : place staged record.path (contents record) with
  | error raised => simp
  | ok other =>
    rw [ok_bind, if_neg (not_not.mpr verified.digest)]
    by_cases sized : Sized contents record
    · rw [if_neg (not_not.mpr (size.mpr sized))]
      simp [sized, pure, Except.pure]
    · rw [if_pos fun entry => sized (size.mp entry)]
      simp [sized]

theorem place_database {staged : Staged} (free : staged.database = none) (content : Bytes) :
    place staged DATABASE_MEMBER content = .ok { staged with database := some content } := by
  rw [place, if_pos rfl, free]

theorem place_evidence {staged grown : Staged} {name : Text} {content : Bytes} (below : name ≠ DATABASE_MEMBER) :
    place staged name content = .ok grown ↔ ∃ tree, staged.evidence.create (parts name).tail content = some tree ∧
      grown = { staged with evidence := tree } := by
  rw [place, if_neg below]
  cases staged.evidence.create (parts name).tail content with
  | none => simp
  | some tree => simp [eq_comm]

theorem items_database {record : Record} {records : List Record} (is : record.path = DATABASE_MEMBER) :
    items contents (record :: records) = items contents records := by
  rw [items, List.filter_cons_of_neg (by simpa using is)]
  rfl

theorem items_evidence {record : Record} {records : List Record} (below : record.path ≠ DATABASE_MEMBER) :
    items contents (record :: records) = ((parts record.path).tail, contents record) :: items contents records := by
  rw [items, List.filter_cons_of_pos (by simpa using below)]
  rfl

/-- The loop extracts members that have their sizes and fill the tree. -/
theorem extract_records_ok {records : List Record} {staged after : Staged}
    (verified : ∀ record ∈ records, Verified library archive record (contents record)) (apart : (records.map (·.path)).Nodup)
    (free : DATABASE_MEMBER ∈ records.map (·.path) → staged.database = none) :
    records.foldlM (extract_record library archive) staged = .ok after ↔ (∀ record ∈ records, Sized contents record) ∧
      staged.evidence.fill (items contents records) = some after.evidence ∧
        after.database = ((record_of records DATABASE_MEMBER).map contents).or staged.database := by
  induction records generalizing staged with
  | nil =>
    obtain ⟨database, evidence⟩ := after
    obtain ⟨before, tree⟩ := staged
    simp [items, Tree.fill, record_of, pure, Except.pure, eq_comm, and_comm]
  | cons record records ih =>
    obtain ⟨here, later⟩ := List.forall_mem_cons.mp verified
    rw [List.map_cons, List.nodup_cons] at apart
    rw [List.foldlM_cons, bind_eq_ok, List.forall_mem_cons]
    by_cases is : record.path = DATABASE_MEMBER
    · have free := free (is ▸ List.mem_cons_self)
      have gone : DATABASE_MEMBER ∉ records.map (·.path) := is ▸ apart.1
      have none_left : record_of records DATABASE_MEMBER = none := by
        refine List.find?_eq_none.mpr fun other member same => gone ?_
        exact List.mem_map.mpr ⟨other, member, of_decide_eq_true same⟩
      have found : record_of (record :: records) DATABASE_MEMBER = some record := List.find?_cons_of_pos (decide_eq_true is)
      have placed := @place_database staged free (contents record)
      rw [items_database is, found]
      have rest := @ih { staged with database := some (contents record) } later apart.2 fun member => absurd member gone
      constructor
      · rintro ⟨grown, extracts, ran⟩
        obtain ⟨sized, places⟩ := (extract_record_ok here).mp extracts
        rw [is, placed] at places
        cases places
        obtain ⟨sizes, filled, database⟩ := rest.mp ran
        rw [none_left] at database
        exact ⟨⟨sized, sizes⟩, filled, database⟩
      · rintro ⟨⟨sized, sizes⟩, filled, database⟩
        refine ⟨_, (extract_record_ok here).mpr ⟨sized, is.symm ▸ placed⟩, rest.mpr ⟨sizes, filled, ?_⟩⟩
        rw [none_left]
        exact database
    · have found : record_of (record :: records) DATABASE_MEMBER = record_of records DATABASE_MEMBER :=
        List.find?_cons_of_neg fun same => is (of_decide_eq_true same)
      have fills : ∀ tree, staged.evidence.create (parts record.path).tail (contents record) = some tree →
          staged.evidence.fill (items contents (record :: records)) = tree.fill (items contents records) := by
        intro tree creates
        rw [items_evidence is, Tree.fill, List.foldlM_cons, creates]
        rfl
      have free : DATABASE_MEMBER ∈ records.map (·.path) → staged.database = none := fun member => free (List.mem_cons_of_mem _ member)
      rw [found]
      constructor
      · rintro ⟨grown, extracts, ran⟩
        obtain ⟨sized, places⟩ := (extract_record_ok here).mp extracts
        obtain ⟨tree, creates, rfl⟩ := (place_evidence is).mp places
        obtain ⟨sizes, filled, database⟩ := (@ih { staged with evidence := tree } later apart.2 free).mp ran
        exact ⟨⟨sized, sizes⟩, (fills tree creates).trans filled, database⟩
      · rintro ⟨⟨sized, sizes⟩, filled, database⟩
        cases creates : staged.evidence.create (parts record.path).tail (contents record) with
        | none =>
          rw [items_evidence is, Tree.fill, List.foldlM_cons, creates] at filled
          cases filled
        | some tree =>
          rw [fills tree creates] at filled
          exact ⟨_, (extract_record_ok here).mpr ⟨sized, (place_evidence is).mpr ⟨tree, creates, rfl⟩⟩,
            (@ih { staged with evidence := tree } later apart.2 free).mpr ⟨sizes, filled, database⟩⟩

/-! ### Where the records of an accepted manifest go -/

/-- The content of a member that can be read. -/
def member_content (archive : Archive) (record : Record) : Bytes :=
  match archive.member record.path with
  | .ok content => content
  | .error _ => []

/-- A record that is not the database is below the evidence directory. -/
theorem recordable_below {names : Names} {record : Record} (recordable : Recordable names record) (below : record.path ≠ DATABASE_MEMBER) :
    (parts record.path).tail ≠ [] ∧ (∀ part ∈ (parts record.path).tail, Component part ∧ part ≠ ['.', '.']) ∧
      record.path = Members.evidence_member (parts record.path).tail := by
  obtain ⟨path, nonempty, components, is⟩ := safe_evidence recordable.safe (recordable.placed.resolve_left below)
  have split : parts record.path = EVIDENCE :: path := by rw [is, parts_evidence_member nonempty components]
  rw [split, List.tail_cons]
  refine ⟨nonempty, fun part member => ⟨components part member, ?_⟩, is⟩
  exact safe_part_inside (safe_member_part recordable.safe (split ▸ List.mem_cons_of_mem _ member))

variable {records : List Record} {tree : Tree Text Bytes}

theorem mem_items {item : Path Text × Bytes} : item ∈ items contents records ↔
    ∃ record ∈ records, record.path ≠ DATABASE_MEMBER ∧ ((parts record.path).tail, contents record) = item := by
  simp only [items, List.mem_map, List.mem_filter, decide_eq_true_eq, and_assoc]

theorem items_named (listed : Listed library.strings.names records) : ∀ item ∈ items contents records, item.1 ≠ [] := by
  intro item member
  obtain ⟨record, inside, below, rfl⟩ := mem_items.mp member
  exact (recordable_below (listed.recordable record inside) below).1

theorem items_members (listed : Listed library.strings.names records) :
    (items contents records).map (fun item => Members.evidence_member item.1) = (records.map (·.path)).filter fun path => path ≠ DATABASE_MEMBER := by
  rw [items, List.map_map, List.filter_map]
  refine List.map_congr_left fun record member => ?_
  obtain ⟨inside, below⟩ := List.mem_filter.mp member
  exact (recordable_below (listed.recordable record inside) (of_decide_eq_true below)).2.2.symm

theorem items_once (listed : Listed library.strings.names records) : ((items contents records).map Prod.fst).Nodup := by
  refine List.Nodup.of_map Members.evidence_member ?_
  rw [List.map_map]
  have members := @items_members library contents records listed
  rw [show Members.evidence_member ∘ Prod.fst = fun item : Path Text × Bytes => Members.evidence_member item.1 from rfl, members]
  exact listed.apart.filter _

/-- Filling the evidence directory with members that are not in each other's way. -/
theorem fill_items (listed : Listed library.strings.names records) :
    ((Tree.fill [] (items contents records)).isSome = true ↔
        ∀ item ∈ items contents records, ∀ other ∈ items contents records, ¬Tree.Above item.1 other.1) ∧
      ∀ grown, Tree.fill [] (items contents records) = some grown → Tree.Filled (items contents records) grown := by
  have once : ((([] : List (Path Text × Bytes)) ++ items contents records).map Prod.fst).Nodup := items_once listed
  have filled := Tree.Filled.fill Tree.filled_nil (items_named listed) once
  refine ⟨filled.1.trans (and_iff_right fun item member => absurd member List.not_mem_nil), fun grown is => ?_⟩
  have whole := filled.2 grown is
  rwa [List.nil_append] at whole

theorem mem_filled (filled : Tree.Filled (items contents records) tree) {record : Record} (inside : record ∈ records)
    (below : record.path ≠ DATABASE_MEMBER) : ((parts record.path).tail, contents record) ∈ sorted_files tree := by
  rw [(sorted_perm tree).mem_iff, filled.files]
  exact mem_items.mpr ⟨record, inside, below, rfl⟩

/-- Readers that agree: the archive, and the files that were extracted. -/
theorem extracted_agree (listed : Listed library.strings.names records) (filled : Tree.Filled (items contents records) tree)
    (verified : ∀ record ∈ records, Verified library archive record (contents record)) (sizes : ∀ record ∈ records, Sized contents record) :
    Agree records records archive.member (read_bounded_file tree) where
  recorded := fun _ _ => rfl
  readable := by
    intro member record prefixed found small
    obtain ⟨inside, rfl⟩ := DatabaseEvidence.record_of_some found
    have below : record.path ≠ DATABASE_MEMBER := fun same => absurd (same ▸ prefixed) (by decide +kernel)
    obtain ⟨_, components, is⟩ := recordable_below (listed.recordable record inside) below
    have size : (contents record).length ≤ MAX_MANIFEST_BYTES := by
      have sized : ((contents record).length : Int) = record.size_bytes := sizes record inside
      omega
    have read := read_bounded_file_ok filled.closed (mem_filled filled inside below) (fun part member => (components part member).1) size
    rw [(verified record inside).read, ← read, ← is]

/-- What the evidence of an accepted archive is extracted to. -/
theorem extract_verified_ok {file : Bytes} {document revision : Value} (opened : Opened library file archive document revision records)
    {database : Bytes} : extract_verified library file = .ok (database, tree) ↔
      (∀ record ∈ records, Sized (member_content archive) record) ∧ Tree.fill [] (items (member_content archive) records) = some tree ∧
        archive.member DATABASE_MEMBER = .ok database := by
  have listed := opened.accepts.listed
  have verified : ∀ record ∈ records, Verified library archive record (member_content archive record) := by
    intro record member
    obtain ⟨content, verified⟩ := opened.members record member
    have same : member_content archive record = content := by rw [member_content, verified.read]
    exact same ▸ verified
  obtain ⟨content, read, _, referenced⟩ := opened.referenced
  have found : (record_of records DATABASE_MEMBER).map (member_content archive) = some content := by
    obtain ⟨record, inside, named⟩ := List.mem_map.mp opened.accepts.database
    have found : record_of records DATABASE_MEMBER = some record := named ▸ KeyedRows.find_key listed.apart inside
    rw [found, Option.map_some, member_content, named, read]
  have ran : open_verified library file = .ok (archive, revision, records) := by
    rw [open_verified, if_neg (Nat.not_lt.mpr opened.bounded), opened.preflight, opened.zip_file]
    show (verify_open_archive library archive >>= fun _ => _) = _
    rw [opened.verified]
    rfl
  have loop : ∀ after, records.foldlM (extract_record library archive) {} = .ok after ↔ (∀ record ∈ records, Sized (member_content archive) record) ∧
      Tree.fill [] (items (member_content archive) records) = some after.evidence ∧ after.database = some content := by
    intro after
    rw [extract_records_ok verified listed.apart fun _ => rfl, found]
    rfl
  have validated : ∀ tree, Tree.fill [] (items (member_content archive) records) = some tree →
      (∀ record ∈ records, Sized (member_content archive) record) → validate_database_evidence library.strings library.loads library.parse_int records
        (read_bounded_file tree) content.length (library.connection content) revision = .ok () := by
    intro tree filled sizes
    rw [← database_evidence_agree (extracted_agree listed ((fill_items listed).2 tree filled) verified sizes)]
    exact referenced
  unfold extract_verified
  rw [ran]
  show ((records.foldlM (extract_record library archive) {}).mapError _ >>= fun staged => _) = _ ↔ _
  rw [read]
  cases extracts : records.foldlM (extract_record library archive) {} with
  | error failure =>
    refine iff_of_false (fun never => by cases never) fun both => ?_
    have returned := (loop ⟨some content, tree⟩).mpr ⟨both.1, both.2.1, rfl⟩
    rw [extracts] at returned
    cases returned
  | ok staged =>
    obtain ⟨sizes, filled, holds⟩ := (loop staged).mp extracts
    obtain ⟨staged_database, evidence⟩ := staged
    cases holds
    show ((validate_database_evidence library.strings library.loads library.parse_int records (read_bounded_file evidence) content.length
      (library.connection content) revision).mapError _ >>= fun _ => _) = _ ↔ _
    rw [validated evidence filled sizes, filled]
    constructor
    · intro same
      cases same
      exact ⟨sizes, rfl, rfl⟩
    · rintro ⟨_, same, is⟩
      cases same
      cases is
      rfl

end
end RedDock.ExtractedBackups
