import RedDock.DatabaseEvidence
import RedDock.ZipDirectory

/-!
# Hostile archives

`verify_backup` reads an archive that anyone may have written. Some exceptions
of the libraries it reads with, and two of its own checks, are not turned into
a `BackupError`: the archives that raise them are told exactly.
-/
set_option autoImplicit false
namespace RedDock.HostileArchives
open Text Bytes Fallible Members Checks ManifestChecks DatabaseEvidence
open ZipDirectory (preflight_zip_directory find_record eocd_record SEARCHED LOCATOR)

def MANIFEST_NAME : Text := "manifest.json".toList
def MAX_ARCHIVE_BYTES : Nat := 4 * 1024 * 1024 * 1024 + 128 * 1024 * 1024

/-! ### What `zipfile` gives -/

/-- What opening an archive or reading a member raises. -/
inductive ZipRaised
  | bad_zip_file
  | os_error
  | eof_error
  | not_implemented_error
  | zlib_error
  deriving DecidableEq

def ZipRaised.raised : ZipRaised → Raised
  | .bad_zip_file => .bad_zip_file
  | .os_error => .os_error
  | .eof_error => .eof_error
  | .not_implemented_error => .not_implemented_error
  | .zlib_error => .zlib_error

/-- What `_open_archive` maps of it. -/
def ZipRaised.mapped (raised : ZipRaised) : Bool := raised.raised.mapped

structure ZipInfo where
  filename : Text
  file_size : Nat
  flag_bits : Nat := 0
  compress_type : Nat := 0
  external_attr : Nat := 0o100600 * 2 ^ 16
  create_system : Nat := 3

structure Archive where
  infolist : List ZipInfo
  read : Text → Except ZipRaised Bytes

/-- The libraries a backup is read with. The ids in the evidence rows are
    integers, where the foreign keys of the database hold. -/
structure Library where
  strings : Strings
  loads : Bytes → Except Unread Value
  sha256 : Bytes → Text
  parse_int : SqlValue → Option Int
  zip_file : Bytes → Except ZipRaised Archive
  connection : Bytes → Connection
  finite : ∀ file revision row, check_database file.length (connection file) = .ok revision → .ok row ∈ (connection file).evidence_records →
    FiniteIds row

def Archive.member (archive : Archive) (name : Text) : Except Raised Bytes := (archive.read name).mapError ZipRaised.raised

/-- The size `getinfo` gives of a member. -/
def Archive.file_size (archive : Archive) (name : Text) : Option Nat :=
  (archive.infolist.find? fun info => info.filename = name).map (·.file_size)

/-! ### Verification -/

section
variable (library : Library)

def unix_mode (info : ZipInfo) : Nat := info.external_attr / 2 ^ 16

/-- One round of the loop over the members. -/
def check_info (info : ZipInfo) : Except Raised Unit :=
  if !safe_member library.strings.names info.filename then refused "Backup archive contains an unsafe member name"
  else if info.flag_bits % 2 = 1 then refused "Encrypted backup members are unsupported"
  else if info.compress_type ∉ [0, 8] then refused "Backup archive uses unsupported compression"
  else if info.filename.getLast? = some '/' ∨ unix_mode info &&& 0o170000 = 0o120000 then refused "Backup contains a non-regular entry"
  else if info.create_system ≠ 3 ∨ unix_mode info &&& 0o170000 ≠ 0o100000 ∨ unix_mode info &&& 0o7777 ≠ 0o600 then
    refused "Backup members must use the private regular-file mode"
  else .ok ()

/-- What `_read_manifest` checks before it reads the manifest. -/
def check_infos (archive : Archive) : Except Raised Unit := do
  let names := archive.infolist.map (·.filename)
  if ManifestChecks.MAX_ARCHIVE_ENTRIES + 1 < archive.infolist.length then refused "Backup archive contains too many entries"
  else if !decide names.Nodup then refused "Backup archive contains duplicate entries"
  else if !decide (names.map library.strings.names.casefold).Nodup then refused "Backup archive contains portable path aliases"
  else if MANIFEST_NAME ∉ names then refused "Backup archive has no manifest"
  else
    archive.infolist.forM (check_info library)
    if (archive.file_size MANIFEST_NAME).any (MAX_MANIFEST_BYTES < ·) then refused "Backup manifest exceeds the fixed size limit"

/-- The document of a manifest, once it is an object. -/
def manifest_of (document : Value) : Except Raised (List (PyStr × Value)) :=
  match document with
  | .dict manifest => .ok manifest
  | _ => refused "Backup manifest structure is unsupported"

/-- The members of an archive but its manifest are the files of the records. -/
def check_contents (archive : Archive) (records : List Record) : Except Raised Unit :=
  let names := archive.infolist.map (·.filename)
  let paths := records.map (·.path)
  if (names.all fun name => name = MANIFEST_NAME || decide (name ∈ paths)) && paths.all fun path => path ∈ names then .ok ()
  else refused "Backup contents do not match its manifest"

/-- `_read_manifest`: the document with its revision and its records. -/
def read_manifest (archive : Archive) : Except Raised (Value × Value × List Record) := do
  check_infos library archive
  let payload ← archive.member MANIFEST_NAME
  let document ← load_document library.loads "Backup manifest is not valid UTF-8 JSON" payload
  let manifest ← manifest_of document
  check_heading library.strings manifest
  let revision ← check_declaration (get manifest "database")
  let values ← file_values manifest
  let records ← values.foldlM (list_record library.strings) []
  check_records library.strings records
  check_contents archive records
  return (document, revision, records)

def matches_size (archive : Archive) (record : Record) : Bool :=
  decide ((archive.file_size record.path).map Int.ofNat = some record.size_bytes)

/-- One round of the loop of `_verify_open_archive`. -/
def verify_member (archive : Archive) (_ : Unit) (record : Record) : Except Raised Unit := do
  if matches_size archive record then
    let content ← archive.member record.path
    if library.sha256 content = record.sha256 then return ()
    else .error (.backup_error ("Backup member hash does not match: ".toList ++ record.path))
  else .error (.backup_error ("Backup member size does not match: ".toList ++ record.path))

def verify_open_archive (archive : Archive) : Except Raised (Value × Value × List Record) := do
  let (document, revision, records) ← read_manifest library archive
  records.foldlM (verify_member library archive) ()
  return (document, revision, records)

/-- The `except` clause around the temporary copy of the database. -/
def temporary : Raised → Raised
  | .os_error => .backup_error "Temporary SQLite verification could not be completed".toList
  | raised => raised

/-- The database of an archive, which is extracted and compared with the records. -/
def verify_database (archive : Archive) (revision : Value) (records : List Record) : Except Raised Unit := Except.mapError temporary do
  let content ← archive.member DATABASE_MEMBER
  if archive.file_size DATABASE_MEMBER ≠ some content.length then
    .error (.backup_error ("Backup member changed while extracting: ".toList ++ DATABASE_MEMBER))
  else if (record_of records DATABASE_MEMBER).map (·.sha256) ≠ some (library.sha256 content) then
    refused "SQLite database changed while verifying the backup"
  else
    validate_database_evidence library.strings library.loads library.parse_int records archive.member content.length
      (library.connection content) revision

def of_preflight : ZipDirectory.Refused → Raised
  | .backup_error message => .backup_error message
  | .value_error => .value_error

/-- What stands within `_open_archive`. -/
def verify_stream (file : Bytes) : Except Raised Value := do
  if MAX_ARCHIVE_BYTES < file.length then refused "Backup is not a bounded regular file"
  else
    (preflight_zip_directory file).mapError of_preflight
    let archive ← (library.zip_file file).mapError ZipRaised.raised
    let (document, revision, records) ← verify_open_archive library archive
    verify_database library archive revision records
    return document

/-- The `except` clauses of `_open_archive`. -/
def open_archive : Raised → Raised
  | .os_error | .bad_zip_file => .backup_error "Backup is not a readable ZIP archive".toList
  | raised => raised

/-- `verify_backup` of a file with these bytes. -/
def verify_backup (file : Bytes) : Except Raised Value := (verify_stream library file).mapError open_archive

end

/-! ### Archives that raise nothing else -/

/-- The offset of the end record in a file, where there is one. -/
def end_record (file : Bytes) : Option Nat :=
  let start := file.length - min file.length SEARCHED
  let tail := file.drop start
  (find_record tail (tail.length + 1) tail.length).map (start + ·)

/-- A ZIP64 locator that states an offset from 2 ^ 63 on, where it is asked for. -/
def FarLocator (file : Bytes) : Prop :=
  ∃ at_offset, end_record file = some at_offset ∧ (eocd_record file at_offset).one_disk = true ∧ (eocd_record file at_offset).saturated = true ∧
    20 ≤ at_offset ∧ (read file (at_offset - 20) 20).length = 20 ∧ has file LOCATOR (at_offset - 20) = true ∧
    number file (at_offset - 16) 4 = 0 ∧ number file (at_offset - 4) 4 = 1 ∧ 2 ^ 63 ≤ number file (at_offset - 12) 8

section
variable (library : Library)

/-- The archive `zipfile` gives of a file that passes the preflight. -/
structure Opens (file : Bytes) (archive : Archive) : Prop where
  bounded : file.length ≤ MAX_ARCHIVE_BYTES
  preflight : preflight_zip_directory file = .ok ()
  zip_file : library.zip_file file = .ok archive

/-- The manifest of an archive whose members pass, down to its declarations. -/
structure Declares (archive : Archive) (manifest : List (PyStr × Value)) : Prop where
  infos : check_infos library archive = .ok ()
  document : ∃ payload, archive.read MANIFEST_NAME = .ok payload ∧ library.loads payload = .ok (.dict manifest)
  heading : check_heading library.strings manifest = .ok ()

/-- An archive that makes neither `zipfile` nor the checks raise what is not
    mapped, as far as its members are read. -/
structure TameArchive (archive : Archive) : Prop where
  manifest : check_infos library archive = .ok () → ∀ raised, archive.read MANIFEST_NAME = .error raised → raised.mapped = true
  numbers : ∀ payload, check_infos library archive = .ok () → archive.read MANIFEST_NAME = .ok payload →
    library.loads payload ≠ .error .value_error
  revision : ∀ manifest database, Declares library archive manifest → get manifest "database" = .dict database →
    declares_sqlite database = true → (get database "schema_revision").hashable = true
  paths : ∀ manifest revision values before value after listed, Declares library archive manifest →
    check_declaration (get manifest "database") = .ok revision → file_values manifest = .ok values → values = before ++ value :: after →
    before.foldlM (list_record library.strings) [] = .ok listed → ¬UnencodablePath library.strings value
  members : ∀ document revision before record after, read_manifest library archive = .ok (document, revision, before ++ record :: after) →
    before.foldlM (verify_member library archive) () = .ok () → matches_size archive record = true →
    ∀ raised, archive.read record.path = .error raised → raised.mapped = true

/-- A file whose preflight, opening and archive raise nothing else. -/
structure Tame (file : Bytes) : Prop where
  offset : file.length ≤ MAX_ARCHIVE_BYTES → ¬FarLocator file
  opening : file.length ≤ MAX_ARCHIVE_BYTES → preflight_zip_directory file = .ok () → ∀ raised, library.zip_file file = .error raised →
    raised.mapped = true
  archive : ∀ archive, Opens library file archive → TameArchive library archive

end

/-! ### What each part raises -/

/-- The preflight refuses, or cannot seek. -/
abbrev Preflighted (raised : ZipDirectory.Refused) : Prop := Mapped (of_preflight raised)

@[simp] theorem preflighted_refused {α : Type} (message : String) :
    Contained Preflighted (ZipDirectory.refused message : Except ZipDirectory.Refused α) := by
  simp [ZipDirectory.refused, Preflighted, of_preflight, Mapped, Raised.mapped]

theorem preflighted_locate_zip64 (file : Bytes) (eocd_at : Nat) : Contained Preflighted (ZipDirectory.locate_zip64 file eocd_at) ↔
    ¬(20 ≤ eocd_at ∧ (read file (eocd_at - 20) 20).length = 20 ∧ has file LOCATOR (eocd_at - 20) = true ∧
      number file (eocd_at - 16) 4 = 0 ∧ number file (eocd_at - 4) 4 = 1 ∧ 2 ^ 63 ≤ number file (eocd_at - 12) 8) := by
  unfold ZipDirectory.locate_zip64
  split
  next short => simp [Nat.not_le.mpr short]
  next room =>
    split
    next cut => simp [cut]
    next whole =>
      split
      next unsupported =>
        simp only [preflighted_refused, true_iff]
        rintro ⟨_, _, signature, disk, disks, _⟩
        rcases unsupported with missing | other | others
        · rw [signature] at missing
          cases missing
        · exact other disk
        · exact others disks
      next supported =>
        simp only [not_or, not_not, Bool.not_eq_false] at supported whole
        obtain ⟨signature, disk, disks⟩ := supported
        simp only
        split
        next far =>
          rw [contained_error]
          simp only [Preflighted, of_preflight, Mapped, Raised.mapped, Bool.false_eq_true, false_iff, not_not]
          exact ⟨Nat.le_of_not_lt room, whole, signature, disk, disks, far⟩
        next near =>
          have unlike : ¬(20 ≤ eocd_at ∧ (read file (eocd_at - 20) 20).length = 20 ∧ has file LOCATOR (eocd_at - 20) = true ∧
              number file (eocd_at - 16) 4 = 0 ∧ number file (eocd_at - 4) 4 = 1 ∧ 2 ^ 63 ≤ number file (eocd_at - 12) 8) :=
            fun all => near all.2.2.2.2.2
          rw [iff_true_right unlike]
          split
          · exact preflighted_refused _
          · split
            · exact preflighted_refused _
            · split
              · exact contained_ok _
              · exact preflighted_refused _

theorem eocd_record_drop (file : Bytes) (start offset : Nat) : eocd_record (file.drop start) offset = eocd_record file (start + offset) := by
  simp only [eocd_record, number_drop, Nat.add_assoc]

theorem contained_preflight (file : Bytes) : Contained Mapped ((preflight_zip_directory file).mapError of_preflight) ↔ ¬FarLocator file := by
  rw [contained_mapError]
  unfold preflight_zip_directory FarLocator end_record
  simp only
  cases found : find_record (file.drop (file.length - min file.length SEARCHED)) ((file.drop (file.length - min file.length SEARCHED)).length + 1)
      (file.drop (file.length - min file.length SEARCHED)).length with
  | none => simp
  | some eocd_index =>
    simp only [Option.map_some, eocd_record_drop]
    generalize file.length - min file.length SEARCHED + eocd_index = eocd_at
    have only : ∀ P : Nat → Prop, (∃ at_offset, some eocd_at = some at_offset ∧ P at_offset) ↔ P eocd_at := fun P =>
      ⟨fun ⟨_, same, holds⟩ => Option.some.inj same ▸ holds, fun holds => ⟨eocd_at, rfl, holds⟩⟩
    rw [only]
    split
    next many => simp [many]
    next one =>
      rw [Bool.not_eq_false] at one
      rw [contained_bind]
      have later : ∀ directory, ZipDirectory.directory_record file (eocd_record file eocd_at) eocd_at = .ok directory →
          Contained Preflighted (if ZipDirectory.MAX_ARCHIVE_ENTRIES + 1 < directory.total_entries then
              ZipDirectory.refused "Backup archive contains too many entries"
            else if ZipDirectory.MAX_CENTRAL_DIRECTORY_BYTES < directory.directory_size then
              ZipDirectory.refused "Backup central directory exceeds the fixed size limit"
            else if eocd_at < directory.directory_at + directory.directory_size then
              ZipDirectory.refused "Backup central directory bounds are invalid"
            else .ok ()) := by
        intro directory _
        split
        · exact preflighted_refused _
        · split
          · exact preflighted_refused _
          · split
            · exact preflighted_refused _
            · exact contained_ok _
      rw [and_iff_left later]
      unfold ZipDirectory.directory_record
      by_cases saturated : (eocd_record file eocd_at).saturated = true
      · rw [if_pos saturated, preflighted_locate_zip64]
        simp only [one, saturated, true_and]
      · rw [if_neg saturated]
        simp [saturated]

section
variable {library : Library} {archive : Archive}

theorem contained_raised {α : Type} (x : Except ZipRaised α) :
    Contained Mapped (x.mapError ZipRaised.raised) ↔ ∀ raised, x = .error raised → raised.mapped = true := contained_mapError

theorem member_ok {name : Text} {content : Bytes} : archive.member name = .ok content ↔ archive.read name = .ok content := by
  unfold Archive.member
  cases archive.read name <;> simp [Except.mapError]

theorem contained_load_document (loads : Bytes → Except Unread Value) (message : String) (payload : Bytes) :
    Contained Mapped (load_document loads message payload) ↔ loads payload ≠ .error .value_error := by
  unfold load_document
  cases loads payload with
  | ok value => simp
  | error unread => cases unread <;> simp [Mapped, Raised.mapped]

theorem load_document_ok {loads : Bytes → Except Unread Value} {message : String} {payload : Bytes} {document : Value} :
    load_document loads message payload = .ok document ↔ loads payload = .ok document := by
  unfold load_document
  cases loads payload with
  | ok value => simp
  | error unread => cases unread <;> simp [refused]

theorem contained_check_info (info : ZipInfo) : Contained Mapped (check_info library info) := by
  unfold check_info
  split
  · exact contained_refused _
  · split
    · exact contained_refused _
    · split
      · exact contained_refused _
      · split
        · exact contained_refused _
        · split
          · exact contained_refused _
          · exact contained_ok _

theorem contained_forM {α : Type} {f : α → Except Raised Unit} (each : ∀ a, Contained Mapped (f a)) (items : List α) :
    Contained Mapped (items.forM f) := by
  induction items with
  | nil => exact contained_ok ()
  | cons item items ih => exact contained_bind.mpr ⟨each item, fun _ _ => ih⟩

theorem contained_check_infos (archive : Archive) : Contained Mapped (check_infos library archive) := by
  unfold check_infos
  simp only
  split
  · exact contained_refused _
  · split
    · exact contained_refused _
    · split
      · exact contained_refused _
      · split
        · exact contained_refused _
        · refine contained_bind.mpr ⟨contained_forM contained_check_info _, fun _ _ => ?_⟩
          split
          · exact contained_refused _
          · exact contained_ok _

theorem contained_manifest_of (document : Value) : Contained Mapped (manifest_of document) := by
  cases document <;> simp [manifest_of]

theorem manifest_of_ok {document : Value} {manifest : List (PyStr × Value)} : manifest_of document = .ok manifest ↔ document = .dict manifest := by
  cases document <;> simp [manifest_of, refused]

theorem contained_check_contents (archive : Archive) (records : List Record) : Contained Mapped (check_contents archive records) := by
  unfold check_contents
  simp only
  split
  · exact contained_ok _
  · exact contained_refused _

/-- What `_read_manifest` raises, in the order in which it comes to it. -/
theorem contained_read_manifest : Contained Mapped (read_manifest library archive) ↔
    (check_infos library archive = .ok () → ∀ raised, archive.read MANIFEST_NAME = .error raised → raised.mapped = true) ∧
    (∀ payload, check_infos library archive = .ok () → archive.read MANIFEST_NAME = .ok payload → library.loads payload ≠ .error .value_error) ∧
    (∀ manifest database, Declares library archive manifest → get manifest "database" = .dict database → declares_sqlite database = true →
      (get database "schema_revision").hashable = true) ∧
    ∀ manifest revision values before value after listed, Declares library archive manifest →
      check_declaration (get manifest "database") = .ok revision → file_values manifest = .ok values → values = before ++ value :: after →
      before.foldlM (list_record library.strings) [] = .ok listed → ¬UnencodablePath library.strings value := by
  unfold read_manifest
  rw [contained_bind]
  constructor
  · rintro ⟨_, contained⟩
    refine ⟨fun infos => ?_, fun payload infos read => ?_, fun manifest database declares => ?_, fun manifest revision values before value after listed declares => ?_⟩
    · exact (contained_raised _).mp (contained_bind.mp (contained () infos)).1
    · have loaded := (contained_bind.mp (contained () infos)).2 payload (member_ok.mpr read)
      exact (contained_load_document _ _ _).mp (contained_bind.mp loaded).1
    all_goals
      obtain ⟨payload, read, document⟩ := declares.document
      have loaded := (contained_bind.mp (contained () declares.infos)).2 payload (member_ok.mpr read)
      have object := (contained_bind.mp loaded).2 _ (load_document_ok.mpr document)
      have headed := (contained_bind.mp object).2 manifest rfl
      have declared := (contained_bind.mp headed).2 () declares.heading
    · exact (contained_check_declaration _).mp (contained_bind.mp declared).1 database
    · intro known files split ran
      have listing := (contained_bind.mp declared).2 revision known
      have records := (contained_bind.mp ((contained_bind.mp listing).2 values files)).1
      exact (contained_records values).mp records before value after listed split ran
  · rintro ⟨manifest_read, numbers, revision_known, paths⟩
    refine ⟨contained_check_infos archive, fun _ infos => contained_bind.mpr ⟨(contained_raised _).mpr (manifest_read infos), fun payload read => ?_⟩⟩
    have read := member_ok.mp read
    refine contained_bind.mpr ⟨(contained_load_document _ _ _).mpr (numbers payload infos read), fun document loaded => ?_⟩
    refine contained_bind.mpr ⟨contained_manifest_of document, fun manifest object => ?_⟩
    refine contained_bind.mpr ⟨contained_check_heading manifest, fun _ heading => ?_⟩
    have declares : Declares library archive manifest :=
      ⟨infos, ⟨payload, read, manifest_of_ok.mp object ▸ load_document_ok.mp loaded⟩, heading⟩
    refine contained_bind.mpr ⟨(contained_check_declaration _).mpr fun database => revision_known manifest database declares, fun revision known => ?_⟩
    refine contained_bind.mpr ⟨contained_file_values manifest, fun values files => ?_⟩
    refine contained_bind.mpr ⟨(contained_records values).mpr ?_, fun records _ => ?_⟩
    · intro before value after listed split ran
      exact paths manifest revision values before value after listed declares known files split ran
    · refine contained_bind.mpr ⟨contained_check_records records, fun _ _ => ?_⟩
      exact contained_bind.mpr ⟨contained_check_contents archive records, fun _ _ => contained_ok _⟩

/-- The records of a manifest that is read name the database. -/
theorem read_manifest_database {document revision : Value} {records : List Record}
    (ran : read_manifest library archive = .ok (document, revision, records)) : DATABASE_MEMBER ∈ records.map (·.path) := by
  unfold read_manifest at ran
  obtain ⟨_, _, ran⟩ := bind_eq_ok.mp ran
  obtain ⟨_, _, ran⟩ := bind_eq_ok.mp ran
  obtain ⟨_, _, ran⟩ := bind_eq_ok.mp ran
  obtain ⟨_, _, ran⟩ := bind_eq_ok.mp ran
  obtain ⟨_, _, ran⟩ := bind_eq_ok.mp ran
  obtain ⟨_, _, ran⟩ := bind_eq_ok.mp ran
  obtain ⟨_, _, ran⟩ := bind_eq_ok.mp ran
  obtain ⟨listed, _, ran⟩ := bind_eq_ok.mp ran
  obtain ⟨_, checked, ran⟩ := bind_eq_ok.mp ran
  obtain ⟨_, _, ran⟩ := bind_eq_ok.mp ran
  cases ran
  unfold check_records at checked
  simp only at checked
  split at checked
  · cases checked
  next held => exact not_not.mp held

theorem contained_verify_member (record : Record) : Contained Mapped (verify_member library archive () record) ↔
    (matches_size archive record = true → ∀ raised, archive.read record.path = .error raised → raised.mapped = true) := by
  unfold verify_member
  by_cases sized : matches_size archive record = true
  · rw [if_pos sized, contained_bind]
    simp only [sized, true_implies]
    rw [show Contained Mapped (archive.member record.path) ↔ _ from contained_raised _, and_iff_left_iff_imp]
    intro _ content _
    split
    · exact contained_ok _
    · simp [Mapped, Raised.mapped]
  · simp [sized, Mapped, Raised.mapped]

/-- A member whose hash is compared can be read. -/
theorem verify_member_readable {record : Record} (ran : verify_member library archive () record = .ok ()) :
    Returns (archive.member record.path) := by
  unfold verify_member at ran
  split at ran
  · obtain ⟨content, read, _⟩ := bind_eq_ok.mp ran
    exact ⟨content, read⟩
  · cases ran

theorem verify_members_readable {records : List Record} (ran : records.foldlM (verify_member library archive) () = .ok ()) :
    ∀ record ∈ records, Returns (archive.member record.path) := by
  induction records with
  | nil => exact fun record mem => absurd mem List.not_mem_nil
  | cons first rest ih =>
    obtain ⟨_, here, later⟩ := bind_eq_ok.mp ran
    exact List.forall_mem_cons.mpr ⟨verify_member_readable here, ih later⟩

theorem contained_verify_open_archive : Contained Mapped (verify_open_archive library archive) ↔ TameArchive library archive := by
  unfold verify_open_archive
  rw [contained_bind, contained_read_manifest]
  constructor
  · rintro ⟨⟨manifest, numbers, revision, paths⟩, later⟩
    refine ⟨manifest, numbers, revision, paths, fun document revision before record after read ran => ?_⟩
    have members := (contained_bind.mp (later _ read)).1
    exact (contained_verify_member record).mp (contained_foldlM.mp members before record after () rfl ran)
  · intro tame
    refine ⟨⟨tame.manifest, tame.numbers, tame.revision, tame.paths⟩, ?_⟩
    rintro ⟨document, revision, records⟩ read
    refine contained_bind.mpr ⟨contained_foldlM.mpr fun before record after _ split ran => ?_, fun _ _ => contained_ok _⟩
    exact (contained_verify_member record).mpr (tame.members document revision before record after (split ▸ read) ran)

theorem mapped_temporary {raised : Raised} (mapped : Mapped raised) : Mapped (temporary raised) := by
  cases raised <;> first | rfl | exact mapped

theorem contained_verify_database {document revision : Value} {records : List Record}
    (verified : verify_open_archive library archive = .ok (document, revision, records)) :
    Contained Mapped (verify_database library archive revision records) := by
  obtain ⟨⟨document, revision, records⟩, read, ran⟩ := bind_eq_ok.mp verified
  obtain ⟨_, members, same⟩ := bind_eq_ok.mp ran
  cases same
  have readable := verify_members_readable members
  obtain ⟨record, listed, named⟩ := List.mem_map.mp (read_manifest_database read)
  obtain ⟨content, database⟩ := named ▸ readable record listed
  refine contained_mapError.mpr fun raised failed => mapped_temporary ?_
  rw [database, ok_bind] at failed
  split at failed
  · cases failed
    rfl
  · split at failed
    · cases failed
      rfl
    · exact contained_validate_database_evidence revision (library.finite content) readable raised failed

theorem contained_verify_stream (file : Bytes) : Contained Mapped (verify_stream library file) ↔ Tame library file := by
  unfold verify_stream
  by_cases large : MAX_ARCHIVE_BYTES < file.length
  · rw [if_pos large]
    refine iff_of_true (contained_refused _) ⟨fun bounded => absurd large (Nat.not_lt.mpr bounded), fun bounded => absurd large (Nat.not_lt.mpr bounded), ?_⟩
    exact fun archive opens => absurd large (Nat.not_lt.mpr opens.bounded)
  · have bounded := Nat.not_lt.mp large
    have passed : (preflight_zip_directory file).mapError of_preflight = .ok () ↔ preflight_zip_directory file = .ok () := by
      cases preflight_zip_directory file <;> simp [Except.mapError]
    have opened : ∀ archive, (library.zip_file file).mapError ZipRaised.raised = .ok archive ↔ library.zip_file file = .ok archive := by
      intro archive
      cases library.zip_file file <;> simp [Except.mapError]
    rw [if_neg large, contained_bind, contained_preflight]
    constructor
    · rintro ⟨offset, later⟩
      refine ⟨fun _ => offset, fun _ preflight => (contained_raised _).mp (contained_bind.mp (later () (passed.mpr preflight))).1, ?_⟩
      intro archive opens
      have inside := (contained_bind.mp (later () (passed.mpr opens.preflight))).2 archive ((opened archive).mpr opens.zip_file)
      exact contained_verify_open_archive.mp (contained_bind.mp inside).1
    · intro tame
      refine ⟨tame.offset bounded, fun _ preflight => ?_⟩
      have preflight := passed.mp preflight
      refine contained_bind.mpr ⟨(contained_raised _).mpr (tame.opening bounded preflight), fun archive zip_file => ?_⟩
      have opens : Opens library file archive := ⟨bounded, preflight, (opened archive).mp zip_file⟩
      refine contained_bind.mpr ⟨contained_verify_open_archive.mpr (tame.archive archive opens), ?_⟩
      rintro ⟨document, revision, records⟩ verified
      exact contained_bind.mpr ⟨contained_verify_database verified, fun _ _ => contained_ok _⟩

/-- The exceptions that leave `_open_archive`. -/
theorem open_archive_backup_error (raised : Raised) : (∃ message, open_archive raised = .backup_error message) ↔ Mapped raised := by
  cases raised <;> simp [open_archive, Mapped, Raised.mapped]

/-- A verification ends with the manifest or a `BackupError` for exactly the files
    that are tame. -/
theorem verify_backup_contained (library : Library) (file : Bytes) :
    ((∃ manifest, verify_backup library file = .ok manifest) ∨ ∃ message, verify_backup library file = .error (.backup_error message)) ↔
      Tame library file := by
  rw [← contained_verify_stream, verify_backup]
  cases verify_stream library file with
  | ok manifest => simp [Except.mapError]
  | error raised => simpa [Except.mapError] using open_archive_backup_error raised

end

/-- Libraries that know of no normal forms, give no archive and no database. -/
def plain_library : Library where
  strings := { names := ⟨id, List.map Char.toLower⟩, normal := fun _ => true, isdecimal := Char.isDigit, fromisoformat := fun _ => none }
  loads _ := .error .json_decode_error
  sha256 _ := []
  parse_int _ := none
  zip_file _ := .error .bad_zip_file
  connection _ := {
    connect := .error .sqlite_error, quick_check := .ok true, foreign_key_check := .ok false, version_num := .ok []
    validate_schema := fun _ => .ok (), tables := [], evidence_records := [], runs := fun _ => [] }
  finite := fun _ _ _ _ member => absurd member List.not_mem_nil

/-- A ZIP64 locator that states the offset 2 ^ 63, and an end record that asks for it. -/
def far_locator : Bytes :=
  LOCATOR ++ [0, 0, 0, 0] ++ [0, 0, 0, 0, 0, 0, 0, 0x80] ++ [1, 0, 0, 0] ++
    ZipDirectory.EOCD ++ [0, 0, 0, 0] ++ [0xFF, 0xFF] ++ [0xFF, 0xFF] ++ List.replicate 10 0

theorem far_locator_escapes : ¬∀ (library : Library) (file : Bytes),
    (∃ manifest, verify_backup library file = .ok manifest) ∨ ∃ message, verify_backup library file = .error (.backup_error message) := by
  intro refused
  have preflight : preflight_zip_directory far_locator = .error .value_error := by decide +kernel
  have raised : verify_backup plain_library far_locator = .error .value_error := by
    rw [verify_backup, verify_stream, if_neg (by decide +kernel), preflight]
    rfl
  rcases refused plain_library far_locator with ⟨manifest, returned⟩ | ⟨message, refusal⟩
  · rw [raised] at returned
    cases returned
  · rw [raised] at refusal
    cases refusal

end RedDock.HostileArchives
