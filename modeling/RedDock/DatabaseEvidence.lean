import RedDock.ManifestChecks

/-!
# Evidence that a database refers to

`_validate_database_evidence` compares the hashes and sizes in the rows of a
database with the file records of a manifest. What SQLite reads is given; what
is made of it is checked here, with every exception.
-/
set_option autoImplicit false
namespace RedDock.DatabaseEvidence
open Text Fallible Members Checks ManifestChecks

def MAX_DATABASE_EVIDENCE_REFERENCES : Nat := 100000
def MAX_DATABASE_SCHEMA_OBJECTS : Nat := 512
def MAX_MANIFEST_BYTES : Nat := 1024 * 1024

/-! ### What SQLite reads -/

/-- A value of a row. Of a real number the whole part matters, which an infinity
    has not. -/
inductive SqlValue
  | null
  | integer (i : Int)
  | real (whole : Option Int)
  | text (t : Text)
  | blob (b : Bytes)

inductive Unfetched
  | os_error
  | sqlite_error

def Unfetched.raised : Unfetched → Raised
  | .os_error => .os_error
  | .sqlite_error => .sqlite_error

/-- The rows of a query: one that cannot be fetched ends it. -/
abbrev Rows (α : Type) := List (Except Unfetched α)

structure EvidenceRow where
  dockyard_id : SqlValue
  discovery_run_id : SqlValue
  relative_path : SqlValue
  size_bytes : SqlValue
  sha256 : SqlValue

/-- The evidence path of a run, and the hashes of its files in the order of the
    query. -/
structure RunRow where
  base : SqlValue
  digests : List SqlValue

/-- What `_validate_database_schema` raises. -/
inductive SchemaRaised
  | backup_error (message : Text)
  | unfetched (raised : Unfetched)

structure Connection where
  connect : Except Unfetched Unit
  /-- Whether the check answers with `ok`. -/
  quick_check : Except Unfetched Bool
  /-- Whether a foreign key is violated. -/
  foreign_key_check : Except Unfetched Bool
  /-- At most two rows. -/
  version_num : Except Unfetched (List SqlValue)
  validate_schema : Text → Except SchemaRaised Unit
  tables : Rows Text
  evidence_records : Rows EvidenceRow
  runs : Text → Rows RunRow

def SchemaRaised.raised : SchemaRaised → Raised
  | .backup_error message => .backup_error message
  | .unfetched raised => raised.raised

def fetched {α : Type} (row : Except Unfetched α) : Except Raised α := row.mapError Unfetched.raised

/-- The revision of a row of `alembic_version`. -/
def revision_of : List SqlValue → Option Text
  | [.text revision] => if revision ∈ SCHEMA_REVISIONS.map String.toList then some revision else none
  | _ => none

def check_rows (connection : Connection) : Except Raised Text := do
  fetched connection.connect
  let ok ← fetched connection.quick_check
  let violated ← fetched connection.foreign_key_check
  let revisions ← fetched connection.version_num
  if ok = false then refused "SQLite integrity check failed"
  else if violated then refused "SQLite foreign-key integrity check failed"
  else match revision_of revisions with
    | none => refused "SQLite schema revision is missing or unsupported"
    | some revision => do
      (connection.validate_schema revision).mapError SchemaRaised.raised
      return revision

/-- The `except` clause of `_check_database`. -/
def uncompleted : Raised → Raised
  | .os_error | .sqlite_error => .backup_error "SQLite integrity check could not be completed".toList
  | raised => raised

/-- `_check_database` of a regular file of some size without sidecars. -/
def check_database (size : Nat) (connection : Connection) : Except Raised Text :=
  if ManifestChecks.MAX_DATABASE_BYTES < (size : Int) then refused "SQLite database exceeds the fixed database size limit"
  else (check_rows connection).mapError uncompleted

/-! ### References -/

section
variable (strings : Strings)

/-- `_evidence_member`, of two objects that may not be strings. -/
def evidence_member (base relative : Option Text) : Except Raised Text :=
  match base, relative with
  | some base, some relative =>
    let member := "evidence/".toList ++ base ++ '/' :: relative
    if safe_member strings.names member then .ok member else refused "SQLite contains an unsafe evidence path"
  | _, _ => refused "SQLite contains an invalid evidence path"

/-- The size a reference gives: none, an integer, or an object that is none. -/
inductive Size
  | absent
  | int (i : Int)
  | other

/-- `records.get(member)` of the records by their names. -/
def record_of (records : List Record) (member : Text) : Option Record := records.find? fun record => record.path = member

/-- `_validate_reference`, with the digest where it is a string. -/
def validate_reference (records : List Record) (member : Text) (digest : Option PyStr) (size : Size) : Except Raised Unit :=
  match digest with
  | none => refused "SQLite contains an invalid evidence hash"
  | some digest =>
    if !valid_sha256 digest then refused "SQLite contains an invalid evidence hash"
    else match record_of records member with
      | none => .error (.backup_error ("SQLite references missing backup evidence: ".toList ++ member))
      | some record =>
        if points record.sha256 ≠ digest then
          .error (.backup_error ("SQLite evidence hash does not match backup member: ".toList ++ member))
        else match size with
          | .absent => .ok ()
          | .other => refused "SQLite contains an invalid evidence size"
          | .int size =>
            if size < 0 then refused "SQLite contains an invalid evidence size"
            else if record.size_bytes ≠ size then
              .error (.backup_error ("SQLite evidence size does not match backup member: ".toList ++ member))
            else .ok ()

/-! ### The manifest of a validation -/

def EXPECTED_PATHS : List Text := ["raw/http-recheck.json".toList, "normalized/result.json".toList, "metadata.json".toList]

def is_filled : Value → Bool
  | .str s => s ≠ []
  | _ => false

def is_bool : Value → Bool
  | .bool _ => true
  | _ => false

def string_of : Value → Option PyStr
  | .str s => some s
  | _ => none

/-- One round over the artifacts, with the paths seen before it. -/
def see_artifact (records : List Record) (base : Text) (seen : List Text) (item : Value) : Except Raised (List Text) :=
  match item with
  | .dict members =>
    if has_keys members ["kind", "path", "media_type", "bytes", "sha256", "truncated"] then
      match get members "path", get members "bytes" with
      | .str name, .int size =>
        let relative := text_of name
        if is_filled (get members "kind") && is_filled (get members "media_type") && is_bool (get members "truncated") &&
            decide (name = points relative ∧ relative ∈ EXPECTED_PATHS ∧ relative ∉ seen ∧ 0 ≤ size) then do
          let member ← evidence_member strings (some base) (some relative)
          validate_reference records member (string_of (get members "sha256")) (.int size)
          return seen ++ [relative]
        else refused "Validation evidence manifest contains an unsafe artifact"
      | _, _ => refused "Validation evidence manifest contains an unsafe artifact"
    else refused "Validation evidence manifest contains an invalid artifact"
  | _ => refused "Validation evidence manifest contains an invalid artifact"

variable (loads : Bytes → Except Unread Value)

/-- `json.loads` of a payload, where three of its exceptions are a refusal. -/
def load_document (message : String) (payload : Bytes) : Except Raised Value :=
  match loads payload with
  | .ok value => .ok value
  | .error .value_error => .error .value_error
  | .error _ => refused message

/-- `_validate_validation_manifest` -/
def validate_validation_manifest (records : List Record) (base : Text) (payload : Bytes) : Except Raised Unit :=
  if MAX_MANIFEST_BYTES < payload.length then refused "Validation evidence manifest exceeds the fixed size limit"
  else do
    let document ← load_document loads "Validation evidence manifest is invalid" payload
    match document with
    | .dict members => match get members "artifacts" with
      | .list items =>
        if has_keys members ["schema", "artifacts"] && is_text (get members "schema") "reddock.validation-package/1".toList &&
            decide (items.length = 3) then do
          let seen ← items.foldlM (see_artifact strings records base) []
          if EXPECTED_PATHS.all fun path => path ∈ seen then return ()
          else refused "Validation evidence manifest is incomplete"
        else refused "Validation evidence manifest structure is unsupported"
      | _ => refused "Validation evidence manifest structure is unsupported"
    | _ => refused "Validation evidence manifest structure is unsupported"

/-! ### The rows -/

/-- `int(value)`, with what it makes of a text or of bytes. -/
def int_of (parse_int : SqlValue → Option Int) : SqlValue → Except Raised Int
  | .null => .error .type_error
  | .integer i => .ok i
  | .real (some whole) => .ok whole
  | .real none => .error .overflow_error
  | value => (parse_int value).elim (.error .value_error) .ok

def text_value : SqlValue → Option Text
  | .text t => some t
  | _ => none

def digest_value : SqlValue → Option PyStr
  | .text t => some (points t)
  | _ => none

def size_value : SqlValue → Size
  | .null => .absent
  | .integer i => .int i
  | _ => .other

def decimal (i : Int) : Text := if i < 0 then '-' :: dec i.natAbs else dec i.natAbs

/-- The count of references, which is limited. -/
def count_reference (count : Nat) : Except Raised Nat :=
  if MAX_DATABASE_EVIDENCE_REFERENCES < count + 1 then refused "SQLite contains too many evidence references" else .ok (count + 1)

variable (parse_int : SqlValue → Option Int) (records : List Record) (reader : Text → Except Raised Bytes)

def validate_evidence_row (count : Nat) (row : Except Unfetched EvidenceRow) : Except Raised Nat := do
  let row ← fetched row
  let count ← count_reference count
  let dockyard_id ← int_of parse_int row.dockyard_id
  let run_id ← int_of parse_int row.discovery_run_id
  let member ← evidence_member strings (some (decimal dockyard_id ++ '/' :: decimal run_id)) (text_value row.relative_path)
  validate_reference records member (digest_value row.sha256) (size_value row.size_bytes)
  return count

/-- The files of each kind of run, in the order of the hashes of its rows. -/
def RUN_REFERENCES : List (String × List String) := [
  ("detection_runs", ["metadata.json", "normalized/result.json"]),
  ("validation_runs", ["metadata.json", "normalized/result.json", "raw/manifest.json"]),
  ("correlation_runs", ["metadata.json", "normalized/result.json"]),
  ("intelligence_runs", ["normalized/result.json", "raw/advice.json", "metadata.json"]),
  ("report_runs", ["normalized/result.json", "raw/technical.md", "raw/executive.md", "raw/evidence-manifest.json", "raw/dockpack.zip"])]

/-- One hash of a run: a hash that is absent refers to nothing. -/
def validate_run_file (base : SqlValue) (count : Nat) (file : String × SqlValue) : Except Raised Nat :=
  match file.2 with
  | .null => .ok count
  | digest => do
    let count ← count_reference count
    let member ← evidence_member strings (text_value base) (some file.1.toList)
    validate_reference records member (digest_value digest) .absent
    return count

/-- The manifest of a validation whose third hash is there. -/
def validate_run_manifest (base : SqlValue) : Except Raised Unit := do
  let member ← evidence_member strings (text_value base) (some "raw/manifest.json".toList)
  match record_of records member with
  | none => refused "Validation evidence manifest exceeds the fixed size limit"
  | some record =>
    if (MAX_MANIFEST_BYTES : Int) < record.size_bytes then refused "Validation evidence manifest exceeds the fixed size limit"
    else do
      let payload ← reader member
      validate_validation_manifest strings loads records ((text_value base).getD []) payload

def is_null : SqlValue → Bool
  | .null => true
  | _ => false

def validate_run_row (table : String) (files : List String) (count : Nat) (row : Except Unfetched RunRow) : Except Raised Nat := do
  let row ← fetched row
  let count ← (files.zip row.digests).foldlM (validate_run_file strings records row.base) count
  if table = "validation_runs" ∧ is_null (row.digests.getD 2 .null) = false then
    validate_run_manifest strings loads records reader row.base
  return count

def validate_runs (connection : Connection) (tables : List Text) (count : Nat) (entry : String × List String) : Except Raised Nat :=
  if entry.1.toList ∈ tables then
    (connection.runs entry.1.toList).foldlM (validate_run_row strings loads records reader entry.1 entry.2) count
  else .ok count

/-- One row of the list of tables. -/
def add_table (tables : List Text) (row : Except Unfetched Text) : Except Raised (List Text) := do
  let table ← fetched row
  if MAX_DATABASE_SCHEMA_OBJECTS < tables.length + 1 then refused "SQLite schema contains too many tables"
  else return tables ++ [table]

def validate_evidence_rows (connection : Connection) (tables : List Text) : Except Raised Nat :=
  if "evidence_records".toList ∈ tables then
    connection.evidence_records.foldlM (validate_evidence_row strings parse_int records) 0
  else .ok 0

def validate_rows (connection : Connection) : Except Raised Unit := do
  fetched connection.connect
  let tables ← connection.tables.foldlM add_table []
  let count ← validate_evidence_rows strings parse_int records connection tables
  let _ ← RUN_REFERENCES.foldlM (validate_runs strings loads records reader connection tables) count
  return ()

/-- The exceptions that `_validate_database_evidence` maps to `BackupError`. A
    `ValueError` is a decoding error or an encoding error too. -/
def absorbed : Raised → Bool
  | .backup_error _ | .os_error | .sqlite_error | .type_error | .value_error => true
  | .unicode_decode_error | .unicode_encode_error | .json_decode_error => true
  | _ => false

def absorb : Raised → Raised
  | .backup_error message => .backup_error message
  | raised => if absorbed raised then .backup_error "SQLite evidence references could not be validated".toList else raised

/-- `_validate_database_evidence` of a database of some size. -/
def validate_database_evidence (size : Nat) (connection : Connection) (expected_revision : Value) : Except Raised Unit := do
  let revision ← check_database size connection
  if is_text expected_revision revision then
    (validate_rows strings loads parse_int records reader connection).mapError absorb
  else refused "SQLite schema revision does not match the backup manifest"

end

/-! ### What the validation raises -/

abbrev Absorbed (raised : Raised) : Prop := absorbed raised = true

/-- An evidence row whose ids are finite. -/
def FiniteIds (row : EvidenceRow) : Prop := row.dockyard_id ≠ .real none ∧ row.discovery_run_id ≠ .real none

@[simp] theorem absorbed_refused {α : Type} (message : String) : Contained Absorbed (refused message : Except Raised α) := by
  simp [refused, Absorbed, absorbed]

@[simp] theorem absorbed_backup_error {α : Type} (message : Text) :
    Contained Absorbed (.error (.backup_error message) : Except Raised α) := by
  simp [Absorbed, absorbed]

theorem absorbed_fetched {α : Type} (row : Except Unfetched α) : Contained Absorbed (fetched row) := by
  cases row with
  | ok value => exact contained_ok value
  | error raised => cases raised <;> simp [fetched, Except.mapError, Unfetched.raised, Absorbed, absorbed]

theorem absorbed_foldlM {α β : Type} {f : β → α → Except Raised β} {items : List α} {start : β}
    (each : ∀ b, ∀ item ∈ items, Contained Absorbed (f b item)) : Contained Absorbed (items.foldlM f start) :=
  contained_foldlM.mpr fun before item _ b split _ => each b item (split ▸ List.mem_append_right before List.mem_cons_self)

section
variable {strings : Strings} {loads : Bytes → Except Unread Value} {parse_int : SqlValue → Option Int} {records : List Record}
  {reader : Text → Except Raised Bytes}

theorem absorbed_evidence_member (base relative : Option Text) : Contained Absorbed (evidence_member strings base relative) := by
  unfold evidence_member
  split
  · simp only
    split
    · exact contained_ok _
    · exact absorbed_refused _
  · exact absorbed_refused _

theorem absorbed_validate_reference (member : Text) (digest : Option PyStr) (size : Size) :
    Contained Absorbed (validate_reference records member digest size) := by
  unfold validate_reference
  split
  · exact absorbed_refused _
  · split
    · exact absorbed_refused _
    · split
      · exact absorbed_backup_error _
      · split
        · exact absorbed_backup_error _
        · split
          · exact contained_ok _
          · exact absorbed_refused _
          · split
            · exact absorbed_refused _
            · split
              · exact absorbed_backup_error _
              · exact contained_ok _

theorem absorbed_count_reference (count : Nat) : Contained Absorbed (count_reference count) := by
  unfold count_reference
  split
  · exact absorbed_refused _
  · exact contained_ok _

theorem absorbed_see_artifact (base : Text) (seen : List Text) (item : Value) :
    Contained Absorbed (see_artifact strings records base seen item) := by
  unfold see_artifact
  split
  · split
    · split
      · simp only
        split
        · refine contained_bind.mpr ⟨absorbed_evidence_member _ _, fun member _ => ?_⟩
          exact contained_bind.mpr ⟨absorbed_validate_reference _ _ _, fun _ _ => contained_ok _⟩
        · exact absorbed_refused _
      · exact absorbed_refused _
    · exact absorbed_refused _
  · exact absorbed_refused _

theorem absorbed_load_document (message : String) (payload : Bytes) : Contained Absorbed (load_document loads message payload) := by
  unfold load_document
  split
  · exact contained_ok _
  · simp [Absorbed, absorbed]
  · exact absorbed_refused _

theorem absorbed_validate_validation_manifest (base : Text) (payload : Bytes) :
    Contained Absorbed (validate_validation_manifest strings loads records base payload) := by
  unfold validate_validation_manifest
  split
  · exact absorbed_refused _
  · refine contained_bind.mpr ⟨absorbed_load_document _ _, fun document _ => ?_⟩
    split
    · split
      · split
        · refine contained_bind.mpr ⟨absorbed_foldlM fun seen item _ => absorbed_see_artifact base seen item, fun seen _ => ?_⟩
          split
          · exact contained_ok _
          · exact absorbed_refused _
        · exact absorbed_refused _
      · exact absorbed_refused _
    · exact absorbed_refused _

theorem absorbed_int_of {value : SqlValue} (finite : value ≠ .real none) : Contained Absorbed (int_of parse_int value) := by
  unfold int_of
  split
  · simp [Absorbed, absorbed]
  · exact contained_ok _
  · exact contained_ok _
  · exact absurd rfl finite
  · cases parse_int value with
    | none => simp [Absorbed, absorbed]
    | some i => exact contained_ok i

theorem absorbed_validate_evidence_row (count : Nat) {row : Except Unfetched EvidenceRow} (finite : ∀ read, row = .ok read → FiniteIds read) :
    Contained Absorbed (validate_evidence_row strings parse_int records count row) := by
  refine contained_bind.mpr ⟨absorbed_fetched row, fun read ran => ?_⟩
  have finite : FiniteIds read := by
    cases row with
    | ok value =>
      cases ran
      exact finite read rfl
    | error raised => cases ran
  refine contained_bind.mpr ⟨absorbed_count_reference count, fun count _ => ?_⟩
  refine contained_bind.mpr ⟨absorbed_int_of finite.1, fun dockyard_id _ => ?_⟩
  refine contained_bind.mpr ⟨absorbed_int_of finite.2, fun run_id _ => ?_⟩
  refine contained_bind.mpr ⟨absorbed_evidence_member _ _, fun member _ => ?_⟩
  exact contained_bind.mpr ⟨absorbed_validate_reference _ _ _, fun _ _ => contained_ok _⟩

theorem absorbed_validate_run_file (base : SqlValue) (count : Nat) (file : String × SqlValue) :
    Contained Absorbed (validate_run_file strings records base count file) := by
  unfold validate_run_file
  split
  · exact contained_ok _
  · refine contained_bind.mpr ⟨absorbed_count_reference count, fun count _ => ?_⟩
    refine contained_bind.mpr ⟨absorbed_evidence_member _ _, fun member _ => ?_⟩
    exact contained_bind.mpr ⟨absorbed_validate_reference _ _ _, fun _ _ => contained_ok _⟩

theorem record_of_some {member : Text} {record : Record} (found : record_of records member = some record) :
    record ∈ records ∧ record.path = member := by
  have same := List.find?_some found
  exact ⟨List.mem_of_find?_eq_some found, by simpa using same⟩

theorem absorbed_validate_run_manifest (base : SqlValue) (readable : ∀ record ∈ records, Returns (reader record.path)) :
    Contained Absorbed (validate_run_manifest strings loads records reader base) := by
  refine contained_bind.mpr ⟨absorbed_evidence_member _ _, fun member _ => ?_⟩
  split
  · exact absorbed_refused _
  next record found =>
    split
    · exact absorbed_refused _
    · obtain ⟨listed, rfl⟩ := record_of_some found
      obtain ⟨payload, read⟩ := readable record listed
      rw [read, ok_bind]
      exact absorbed_validate_validation_manifest _ _

theorem absorbed_validate_run_row (table : String) (files : List String) (count : Nat) (row : Except Unfetched RunRow)
    (readable : ∀ record ∈ records, Returns (reader record.path)) :
    Contained Absorbed (validate_run_row strings loads records reader table files count row) := by
  refine contained_bind.mpr ⟨absorbed_fetched row, fun read _ => ?_⟩
  refine contained_bind.mpr ⟨absorbed_foldlM fun count file _ => absorbed_validate_run_file _ count file, fun count _ => ?_⟩
  simp only
  split
  · exact contained_bind.mpr ⟨absorbed_validate_run_manifest _ readable, fun _ _ => contained_ok _⟩
  · exact contained_ok _

theorem absorbed_validate_runs (connection : Connection) (tables : List Text) (count : Nat) (entry : String × List String)
    (readable : ∀ record ∈ records, Returns (reader record.path)) :
    Contained Absorbed (validate_runs strings loads records reader connection tables count entry) := by
  unfold validate_runs
  split
  · exact absorbed_foldlM fun count row _ => absorbed_validate_run_row _ _ count row readable
  · exact contained_ok _

theorem absorbed_add_table (tables : List Text) (row : Except Unfetched Text) : Contained Absorbed (add_table tables row) := by
  refine contained_bind.mpr ⟨absorbed_fetched row, fun table _ => ?_⟩
  split
  · exact absorbed_refused _
  · exact contained_ok _

/-- The rows of a database, where every member that is asked for can be read. -/
theorem absorbed_validate_rows {connection : Connection} (finite : ∀ row, .ok row ∈ connection.evidence_records → FiniteIds row)
    (readable : ∀ record ∈ records, Returns (reader record.path)) :
    Contained Absorbed (validate_rows strings loads parse_int records reader connection) := by
  refine contained_bind.mpr ⟨absorbed_fetched _, fun _ _ => ?_⟩
  refine contained_bind.mpr ⟨absorbed_foldlM fun tables row _ => absorbed_add_table tables row, fun tables _ => ?_⟩
  refine contained_bind.mpr ⟨?_, fun count _ => ?_⟩
  · unfold validate_evidence_rows
    split
    · refine absorbed_foldlM fun count row mem => absorbed_validate_evidence_row count fun read same => ?_
      exact finite read (same ▸ mem)
    · exact contained_ok _
  · exact contained_bind.mpr ⟨absorbed_foldlM fun count entry _ => absorbed_validate_runs connection tables count entry readable,
      fun _ _ => contained_ok _⟩

theorem mapped_absorb {raised : Raised} (caught : Absorbed raised) : Mapped (absorb raised) := by
  cases raised <;> first | rfl | cases caught

theorem contained_absorb {α : Type} {x : Except Raised α} (caught : Contained Absorbed x) : Contained Mapped (x.mapError absorb) := by
  cases x with
  | ok value => exact contained_ok value
  | error raised => exact (contained_error _).mpr (mapped_absorb (caught raised rfl))

theorem uncompleted_fetched {α : Type} (row : Except Unfetched α) : Contained (fun raised => Mapped (uncompleted raised)) (fetched row) := by
  cases row with
  | ok value => exact contained_ok value
  | error raised => cases raised <;> simp [fetched, Except.mapError, Unfetched.raised, uncompleted, Mapped, Raised.mapped]

theorem uncompleted_refused {α : Type} (message : String) :
    Contained (fun raised => Mapped (uncompleted raised)) (refused message : Except Raised α) := by
  simp [refused, uncompleted, Mapped, Raised.mapped]

theorem contained_check_database (size : Nat) (connection : Connection) : Contained Mapped (check_database size connection) := by
  unfold check_database
  split
  · exact contained_refused _
  · refine contained_mapError.mpr ?_
    refine contained_bind.mpr ⟨uncompleted_fetched _, fun _ _ => ?_⟩
    refine contained_bind.mpr ⟨uncompleted_fetched _, fun ok _ => ?_⟩
    refine contained_bind.mpr ⟨uncompleted_fetched _, fun violated _ => ?_⟩
    refine contained_bind.mpr ⟨uncompleted_fetched _, fun revisions _ => ?_⟩
    split
    · exact uncompleted_refused _
    · split
      · exact uncompleted_refused _
      · split
        · exact uncompleted_refused _
        next revision known =>
          refine contained_bind.mpr ⟨?_, fun _ _ => contained_ok _⟩
          refine contained_mapError.mpr fun raised _ => ?_
          cases raised with
          | backup_error message => rfl
          | unfetched unfetched => cases unfetched <;> rfl

theorem contained_validate_database_evidence {size : Nat} {connection : Connection} (expected_revision : Value)
    (finite : ∀ revision row, check_database size connection = .ok revision → .ok row ∈ connection.evidence_records → FiniteIds row)
    (readable : ∀ record ∈ records, Returns (reader record.path)) :
    Contained Mapped (validate_database_evidence strings loads parse_int records reader size connection expected_revision) := by
  refine contained_bind.mpr ⟨contained_check_database size connection, fun revision checked => ?_⟩
  split
  · exact contained_absorb (absorbed_validate_rows (fun row => finite revision row checked) readable)
  · exact contained_refused _

end

end RedDock.DatabaseEvidence
