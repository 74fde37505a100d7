import RedDock.JsonSizes
import RedDock.ManifestChecks

/-!
# The manifest of a backup

`_manifest_bytes` writes what the checks on a manifest accept, and a manifest
is longer than the names of its files.
-/
set_option autoImplicit false
namespace RedDock.BackupManifests
open Text Fallible Members Checks ManifestChecks JsonSizes
open Detection (Json)
open JsonText (rendered quoted escaped stored_document dumps)

/-! ### Documents -/

mutual

/-- What `json.loads` reads of a text that `json.dumps` wrote of a document whose
    keys are in order. -/
def value_of : Json → Value
  | .null => .null
  | .bool b => .bool b
  | .int i => .int i
  | .float digits => .float digits
  | .str t => .str (points t)
  | .list items => .list (values_of items)
  | .object members => .dict (members_of members)

def values_of : List Json → List Value
  | [] => []
  | item :: items => value_of item :: values_of items

def members_of : List (Text × Json) → List (PyStr × Value)
  | [] => []
  | (key, value) :: members => (points key, value_of value) :: members_of members

end

theorem values_of_eq (items : List Json) : values_of items = items.map value_of := by
  induction items with
  | nil => rfl
  | cons item items ih => rw [values_of, ih, List.map_cons]

def record_json (record : Record) : Json := .object [("path".toList, .str record.path), ("sha256".toList, .str record.sha256),
  ("size_bytes".toList, .int record.size_bytes)]

def VERSION : Text := "0.8.3".toList

/-- The document of `_manifest_bytes`, at a moment. -/
def manifest_json (created_at : Text) (files : List Record) (schema_revision : Text) : Json := .object [
  ("application".toList, .object [("name".toList, .str "RedDock".toList), ("version".toList, .str VERSION)]),
  ("created_at".toList, .str created_at),
  ("database".toList, .object [("engine".toList, .str "sqlite".toList), ("path".toList, .str DATABASE_MEMBER),
    ("schema_revision".toList, .str schema_revision)]),
  ("files".toList, .list (files.map record_json)),
  ("schema".toList, .str "reddock.backup/1".toList)]

def manifest_bytes (created_at : Text) (files : List Record) (schema_revision : Text) : Bytes :=
  stored_document (manifest_json created_at files schema_revision)

/-! ### The checks accept it -/

def application_members : List (PyStr × Value) := [
  (points "name".toList, .str (points "RedDock".toList)), (points "version".toList, .str (points VERSION))]

def database_members (schema_revision : Text) : List (PyStr × Value) := [
  (points "engine".toList, .str (points "sqlite".toList)), (points "path".toList, .str (points DATABASE_MEMBER)),
  (points "schema_revision".toList, .str (points schema_revision))]

/-- The document of a manifest that is read back. -/
def manifest_members (created_at : Text) (files : List Record) (schema_revision : Text) : List (PyStr × Value) := [
  (points "application".toList, .dict application_members),
  (points "created_at".toList, .str (points created_at)),
  (points "database".toList, .dict (database_members schema_revision)),
  (points "files".toList, .list (files.map fun record => value_of (record_json record))),
  (points "schema".toList, .str (points "reddock.backup/1".toList))]

theorem value_of_manifest (created_at : Text) (files : List Record) (schema_revision : Text) :
    value_of (manifest_json created_at files schema_revision) = .dict (manifest_members created_at files schema_revision) := by
  simp only [manifest_json, value_of, members_of, values_of_eq, List.map_map]
  rfl

section
variable {created_at schema_revision : Text} {files : List Record}

theorem get_application : get (manifest_members created_at files schema_revision) "application" = .dict application_members := rfl
theorem get_created_at : get (manifest_members created_at files schema_revision) "created_at" = .str (points created_at) := rfl
theorem get_database : get (manifest_members created_at files schema_revision) "database" = .dict (database_members schema_revision) := rfl
theorem get_files : get (manifest_members created_at files schema_revision) "files" =
    .list (files.map fun record => value_of (record_json record)) := rfl
theorem get_schema : get (manifest_members created_at files schema_revision) "schema" = .str (points "reddock.backup/1".toList) := rfl

theorem is_text_points (t : Text) : is_text (.str (points t)) t = true := decide_eq_true rfl

theorem version_ok (strings : Strings) : is_version strings (points VERSION) = true := rfl

/-- A manifest is headed as the checks expect, where its moment is read as one of UTC. -/
theorem heading_ok {strings : Strings} (utc : strings.fromisoformat (points created_at) = some (some 0)) :
    check_heading strings (manifest_members created_at files schema_revision) = .ok () := by
  have keys : has_keys (manifest_members created_at files schema_revision) MANIFEST_KEYS = true := rfl
  have application : check_application strings (get (manifest_members created_at files schema_revision) "application") = .ok () := by
    have named : (has_keys application_members ["name", "version"] && is_text (get application_members "name") "RedDock".toList) = true := rfl
    have version : get application_members "version" = .str (points VERSION) := rfl
    simp only [get_application, check_application, named, version, version_ok, if_true]
  have created : validate_created_at strings (get (manifest_members created_at files schema_revision) "created_at") = .ok () := by
    rw [get_created_at]
    simp [validate_created_at, utc]
  unfold check_heading
  rw [keys, get_schema, is_text_points, application]
  exact created

theorem declaration_ok (known : schema_revision ∈ SCHEMA_REVISIONS.map String.toList) :
    check_declaration (get (manifest_members created_at files schema_revision) "database") = .ok (.str (points schema_revision)) := by
  have revision : known_revision (.str (points schema_revision)) = .ok true := by
    obtain ⟨name, member, rfl⟩ := List.mem_map.mp known
    exact congrArg Except.ok (List.any_eq_true.mpr ⟨name, member, decide_eq_true rfl⟩)
  have declared : declares_sqlite (database_members schema_revision) = true := rfl
  have stated : get (database_members schema_revision) "schema_revision" = .str (points schema_revision) := rfl
  simp only [get_database, check_declaration, declared, stated, revision, ok_bind, if_true]
  rfl

theorem values_ok (some_file : files ≠ []) (few : files.length ≤ MAX_ARCHIVE_ENTRIES) :
    file_values (manifest_members created_at files schema_revision) = .ok (files.map fun record => value_of (record_json record)) := by
  unfold file_values
  rw [get_files]
  have positive := List.length_pos_iff.mpr some_file
  simp only [List.length_map]
  rw [if_pos ⟨positive, few⟩]

end

/-! ### Its records -/

/-- A record that stands for a file of a backup. -/
structure Recordable (names : Names) (record : Record) : Prop where
  safe : safe_member names record.path = true
  placed : record.path = DATABASE_MEMBER ∨ "evidence/".toList <+: record.path
  size : 0 ≤ record.size_bytes
  digest : valid_sha256 (points record.sha256) = true
  database : record.path = DATABASE_MEMBER → record.size_bytes ≤ MAX_DATABASE_BYTES

section
variable {strings : Strings}

def record_members (record : Record) : List (PyStr × Value) := [(points "path".toList, .str (points record.path)),
  (points "sha256".toList, .str (points record.sha256)), (points "size_bytes".toList, .int record.size_bytes)]

theorem read_record_ok {record : Record} (recordable : Recordable strings.names record) :
    read_record strings (value_of (record_json record)) = .ok record := by
  have members : value_of (record_json record) = .dict (record_members record) := rfl
  have keys : has_keys (record_members record) FILE_KEYS = true := rfl
  have path : get (record_members record) "path" = .str (points record.path) := rfl
  have size : get (record_members record) "size_bytes" = .int record.size_bytes := rfl
  have digest : get (record_members record) "sha256" = .str (points record.sha256) := rfl
  have kept : (record.path = DATABASE_MEMBER ∨ "evidence/".toList <+: record.path) ∧ 0 ≤ record.size_bytes ∧
      valid_sha256 (points record.sha256) = true := ⟨recordable.placed, recordable.size, recordable.digest⟩
  simp only [members, read_record, keys, path, size, digest, safe_member_of_points, recordable.safe, text_of_points, kept, ok_bind, if_true]
  rfl

theorem list_record_ok {listed : List Record} {record : Record} (recordable : Recordable strings.names record)
    (unlisted : record.path ∉ listed.map (·.path)) (room : (listed.map (·.size_bytes)).sum + record.size_bytes ≤ MAX_UNCOMPRESSED_BYTES) :
    list_record strings listed (value_of (record_json record)) = .ok (listed ++ [record]) := by
  rw [list_record, read_record_ok recordable, ok_bind, if_neg fun large => absurd (recordable.database large.1) (Int.not_le.mpr large.2),
    if_neg unlisted, if_neg (Int.not_lt.mpr room)]
  rfl

/-- The records of a manifest are read back one after another. -/
theorem list_records_ok {listed records : List Record} (recordable : ∀ record ∈ records, Recordable strings.names record)
    (apart : ((listed ++ records).map (·.path)).Nodup) (room : ((listed ++ records).map (·.size_bytes)).sum ≤ MAX_UNCOMPRESSED_BYTES) :
    (records.map fun record => value_of (record_json record)).foldlM (list_record strings) listed = .ok (listed ++ records) := by
  induction records generalizing listed with
  | nil => rw [List.append_nil]; rfl
  | cons record records ih =>
    obtain ⟨here, later⟩ := List.forall_mem_cons.mp recordable
    have arrange : listed ++ [record] ++ records = listed ++ record :: records := by simp
    have unlisted : record.path ∉ listed.map (·.path) := by
      rw [List.map_append, List.map_cons, List.nodup_append'] at apart
      exact fun member => apart.2.2 member List.mem_cons_self
    have nonneg : 0 ≤ (records.map (·.size_bytes)).sum := by
      refine List.sum_nonneg fun size member => ?_
      obtain ⟨other, inside, rfl⟩ := List.mem_map.mp member
      exact (later other inside).size
    have room_here : (listed.map (·.size_bytes)).sum + record.size_bytes ≤ MAX_UNCOMPRESSED_BYTES := by
      simp only [List.map_append, List.map_cons, List.sum_append, List.sum_cons] at room
      omega
    rw [List.map_cons, List.foldlM_cons, list_record_ok here unlisted room_here, ok_bind, ih later (arrange ▸ apart) (arrange ▸ room), arrange]

theorem check_records_ok {records : List Record} (database : DATABASE_MEMBER ∈ records.map (·.path))
    (sorted : (records.map (·.path)).Pairwise (· ≤ ·)) (apart : (records.map fun record => strings.names.casefold record.path).Nodup) :
    check_records strings records = .ok () := by
  have in_order : (records.map (·.path)).insertionSort (· ≤ ·) = records.map (·.path) := List.Pairwise.insertionSort_eq sorted
  have apart : ((records.map (·.path)).map strings.names.casefold).Nodup := by rwa [List.map_map]
  rw [check_records]
  simp only [in_order]
  rw [if_neg (not_not.mpr database), if_neg (not_not.mpr rfl), if_pos apart]

end

/-! ### Its size -/

/-- The size of a manifest, by the paths and sizes of its files. -/
def manifest_size (created_at schema_revision : Text) (files : List (Text × Nat)) : Nat :=
  243 + (quoted true created_at).length + (quoted true schema_revision).length +
    (files.map fun file => 134 + (quoted true file.1).length + (dec file.2).length).sum

/-- A record by its path and its size. -/
def sized (record : Record) : Text × Nat := (record.path, record.size_bytes.toNat)

/-- A digest stands in a literal as it is. -/
theorem digest_length {sha256 : Text} (digest : valid_sha256 (points sha256) = true) : (quoted true sha256).length = 66 := by
  rw [valid_sha256, Bool.and_eq_true, decide_eq_true_eq, List.all_eq_true, points, List.length_map] at digest
  obtain ⟨length, digits⟩ := digest
  have digit_kept : ("0123456789abcdef".toList.all fun c => decide (93 ≤ c.toNat ∧ c.toNat ≤ 126 ∨ 35 ≤ c.toNat ∧ c.toNat ≤ 91)) = true := by
    decide +kernel
  have kept : ∀ c ∈ sha256, escaped true c = [c] := by
    intro c member
    have digit := (mem_points c _).mp (of_decide_eq_true (digits _ (List.mem_map_of_mem member)))
    have plain := of_decide_eq_true (List.all_eq_true.mp digit_kept c digit)
    exact escaped_printable (by omega) (by omega)
  have escapes : sha256.flatMap (escaped true) = sha256 := by
    clear length digits
    induction sha256 with
    | nil => rfl
    | cons c rest ih =>
      obtain ⟨here, later⟩ := List.forall_mem_cons.mp kept
      rw [List.flatMap_cons, here, ih later]
      rfl
  rw [quoted, escapes, List.length_cons, List.length_append, length, List.length_singleton]

theorem record_size {record : Record} (digest : valid_sha256 (points record.sha256) = true) (nonneg : 0 ≤ record.size_bytes) :
    utf8_size (rendered true 2 (record_json record)) = 128 + (quoted true record.path).length + (dec record.size_bytes.toNat).length := by
  have number : utf8_size (rendered true 3 (.int record.size_bytes)) = (dec record.size_bytes.toNat).length := by
    have natural : record.size_bytes.natAbs = record.size_bytes.toNat := by omega
    rw [rendered, HttpHeaders.dec_int, if_neg (Int.not_lt.mpr nonneg), dec_size, natural]
  have texts : ∀ t : Text, utf8_size (rendered true 3 (.str t)) = (quoted true t).length := fun t => by rw [rendered, quoted_size]
  have path : (quoted true "path".toList).length = 6 := by decide
  have sha256 : (quoted true "sha256".toList).length = 8 := by decide
  have size_bytes : (quoted true "size_bytes".toList).length = 12 := by decide
  have sorted : ["path".toList, "sha256".toList, "size_bytes".toList].Pairwise (· ≤ ·) := by decide +kernel
  rw [record_json, object_size 2 (List.cons_ne_nil _ _) (by exact sorted)]
  simp only [List.map_cons, List.map_nil, List.sum_cons, List.sum_nil, texts, number, digest_length digest, path, sha256, size_bytes]
  omega

theorem manifest_length {created_at schema_revision : Text} {records : List Record} (some_file : records ≠ [])
    (digests : ∀ record ∈ records, valid_sha256 (points record.sha256) = true) (nonneg : ∀ record ∈ records, 0 ≤ record.size_bytes) :
    (manifest_bytes created_at records schema_revision).length = manifest_size created_at schema_revision (records.map sized) := by
  have texts : ∀ (level : Nat) (t : Text), utf8_size (rendered true level (.str t)) = (quoted true t).length := fun level t => by
    rw [rendered, quoted_size]
  have files : utf8_size (rendered true 1 (.list (records.map record_json))) =
      4 + (records.map fun record => 134 + (quoted true record.path).length + (dec record.size_bytes.toNat).length).sum := by
    rw [list_size 1 (fun none => some_file (List.map_eq_nil_iff.mp none)), List.map_map]
    refine congrArg (4 + List.sum ·) (List.map_congr_left fun record member => ?_)
    rw [Function.comp_apply, record_size (digests record member) (nonneg record member)]
    omega
  have application : utf8_size (rendered true 1 (.object [("name".toList, .str "RedDock".toList), ("version".toList, .str VERSION)])) = 51 := by
    decide +kernel
  have keys : (quoted true "application".toList).length = 13 ∧ (quoted true "created_at".toList).length = 12 ∧
      (quoted true "database".toList).length = 10 ∧ (quoted true "files".toList).length = 7 ∧ (quoted true "schema".toList).length = 8 ∧
      (quoted true "engine".toList).length = 8 ∧ (quoted true "path".toList).length = 6 ∧ (quoted true "schema_revision".toList).length = 17 ∧
      (quoted true "sqlite".toList).length = 8 ∧ (quoted true DATABASE_MEMBER).length = 21 ∧
      (quoted true "reddock.backup/1".toList).length = 18 := by decide +kernel
  obtain ⟨k1, k2, k3, k4, k5, k6, k7, k8, k9, k10, k11⟩ := keys
  have database : utf8_size (rendered true 1 (.object [("engine".toList, .str "sqlite".toList), ("path".toList, .str DATABASE_MEMBER),
      ("schema_revision".toList, .str schema_revision)])) = 88 + (quoted true schema_revision).length := by
    have sorted : ["engine".toList, "path".toList, "schema_revision".toList].Pairwise (· ≤ ·) := by decide +kernel
    rw [object_size 1 (List.cons_ne_nil _ _) (by exact sorted)]
    simp only [List.map_cons, List.map_nil, List.sum_cons, List.sum_nil, texts, k6, k7, k8, k9, k10]
    omega
  have sorted : ["application".toList, "created_at".toList, "database".toList, "files".toList, "schema".toList].Pairwise (· ≤ ·) := by
    decide +kernel
  rw [manifest_bytes, stored_document, utf8_length, dumps, manifest_json, object_size 0 (List.cons_ne_nil _ _) (by exact sorted), manifest_size, List.map_map]
  simp only [List.map_cons, List.map_nil, List.sum_cons, List.sum_nil, texts, application, database, files, k1, k2, k3, k4, k5, k11, sized,
    Function.comp_def]
  omega

end RedDock.BackupManifests
