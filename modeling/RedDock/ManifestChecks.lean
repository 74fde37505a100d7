import RedDock.Members
import RedDock.Bytes
import RedDock.Checks
import RedDock.Fallible

/-!
# The manifest of a hostile archive

What JSON may hold in place of a manifest, with the strings of Python, and the
checks on it with every exception they raise.
-/
set_option autoImplicit false
namespace RedDock.ManifestChecks
open Text Fallible Members Checks

/-! ### Values of a JSON document -/

/-- A character of a Python string: JSON escapes may leave half of a pair. -/
inductive Point
  | char (c : Char)
  | surrogate (low : Fin 2048)
  deriving DecidableEq

abbrev PyStr := List Point

def Point.char? : Point → Option Char
  | .char c => some c
  | .surrogate _ => none

def points (t : Text) : PyStr := t.map Point.char

/-- The text of a string without surrogates. -/
def text_of (s : PyStr) : Text := s.filterMap Point.char?

inductive Value
  | null
  | bool (b : Bool)
  | int (i : Int)
  | float (digits : Text)
  | str (s : PyStr)
  | list (items : List Value)
  | dict (members : List (PyStr × Value))

/-- `document.get(key)`; every key stands once. -/
def get (members : List (PyStr × Value)) (key : String) : Value :=
  ((members.find? (·.1 = points key.toList)).map (·.2)).getD .null

/-- `set(document) == keys` -/
def has_keys (members : List (PyStr × Value)) (keys : List String) : Bool :=
  members.all (fun member => keys.any fun key => member.1 = points key.toList) &&
    keys.all fun key => members.any fun member => member.1 = points key.toList

/-- Whether a value is this text. -/
def is_text (value : Value) (t : Text) : Bool := match value with
  | .str s => s = points t
  | _ => false

/-! ### Exceptions -/

inductive Raised
  | backup_error (message : Text)
  | os_error
  | bad_zip_file
  | eof_error
  | not_implemented_error
  | zlib_error
  | unicode_decode_error
  | unicode_encode_error
  | json_decode_error
  | recursion_error
  | type_error
  | value_error
  | overflow_error
  | sqlite_error
  deriving DecidableEq

def refused {α : Type} (message : String) : Except Raised α := .error (.backup_error message.toList)

/-- What `_open_archive` lets through as it is or maps to `BackupError`. -/
def Raised.mapped : Raised → Bool
  | .backup_error _ | .os_error | .bad_zip_file => true
  | _ => false

abbrev Mapped (raised : Raised) : Prop := raised.mapped = true

/-- What `json.loads(payload.decode("utf-8"))` raises: the last for an integer of
    more digits than Python converts. -/
inductive Unread
  | unicode_decode_error
  | json_decode_error
  | recursion_error
  | value_error
  deriving DecidableEq

/-! ### Names -/

/-- The parts of Python that strings are judged by. -/
structure Strings where
  names : Names
  /-- `unicodedata.normalize("NFC", name) == name`, where there are surrogates. -/
  normal : PyStr → Bool
  /-- `\d` -/
  isdecimal : Char → Bool
  /-- `datetime.fromisoformat`, absent where it raises `ValueError`: the offset
      from UTC in microseconds, if there is one. -/
  fromisoformat : PyStr → Option (Option Int)

/-- `part.encode("utf-8")`, by its length. -/
def encoded_size (part : PyStr) : Except Raised Nat :=
  if part.all (·.char?.isSome) then .ok (utf8_size (text_of part)) else .error .unicode_encode_error

section
variable (strings : Strings)

def parts_of (name : PyStr) : List PyStr := (name.splitOn (.char '/')).filter fun part => part ≠ [] ∧ part ≠ points ['.']

def as_posix_of (parts : List PyStr) : PyStr := if parts = [] then points ['.'] else List.intercalate (points ['/']) parts

/-- One round of the loop of `_safe_member`. -/
def safe_part_of (part : PyStr) : Except Raised Bool :=
  if part ∈ [[], points ['.'], points ['.', '.']] then .ok false
  else do
    let size ← encoded_size part
    return decide (size ≤ 255) && part.getLast? ∉ [some (.char ' '), some (.char '.')] &&
      strings.names.casefold ((text_of part).takeWhile (· ≠ '.')) ∉ WINDOWS_RESERVED && !(text_of part).any fun c => c.toNat < 32 || c.toNat = 127

def safe_parts_of : List PyStr → Except Raised Bool
  | [] => .ok true
  | part :: later => do
    if ← safe_part_of strings part then safe_parts_of later else return false

/-- What `_safe_member` checks before the parts of a name. -/
def shaped (name : PyStr) : Bool :=
  name ≠ [] && name.length ≤ 1024 && .char '\\' ∉ name && .char ':' ∉ name &&
    !name.any (· ∈ points ['<', '>', '"', '|', '?', '*']) && .char '\x00' ∉ name &&
    (if name.all (·.char?.isSome) then strings.names.nfc (text_of name) = text_of name else strings.normal name) &&
    name.head? ≠ some (.char '/') && as_posix_of (parts_of name) = name

/-- `_safe_member` of a string. -/
def safe_member_of (name : PyStr) : Except Raised Bool := if shaped strings name then safe_parts_of strings (parts_of name) else .ok false

end

/-! ### Records -/

def MAX_DATABASE_BYTES : Int := 2 * 1024 * 1024 * 1024
def MAX_UNCOMPRESSED_BYTES : Int := 4 * 1024 * 1024 * 1024
def MAX_ARCHIVE_ENTRIES : Nat := 100000
def FILE_KEYS : List String := ["path", "sha256", "size_bytes"]
def MANIFEST_KEYS : List String := ["schema", "application", "created_at", "database", "files"]
def SCHEMA_REVISIONS : List String :=
  ["0001_v080", "0002_identity", "0003_security_audit", "0004_oidc_attempts", "0005_rate_limits", "0006_session_lifecycle"]

structure Record where
  path : Text
  size_bytes : Int
  sha256 : Text

/-- `_valid_sha256` -/
def valid_sha256 (value : PyStr) : Bool := value.length = 64 && value.all (· ∈ points "0123456789abcdef".toList)

section
variable (strings : Strings)

def read_record (value : Value) : Except Raised Record :=
  match value with
  | .dict members =>
    if has_keys members FILE_KEYS then match get members "path" with
      | .str name => do
        if ← safe_member_of strings name then match get members "size_bytes", get members "sha256" with
          | .int size, .str digest =>
            if (text_of name = DATABASE_MEMBER ∨ "evidence/".toList <+: text_of name) ∧ 0 ≤ size ∧ valid_sha256 digest = true then
              return { path := text_of name, size_bytes := size, sha256 := text_of digest }
            else refused "Backup manifest contains an unsafe file record"
          | _, _ => refused "Backup manifest contains an unsafe file record"
        else refused "Backup manifest contains an unsafe file record"
      | _ => refused "Backup manifest contains an unsafe file record"
    else refused "Backup manifest contains an invalid file record"
  | _ => refused "Backup manifest contains an invalid file record"

/-- One round of the loop over the file records. -/
def list_record (listed : List Record) (value : Value) : Except Raised (List Record) := do
  let record ← read_record strings value
  if record.path = DATABASE_MEMBER ∧ MAX_DATABASE_BYTES < record.size_bytes then
    refused "Backup SQLite database exceeds the fixed database size limit"
  else if record.path ∈ listed.map (·.path) then refused "Backup manifest contains duplicate file records"
  else if MAX_UNCOMPRESSED_BYTES < (listed.map (·.size_bytes)).sum + record.size_bytes then
    refused "Backup exceeds the fixed uncompressed size limit"
  else return listed ++ [record]

/-! ### Declarations -/

/-- `_VERSION.fullmatch` -/
def is_version (value : PyStr) : Bool :=
  let numeral (digits : Text) : Bool := match digits with
    | [] => false
    | first :: rest => digits = ['0'] || ('1' ≤ first && first ≤ '9' && rest.all strings.isdecimal)
  value.all (·.char?.isSome) && ((text_of value).splitOn '.').length = 3 && ((text_of value).splitOn '.').all numeral

def check_application (value : Value) : Except Raised Unit :=
  match value with
  | .dict application =>
    if has_keys application ["name", "version"] && is_text (get application "name") "RedDock".toList then
      match get application "version" with
      | .str version => if is_version strings version then .ok () else refused "Backup application declaration is unsupported"
      | _ => refused "Backup application declaration is unsupported"
    else refused "Backup application declaration is unsupported"
  | _ => refused "Backup application declaration is unsupported"

/-- `_validate_created_at` -/
def validate_created_at (value : Value) : Except Raised Unit :=
  match value with
  | .str created => match strings.fromisoformat created with
    | none => refused "Backup creation time is invalid"
    | some offset => if offset = some 0 then .ok () else refused "Backup creation time must include a UTC offset"
  | _ => refused "Backup creation time is invalid"

/-- `value in _known_schema_revisions()`, which hashes the value. -/
def known_revision (value : Value) : Except Raised Bool :=
  match value with
  | .list _ | .dict _ => .error .type_error
  | .str s => .ok (SCHEMA_REVISIONS.any fun revision => s = points revision.toList)
  | _ => .ok false

/-- A declaration of a database that is asked for its revision. -/
def declares_sqlite (database : List (PyStr × Value)) : Bool :=
  has_keys database ["engine", "path", "schema_revision"] && is_text (get database "engine") "sqlite".toList &&
    is_text (get database "path") DATABASE_MEMBER

def check_declaration (value : Value) : Except Raised Value :=
  match value with
  | .dict database =>
    if declares_sqlite database then do
      if ← known_revision (get database "schema_revision") then return get database "schema_revision"
      else refused "Backup database declaration is unsupported"
    else refused "Backup database declaration is unsupported"
  | _ => refused "Backup database declaration is unsupported"

/-- The declarations of a manifest before its database, in their order. -/
def check_heading (manifest : List (PyStr × Value)) : Except Raised Unit := do
  if !has_keys manifest MANIFEST_KEYS then refused "Backup manifest structure is unsupported"
  else if !is_text (get manifest "schema") "reddock.backup/1".toList then refused "Backup manifest schema is unsupported"
  else
    check_application strings (get manifest "application")
    validate_created_at strings (get manifest "created_at")

/-- The file records, as a list that is not empty. -/
def file_values (manifest : List (PyStr × Value)) : Except Raised (List Value) :=
  match get manifest "files" with
  | .list items =>
    if 1 ≤ items.length ∧ items.length ≤ MAX_ARCHIVE_ENTRIES then .ok items else refused "Backup manifest file list is invalid"
  | _ => refused "Backup manifest file list is invalid"

/-- What `_read_manifest` checks of the records together. -/
def check_records (records : List Record) : Except Raised Unit :=
  let names := records.map (·.path)
  if DATABASE_MEMBER ∉ names then refused "Backup contains no SQLite database"
  else if names.insertionSort (· ≤ ·) ≠ names then refused "Backup manifest file records are not in canonical order"
  else if (names.map strings.names.casefold).Nodup then .ok ()
  else refused "Backup manifest contains portable path aliases"

end

/-! ### Strings without surrogates -/

theorem points_injective : Function.Injective points := List.map_injective_iff.mpr fun _ _ => Point.char.inj

theorem text_of_points (t : Text) : text_of (points t) = t := by
  rw [text_of, points, List.filterMap_map]
  exact List.filterMap_some

theorem all_points (t : Text) : (points t).all (·.char?.isSome) = true := by
  simp [points, Point.char?]

theorem splitOn_points (t : Text) (c : Char) : (points t).splitOn (.char c) = (t.splitOn c).map points := by
  simp only [List.splitOn_eq_splitOnP]
  induction t with
  | nil => rfl
  | cons d t ih =>
    have cons : points (d :: t) = .char d :: points t := rfl
    rw [cons, List.splitOnP_cons_eq_if_modifyHead, List.splitOnP_cons_eq_if_modifyHead, ih]
    by_cases same : d = c
    · simp [same, points]
    · have apart : (Point.char d == Point.char c) = false := by simpa using same
      have apart' : (d == c) = false := by simpa using same
      rw [apart, apart', if_neg Bool.false_ne_true, if_neg Bool.false_ne_true]
      cases t.splitOnP (· == c) with
      | nil => rfl
      | cons first rest => rfl

theorem parts_of_points (t : Text) : parts_of (points t) = (parts t).map points := by
  rw [parts_of, parts, splitOn_points, List.filter_map]
  congr 1
  refine List.filter_congr fun part _ => ?_
  have empty : points part = [] ↔ part = [] := List.map_eq_nil_iff
  have dot : points part = points ['.'] ↔ part = ['.'] := points_injective.eq_iff
  simp only [Function.comp_apply, ne_eq, empty, dot]

theorem intercalate_points (parts : List Text) : List.intercalate (points ['/']) (parts.map points) = points (join ['/'] parts) := by
  induction parts with
  | nil => rfl
  | cons first rest ih =>
    cases rest with
    | nil => simp [join, List.intercalate, points]
    | cons second rest =>
      simp only [List.map_cons, join] at ih ⊢
      rw [List.intercalate_cons_cons, List.intercalate_cons_cons, ih]
      simp [points]

theorem as_posix_of_points (parts : List Text) : as_posix_of (parts.map points) = points (as_posix parts) := by
  rw [as_posix_of, as_posix, intercalate_points]
  cases parts <;> rfl

theorem mem_points (c : Char) (t : Text) : Point.char c ∈ points t ↔ c ∈ t := List.mem_map_of_injective fun _ _ => Point.char.inj

theorem any_points (t u : Text) : (points t).any (· ∈ points u) = t.any (· ∈ u) := by
  rw [points, List.any_map]
  exact congrArg t.any (funext fun c => decide_eq_decide.mpr (mem_points c u))

section
variable {strings : Strings}

theorem shaped_points (t : Text) : shaped strings (points t) =
    (t ≠ [] && t.length ≤ 1024 && '\\' ∉ t && ':' ∉ t && !t.any (· ∈ ['<', '>', '"', '|', '?', '*']) && '\x00' ∉ t &&
      strings.names.nfc t = t && t.head? ≠ some '/' && as_posix (parts t) = t) := by
  have empty : points t = [] ↔ t = [] := List.map_eq_nil_iff
  have first : (points t).head? = some (.char '/') ↔ t.head? = some '/' := by
    rw [points, List.head?_map, Option.map_eq_some_iff]
    exact ⟨fun ⟨c, is, same⟩ => Point.char.inj same ▸ is, fun is => ⟨_, is, rfl⟩⟩
  have posix : as_posix_of (parts_of (points t)) = points t ↔ as_posix (parts t) = t := by
    rw [parts_of_points, as_posix_of_points, points_injective.eq_iff]
  have length : (points t).length = t.length := List.length_map _
  simp only [shaped, ne_eq, empty, length, mem_points, any_points, all_points, if_true, text_of_points, first, posix]

theorem safe_part_of_points (part : Text) : safe_part_of strings (points part) = .ok (safe_part strings.names part) := by
  have named : points part ∈ [[], points ['.'], points ['.', '.']] ↔ part ∈ [[], ['.'], ['.', '.']] := by
    simp only [List.mem_cons, List.not_mem_nil, or_false, points_injective.eq_iff]
    exact or_congr_left List.map_eq_nil_iff
  have last : ∀ c, (points part).getLast? = some (.char c) ↔ part.getLast? = some c := by
    intro c
    rw [points, List.getLast?_map, Option.map_eq_some_iff]
    exact ⟨fun ⟨d, is, same⟩ => Point.char.inj same ▸ is, fun is => ⟨_, is, rfl⟩⟩
  have ends : (points part).getLast? ∈ [some (Point.char ' '), some (.char '.')] ↔ part.getLast? ∈ [some ' ', some '.'] := by
    simp only [List.mem_cons, List.not_mem_nil, or_false, last]
  unfold safe_part_of safe_part
  by_cases bad : part ∈ [[], ['.'], ['.', '.']]
  · rw [if_pos (named.mpr bad)]
    simp [bad]
  · rw [if_neg (named.not.mpr bad), encoded_size, if_pos (all_points part), text_of_points]
    simp [bad, ends]

theorem safe_parts_of_points (list : List Text) : safe_parts_of strings (list.map points) = .ok (list.all (safe_part strings.names)) := by
  induction list with
  | nil => rfl
  | cons part list ih =>
    rw [List.map_cons, safe_parts_of, safe_part_of_points, ok_bind, List.all_cons, ih]
    cases safe_part strings.names part <;> rfl

/-- On a string without surrogates the check is the one on texts. -/
theorem safe_member_of_points (t : Text) : safe_member_of strings (points t) = .ok (safe_member strings.names t) := by
  rw [safe_member_of, shaped_points, parts_of_points, safe_parts_of_points, safe_member]
  split
  next shape => rw [shape, Bool.true_and]
  next shape => rw [Bool.eq_false_of_not_eq_true shape, Bool.false_and]

end

/-! ### What the checks raise -/

@[simp] theorem contained_refused {α : Type} (message : String) : Contained Mapped (refused message : Except Raised α) := by
  simp [refused, Mapped, Raised.mapped]

theorem contained_foldlM {α β : Type} {refusal : Raised → Prop} {f : β → α → Except Raised β} {items : List α} {start : β} :
    Contained refusal (items.foldlM f start) ↔
      ∀ before item after b, items = before ++ item :: after → before.foldlM f start = .ok b → Contained refusal (f b item) := by
  constructor
  · intro contained before item after b split ran e raised
    exact contained e (foldlM_error.mpr ⟨before, item, after, b, split, ran, raised⟩)
  · intro each e raised
    obtain ⟨before, item, after, b, split, ran, raised⟩ := foldlM_error.mp raised
    exact each before item after b split ran e raised

/-- A string with half of a pair in it. -/
def Surrogate (s : PyStr) : Prop := s.all (·.char?.isSome) = false

section
variable (strings : Strings)

/-- A name that `_safe_member` cannot encode: the parts before the one with a
    surrogate pass. -/
def Unencodable (name : PyStr) : Prop :=
  shaped strings name = true ∧ ∃ before part after, parts_of name = before ++ part :: after ∧
    (∀ earlier ∈ before, safe_part_of strings earlier = .ok true) ∧ Surrogate part

/-- A file record whose path cannot be encoded. -/
def UnencodablePath (value : Value) : Prop :=
  ∃ members name, value = .dict members ∧ has_keys members FILE_KEYS = true ∧ get members "path" = .str name ∧ Unencodable strings name

variable {strings}

theorem contained_safe_part_of (part : PyStr) : Contained Mapped (safe_part_of strings part) ↔ ¬Surrogate part := by
  unfold safe_part_of Surrogate
  split
  next named =>
    have whole : part.all (·.char?.isSome) = true := by
      simp only [List.mem_cons, List.not_mem_nil, or_false] at named
      rcases named with rfl | rfl | rfl <;> rfl
    simp [whole]
  · by_cases whole : part.all (·.char?.isSome) = true
    · simp [encoded_size, whole]
    · rw [encoded_size, if_neg whole, error_bind, contained_error]
      simp [Mapped, Raised.mapped, whole]

theorem contained_safe_parts_of {list : List PyStr} : Contained Mapped (safe_parts_of strings list) ↔
    ¬∃ before part after, list = before ++ part :: after ∧ (∀ earlier ∈ before, safe_part_of strings earlier = .ok true) ∧ Surrogate part := by
  induction list with
  | nil => simp [safe_parts_of]
  | cons first rest ih =>
    rw [safe_parts_of, contained_bind, contained_safe_part_of]
    constructor
    · rintro ⟨here, later⟩ ⟨before, part, after, split, passed, surrogate⟩
      cases before with
      | nil =>
        obtain ⟨rfl, rfl⟩ := List.cons.inj split
        exact here surrogate
      | cons earlier before =>
        obtain ⟨rfl, rfl⟩ := List.cons.inj split
        obtain ⟨passed, others⟩ := List.forall_mem_cons.mp passed
        exact ih.mp (later true passed) ⟨before, part, after, rfl, others, surrogate⟩
    · intro none_bad
      refine ⟨fun surrogate => none_bad ⟨[], first, rest, rfl, fun _ mem => absurd mem List.not_mem_nil, surrogate⟩, fun passed ran => ?_⟩
      cases passed with
      | false => exact contained_ok false
      | true =>
        refine ih.mpr ?_
        rintro ⟨before, part, after, split, others, surrogate⟩
        exact none_bad ⟨first :: before, part, after, by rw [split]; rfl, List.forall_mem_cons.mpr ⟨ran, others⟩, surrogate⟩

theorem contained_safe_member_of (name : PyStr) : Contained Mapped (safe_member_of strings name) ↔ ¬Unencodable strings name := by
  unfold safe_member_of Unencodable
  by_cases shape : shaped strings name = true
  · rw [if_pos shape, contained_safe_parts_of]
    simp [shape]
  · simp [shape]

theorem contained_read_record (value : Value) : Contained Mapped (read_record strings value) ↔ ¬UnencodablePath strings value := by
  unfold read_record UnencodablePath
  cases value with
  | dict members =>
    by_cases keys : has_keys members FILE_KEYS = true
    · cases path : get members "path" with
      | str name =>
        simp only [keys, path, if_true]
        rw [contained_bind, contained_safe_member_of]
        constructor
        · rintro ⟨encodable, _⟩ ⟨_, _, same, _, path', unencodable⟩
          cases same
          cases path.symm.trans path'
          exact encodable unencodable
        · intro encodable
          refine ⟨fun unencodable => encodable ⟨members, name, rfl, keys, path, unencodable⟩, fun safe _ => ?_⟩
          cases safe with
          | false => exact contained_refused _
          | true =>
            simp only [if_true]
            split
            · split
              · exact contained_ok _
              · exact contained_refused _
            · exact contained_refused _
      | _ => simp [keys, path]
    · simp [keys]
  | _ => simp

theorem contained_list_record (listed : List Record) (value : Value) :
    Contained Mapped (list_record strings listed value) ↔ ¬UnencodablePath strings value := by
  unfold list_record
  rw [contained_bind, contained_read_record, and_iff_left_iff_imp]
  intro _ record _
  split
  · exact contained_refused _
  · split
    · exact contained_refused _
    · split
      · exact contained_refused _
      · exact contained_ok _

/-- The records of a manifest: the first path that cannot be encoded is one too many. -/
theorem contained_records (values : List Value) : Contained Mapped (values.foldlM (list_record strings) []) ↔
    ∀ before value after listed, values = before ++ value :: after → before.foldlM (list_record strings) [] = .ok listed →
      ¬UnencodablePath strings value := by
  simp only [contained_foldlM, contained_list_record]

theorem contained_check_application (value : Value) : Contained Mapped (check_application strings value) := by
  unfold check_application
  split
  · split
    · split
      · split
        · exact contained_ok _
        · exact contained_refused _
      · exact contained_refused _
    · exact contained_refused _
  · exact contained_refused _

theorem contained_validate_created_at (value : Value) : Contained Mapped (validate_created_at strings value) := by
  unfold validate_created_at
  split
  · split
    · exact contained_refused _
    · split
      · exact contained_ok _
      · exact contained_refused _
  · exact contained_refused _

theorem contained_check_heading (manifest : List (PyStr × Value)) : Contained Mapped (check_heading strings manifest) := by
  unfold check_heading
  split
  · exact contained_refused _
  · split
    · exact contained_refused _
    · exact contained_bind.mpr ⟨contained_check_application _, fun _ _ => contained_validate_created_at _⟩

theorem contained_file_values (manifest : List (PyStr × Value)) : Contained Mapped (file_values manifest) := by
  unfold file_values
  split
  · split
    · exact contained_ok _
    · exact contained_refused _
  · exact contained_refused _

theorem contained_check_records (records : List Record) : Contained Mapped (check_records strings records) := by
  unfold check_records
  simp only
  split
  · exact contained_refused _
  · split
    · exact contained_refused _
    · split
      · exact contained_ok _
      · exact contained_refused _

end

/-- A value that a set can look for. -/
def Value.hashable : Value → Bool
  | .list _ | .dict _ => false
  | _ => true

theorem contained_known_revision (value : Value) : Contained Mapped (known_revision value) ↔ value.hashable = true := by
  cases value <;> simp [known_revision, Value.hashable, Mapped, Raised.mapped]

theorem contained_check_declaration (value : Value) : Contained Mapped (check_declaration value) ↔
    ∀ database, value = .dict database → declares_sqlite database = true → (get database "schema_revision").hashable = true := by
  cases value with
  | dict database =>
    have only : (∀ other, Value.dict database = .dict other → declares_sqlite other = true → (get other "schema_revision").hashable = true) ↔
        (declares_sqlite database = true → (get database "schema_revision").hashable = true) :=
      ⟨fun all => all database rfl, fun here other same => Value.dict.inj same ▸ here⟩
    rw [only]
    unfold check_declaration
    by_cases declared : declares_sqlite database = true
    · simp only [declared, if_true, true_implies]
      rw [contained_bind, contained_known_revision, and_iff_left_iff_imp]
      intro _ known _
      cases known with
      | true => exact contained_ok _
      | false => exact contained_refused _
    · simp [declared]
  | _ => simp [check_declaration]

end RedDock.ManifestChecks
