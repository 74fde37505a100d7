import RedDock.Bytes
import RedDock.Text
import RedDock.Fallible

/-!
# The ZIP preflight

`_preflight_zip_directory` reads the end records of a backup before `zipfile`
does, and bounds the entries and the directory they state. What `zipfile` takes
from the same bytes is bounded too, unless the two read different records.
-/
set_option autoImplicit false
namespace RedDock.ZipDirectory
open Text Bytes Fallible

def MAX_ARCHIVE_ENTRIES : Nat := 100000
def MAX_CENTRAL_DIRECTORY_BYTES : Nat := 64 * 1024 * 1024

/-- The signature of the end record. -/
def EOCD : Bytes := [0x50, 0x4B, 0x05, 0x06]
/-- The signature of the ZIP64 locator. -/
def LOCATOR : Bytes := [0x50, 0x4B, 0x06, 0x07]
/-- The signature of the ZIP64 end record. -/
def ZIP64 : Bytes := [0x50, 0x4B, 0x06, 0x06]

/-- The bytes at the end of a file that may hold the end record. -/
def SEARCHED : Nat := 22 + 65535

inductive Refused
  | backup_error (message : Text)
  /-- A seek to an offset that no file has. -/
  | value_error
  deriving DecidableEq

def refused {α : Type} (message : String) : Except Refused α := .error (.backup_error message.toList)

/-- The fields of an end record. -/
structure EndRecord where
  disk : Nat
  directory_disk : Nat
  disk_entries : Nat
  total_entries : Nat
  directory_size : Nat
  directory_at : Nat

def eocd_record (file : Bytes) (offset : Nat) : EndRecord where
  disk := number file (offset + 4) 2
  directory_disk := number file (offset + 6) 2
  disk_entries := number file (offset + 8) 2
  total_entries := number file (offset + 10) 2
  directory_size := number file (offset + 12) 4
  directory_at := number file (offset + 16) 4

def comment_size (file : Bytes) (offset : Nat) : Nat := number file (offset + 20) 2

def zip64_record (file : Bytes) (offset : Nat) : EndRecord where
  disk := number file (offset + 16) 4
  directory_disk := number file (offset + 20) 4
  disk_entries := number file (offset + 24) 8
  total_entries := number file (offset + 32) 8
  directory_size := number file (offset + 40) 8
  directory_at := number file (offset + 48) 8

def EndRecord.one_disk (record : EndRecord) : Bool :=
  record.disk = 0 && record.directory_disk = 0 && record.disk_entries = record.total_entries

/-- A field whose value is in the ZIP64 end record. -/
def EndRecord.saturated (record : EndRecord) : Bool :=
  record.total_entries = 0xFFFF || record.directory_size = 0xFFFFFFFF || record.directory_at = 0xFFFFFFFF

/-! ### The preflight -/

/-- An end record whose comment ends the file. -/
def closes (file : Bytes) (offset : Nat) : Bool := offset + 22 ≤ file.length && offset + 22 + comment_size file offset = file.length

/-- The last end record whose comment ends the file, before `search_end`. -/
def find_record (tail : Bytes) : (fuel search_end : Nat) → Option Nat
  | 0, _ => none
  | fuel + 1, search_end =>
    match rfind tail EOCD search_end with
    | none => none
    | some candidate => if closes tail candidate then some candidate else find_record tail fuel candidate

/-- The ZIP64 end record of an end record. -/
def locate_zip64 (file : Bytes) (eocd_at : Nat) : Except Refused EndRecord :=
  if eocd_at < 20 then refused "Backup ZIP64 locator is missing"
  else if (read file (eocd_at - 20) 20).length ≠ 20 then refused "Backup ZIP64 locator is truncated"
  else if has file LOCATOR (eocd_at - 20) = false ∨ number file (eocd_at - 16) 4 ≠ 0 ∨ number file (eocd_at - 4) 4 ≠ 1 then
    refused "Backup ZIP64 locator is unsupported"
  else
    let zip64_at := number file (eocd_at - 12) 8
    if 2 ^ 63 ≤ zip64_at then .error .value_error
    else if (read file zip64_at 56).length ≠ 56 then refused "Backup ZIP64 end record is truncated"
    else if has file ZIP64 zip64_at = false ∨ number file (zip64_at + 4) 8 < 44 then refused "Backup ZIP64 end record is invalid"
    else if (zip64_record file zip64_at).one_disk then .ok (zip64_record file zip64_at)
    else refused "Multi-disk backup archives are unsupported"

def directory_record (file : Bytes) (eocd : EndRecord) (eocd_at : Nat) : Except Refused EndRecord :=
  if eocd.saturated then locate_zip64 file eocd_at else .ok eocd

/-- `_preflight_zip_directory` -/
def preflight_zip_directory (file : Bytes) : Except Refused Unit := do
  let tail_size := min file.length SEARCHED
  let tail := file.drop (file.length - tail_size)
  match find_record tail (tail.length + 1) tail.length with
  | none => refused "Backup ZIP end record is missing"
  | some eocd_index =>
    let eocd := eocd_record tail eocd_index
    if eocd.one_disk = false then refused "Multi-disk backup archives are unsupported"
    else
      let eocd_at := file.length - tail_size + eocd_index
      let directory ← directory_record file eocd eocd_at
      if MAX_ARCHIVE_ENTRIES + 1 < directory.total_entries then refused "Backup archive contains too many entries"
      else if MAX_CENTRAL_DIRECTORY_BYTES < directory.directory_size then
        refused "Backup central directory exceeds the fixed size limit"
      else if eocd_at < directory.directory_at + directory.directory_size then
        refused "Backup central directory bounds are invalid"
      else .ok ()

/-! ### What `zipfile` reads -/

/-- Where `zipfile` reads the ZIP64 end record that a locator at an offset leads
    to by the offset it states; nowhere when it refuses the file. -/
abbrev RecordAt := Bytes → Nat → Nat → Option Nat

/-- The end record `_EndRecData` takes. -/
def end_rec_data (file : Bytes) : Option Nat :=
  if 22 ≤ file.length ∧ has file EOCD (file.length - 22) = true ∧ comment_size file (file.length - 22) = 0 then
    some (file.length - 22)
  else
    let start := file.length - SEARCHED
    let data := file.drop start
    match rfind data EOCD data.length with
    | none => none
    | some found => if found + 22 ≤ data.length then some (start + found) else none

/-- Where `_EndRecData64` finds a locator. -/
def located (file : Bytes) (eocd_at : Nat) : Bool := 20 ≤ eocd_at && has file LOCATOR (eocd_at - 20)

/-- `_EndRecData64` -/
def end_rec_data64 (record_at : RecordAt) (file : Bytes) (eocd_at : Nat) : Option EndRecord :=
  if located file eocd_at = false then some (eocd_record file eocd_at)
  -- a file over several disks is not supported
  else if number file (eocd_at - 16) 4 ≠ 0 ∨ 1 < number file (eocd_at - 4) 4 then none
  else (record_at file (eocd_at - 20) (number file (eocd_at - 12) 8)).map (zip64_record file)

/-- The end record `zipfile` opens a file by. -/
def zipfile_record (record_at : RecordAt) (file : Bytes) : Option EndRecord :=
  (end_rec_data file).bind (end_rec_data64 record_at file)

/-! ### The two searches -/

section
variable {file : Bytes}

/-- Two end records do not overlap. -/
theorem eocd_disjoint {first second : Nat} (one : has file EOCD first = true) (other : has file EOCD second = true)
    (before : first < second) : first + 4 ≤ second := by
  by_contra overlap
  have here : file[second + 0]? = some 0x50 := has_get other (by decide)
  have there : ∀ k, k < 4 → file[first + k]? = EOCD[k]? := fun k inside => has_get one inside
  obtain ⟨k, rfl⟩ := Nat.exists_eq_add_of_lt before
  have k_small : k = 0 ∨ k = 1 ∨ k = 2 := by omega
  have same := (there (k + 1) (by omega)).symm.trans here
  rcases k_small with rfl | rfl | rfl <;> exact absurd same (by decide)

theorem closes_drop {start offset : Nat} (inside : start ≤ file.length) :
    closes (file.drop start) offset = closes file (start + offset) := by
  have comment : comment_size (file.drop start) offset = comment_size file (start + offset) := by
    rw [comment_size, number_drop, ← Nat.add_assoc]
    rfl
  rw [Bool.eq_iff_iff]
  simp only [closes, comment, List.length_drop, Bool.and_eq_true, decide_eq_true_eq]
  omega

/-- The preflight takes the last end record whose comment ends the file. -/
theorem find_record_last {tail : Bytes} {offset : Nat} (here : has tail EOCD offset = true) (ends : closes tail offset = true)
    (last : ∀ other, offset < other → has tail EOCD other = true → closes tail other = false) :
    ∀ fuel search_end, search_end < fuel → offset + 4 ≤ search_end → find_record tail fuel search_end = some offset := by
  intro fuel
  induction fuel with
  | zero => exact fun _ none => absurd none (Nat.not_lt_zero _)
  | succ fuel ih =>
    intro search_end enough fits
    obtain ⟨candidate, searched, after⟩ := rfind_of_has here fits (by decide)
    obtain ⟨is, within, _⟩ := rfind_some searched
    rw [find_record, searched]
    rcases Nat.eq_or_lt_of_le after with rfl | later
    · simp only [ends, if_true]
    · have disjoint := eocd_disjoint here is later
      have four : EOCD.length = 4 := rfl
      simp only [last candidate later is, Bool.false_eq_true, if_false]
      exact ih candidate (by omega) disjoint

/-- The record `zipfile` takes is in the searched bytes, and is the last there
    or has no comment and ends the file. -/
theorem end_rec_data_some {e : Nat} (takes : end_rec_data file = some e) :
    has file EOCD e = true ∧ file.length - SEARCHED ≤ e ∧ e + 22 ≤ file.length ∧
      (e + 22 = file.length ∨ ∀ other, e < other → has file EOCD other = false) := by
  unfold end_rec_data at takes
  split at takes
  · rename_i plain
    cases takes
    exact ⟨plain.2.1, Nat.sub_le_sub_left (by decide) _, by omega, Or.inl (by omega)⟩
  · simp only at takes
    split at takes
    · cases takes
    · rename_i found searched
      split at takes
      · rename_i whole
        cases takes
        obtain ⟨here, _, last⟩ := rfind_some searched
        rw [has_drop] at here
        rw [List.length_drop] at whole
        refine ⟨here, Nat.le_add_right _ _, by omega, Or.inr fun other after => ?_⟩
        by_contra there
        rw [Bool.not_eq_false] at there
        have fits := has_within there (by decide)
        have arrange : file.length - SEARCHED + (other - (file.length - SEARCHED)) = other := by omega
        have back := last (other - (file.length - SEARCHED)) (by rw [has_drop, arrange]; exact there)
          (by rw [List.length_drop]; omega)
        omega
      · cases takes

/-- A record of `zipfile` whose comment ends the file is the preflight's. -/
theorem find_record_agrees {e : Nat} (takes : end_rec_data file = some e) (ends : closes file e = true) :
    let start := file.length - min file.length SEARCHED
    find_record (file.drop start) ((file.drop start).length + 1) (file.drop start).length = some (e - start) := by
  intro start
  obtain ⟨here, inside, whole, last⟩ := end_rec_data_some takes
  have searched : start = file.length - SEARCHED := by
    show file.length - min file.length SEARCHED = _
    omega
  have arrange : start + (e - start) = e := by omega
  refine find_record_last ?_ ?_ ?_ _ _ (Nat.lt_succ_self _) ?_
  · rw [has_drop, arrange]
    exact here
  · rw [closes_drop (by omega), arrange]
    exact ends
  · intro other after there
    rw [has_drop] at there
    rw [closes_drop (by omega)]
    rcases last with at_end | last
    · have late : ¬start + other + 22 ≤ file.length := by omega
      simp [closes, late]
    · rw [last (start + other) (by omega)] at there
      cases there
  · rw [List.length_drop]
    omega

end

/-! ### What is bounded -/

def EndRecord.Bounded (record : EndRecord) : Prop :=
  record.total_entries ≤ MAX_ARCHIVE_ENTRIES + 1 ∧ record.directory_size ≤ MAX_CENTRAL_DIRECTORY_BYTES

/-- A whole ZIP64 end record at the offset a locator states is the one read. -/
def Follows (record_at : RecordAt) : Prop :=
  ∀ file locator_at stated found, record_at file locator_at stated = some found → has file ZIP64 stated = true →
    (read file stated 56).length = 56 → found = stated

section
variable {record_at : RecordAt} {file : Bytes}

theorem locate_zip64_ok {eocd_at : Nat} {record : EndRecord} (ran : locate_zip64 file eocd_at = .ok record) :
    located file eocd_at = true ∧ (read file (number file (eocd_at - 12) 8) 56).length = 56 ∧
      has file ZIP64 (number file (eocd_at - 12) 8) = true ∧ record = zip64_record file (number file (eocd_at - 12) 8) := by
  unfold locate_zip64 refused at ran
  split at ran
  · cases ran
  rename_i room
  split at ran
  · cases ran
  split at ran
  · cases ran
  rename_i supported
  simp only at ran
  split at ran
  · cases ran
  split at ran
  · cases ran
  rename_i whole
  split at ran
  · cases ran
  rename_i valid
  split at ran
  · cases ran
    rw [not_or, Bool.not_eq_false] at supported valid
    refine ⟨?_, not_not.mp whole, valid.1, rfl⟩
    rw [located, supported.1, Bool.and_true, decide_eq_true_eq]
    omega
  · cases ran

/-- An accepted file states bounded values in the record the preflight takes. -/
theorem preflight_ok {eocd_index : Nat} (accepted : preflight_zip_directory file = .ok ())
    (found : find_record (file.drop (file.length - min file.length SEARCHED))
      ((file.drop (file.length - min file.length SEARCHED)).length + 1) (file.drop (file.length - min file.length SEARCHED)).length =
        some eocd_index) :
    let eocd_at := file.length - min file.length SEARCHED + eocd_index
    ∃ directory : EndRecord, directory.Bounded ∧ if (eocd_record file eocd_at).saturated then locate_zip64 file eocd_at = .ok directory
      else directory = eocd_record file eocd_at := by
  intro eocd_at
  have same : eocd_record (file.drop (file.length - min file.length SEARCHED)) eocd_index = eocd_record file eocd_at := by
    simp only [eocd_record, number_drop, ← Nat.add_assoc]
    rfl
  simp only [preflight_zip_directory, found, same] at accepted
  split at accepted
  · cases accepted
  obtain ⟨directory, located, accepted⟩ := bind_eq_ok.mp accepted
  split at accepted
  · cases accepted
  rename_i entries
  split at accepted
  · cases accepted
  rename_i size
  refine ⟨directory, ⟨Nat.not_lt.mp entries, Nat.not_lt.mp size⟩, ?_⟩
  unfold directory_record at located
  split at located
  · rename_i saturated
    rw [if_pos saturated]
    exact located
  · rename_i plain
    rw [if_neg plain]
    exact (Except.ok.inj located).symm

variable (record_at file) in
/-- Where the preflight does not judge what `zipfile` reads, the values read are
    bounded: an end record whose comment does not end the file, and a ZIP64
    record that such a record leads to or that no saturated field asks for. -/
def Unambiguous : Prop :=
  ∀ e, end_rec_data file = some e →
    (closes file e = false → located file e = false → number file (e + 12) 4 ≤ MAX_CENTRAL_DIRECTORY_BYTES) ∧
    (closes file e = false ∨ (eocd_record file e).saturated = false → located file e = true → number file (e - 16) 4 = 0 →
      number file (e - 4) 4 ≤ 1 → ∀ r, record_at file (e - 20) (number file (e - 12) 8) = some r →
        number file (r + 32) 8 ≤ MAX_ARCHIVE_ENTRIES + 1 ∧ number file (r + 40) 8 ≤ MAX_CENTRAL_DIRECTORY_BYTES)

/-- What `zipfile` takes from an accepted file is bounded exactly when the file
    is unambiguous. -/
theorem preflight_bounds_zipfile (follows : Follows record_at) (accepted : preflight_zip_directory file = .ok ()) :
    (∀ record, zipfile_record record_at file = some record → record.Bounded) ↔ Unambiguous record_at file := by
  constructor
  · intro bounded e takes
    have taken : ∀ record, end_rec_data64 record_at file e = some record → record.Bounded := by
      intro record reads
      refine bounded record ?_
      rw [zipfile_record, takes]
      exact reads
    constructor
    · intro _ plain
      exact (taken (eocd_record file e) (by rw [end_rec_data64, if_pos plain])).2
    · intro _ locator disk disks r reads
      refine taken (zip64_record file r) ?_
      have one : ¬(number file (e - 16) 4 ≠ 0 ∨ 1 < number file (e - 4) 4) := by omega
      rw [end_rec_data64, if_neg (by simp [locator]), if_neg one, reads]
      rfl
  · intro unambiguous record reads
    obtain ⟨e, takes, reads⟩ := Option.bind_eq_some_iff.mp reads
    obtain ⟨plain, zip64⟩ := unambiguous e takes
    have few : (eocd_record file e).total_entries ≤ MAX_ARCHIVE_ENTRIES + 1 :=
      Nat.le_of_lt (Nat.lt_of_lt_of_le (number_lt _ _) (by decide))
    have read_zip64 : located file e = true → ∃ r, number file (e - 16) 4 = 0 ∧ number file (e - 4) 4 ≤ 1 ∧
        record_at file (e - 20) (number file (e - 12) 8) = some r ∧ zip64_record file r = record := by
      intro locator
      rw [end_rec_data64, if_neg (by simp [locator])] at reads
      split at reads
      · cases reads
      · rename_i one
        obtain ⟨r, found, is⟩ := Option.map_eq_some_iff.mp reads
        exact ⟨r, by omega, by omega, found, is⟩
    have read_plain : located file e = false → eocd_record file e = record := by
      intro none
      rw [end_rec_data64, if_pos none] at reads
      exact Option.some.inj reads
    by_cases ends : closes file e = true
    · -- both take this record
      have agrees := find_record_agrees takes ends
      have inside := (end_rec_data_some takes).2.1
      have arrange : file.length - min file.length SEARCHED + (e - (file.length - min file.length SEARCHED)) = e := by omega
      obtain ⟨directory, bounded, judged⟩ := preflight_ok accepted agrees
      rw [arrange] at judged
      by_cases saturated : (eocd_record file e).saturated = true
      · rw [if_pos saturated] at judged
        obtain ⟨locator, whole, signature, rfl⟩ := locate_zip64_ok judged
        obtain ⟨r, _, _, found, rfl⟩ := read_zip64 locator
        rw [follows file _ _ r found signature whole]
        exact bounded
      · rw [if_neg saturated] at judged
        cases locator : located file e with
        | false =>
          rw [← read_plain locator, ← judged]
          exact bounded
        | true =>
          obtain ⟨r, disk, disks, found, rfl⟩ := read_zip64 locator
          exact zip64 (Or.inr (Bool.not_eq_true _ ▸ saturated)) locator disk disks r found
    · rw [Bool.not_eq_true] at ends
      cases locator : located file e with
      | false =>
        rw [← read_plain locator]
        exact ⟨few, plain ends locator⟩
      | true =>
        obtain ⟨r, disk, disks, found, rfl⟩ := read_zip64 locator
        exact zip64 (Or.inl ends) locator disk disks r found

end

/-! ### Two hostile archives -/

/-- The ZIP64 end record as CPython 3.13 finds it: at the offset the locator
    states, or directly before the locator, and next to the directory. -/
def cpython_record_at : RecordAt := fun file locator_at stated =>
  if locator_at < 56 ∨ locator_at - 56 < stated then none
  else
    let found := if has file ZIP64 stated then stated else locator_at - 56
    let record := zip64_record file found
    if has file ZIP64 found = false ∨ record.directory_at + record.directory_size ≠ stated ∨
        number file (found + 4) 8 + 12 ≠ 56 + (locator_at - 56 - found) then none
    else some found

theorem cpython_follows : Follows cpython_record_at := by
  intro file locator_at stated found reads here _
  unfold cpython_record_at at reads
  split at reads
  · cases reads
  · simp only [here] at reads
    split at reads
    · cases reads
    · exact (Option.some.inj reads).symm

/-- An archive without members. -/
def empty_archive : Bytes := EOCD ++ List.replicate 18 0

theorem preflight_bounds_zipfile_empty :
    (∀ record, zipfile_record cpython_record_at empty_archive = some record → record.Bounded) ↔
      Unambiguous cpython_record_at empty_archive :=
  preflight_bounds_zipfile cpython_follows (by decide +kernel)

/-- The empty archive behind a ZIP64 end record of 2^40 entries and its locator. -/
def located_archive : Bytes :=
  ZIP64 ++ [44, 0, 0, 0, 0, 0, 0, 0] ++ List.replicate 12 0 ++ [0, 0, 0, 0, 0, 1, 0, 0] ++ [0, 0, 0, 0, 0, 1, 0, 0] ++
    List.replicate 16 0 ++ LOCATOR ++ List.replicate 12 0 ++ [1, 0, 0, 0] ++ empty_archive

/-- The empty archive with a comment that looks like an end record of a
    directory of nearly 4 GiB. -/
def commented_archive : Bytes :=
  EOCD ++ List.replicate 16 0 ++ [22, 0] ++ EOCD ++ List.replicate 8 0 ++ [0xFE, 0xFF, 0xFF, 0xFF] ++ List.replicate 4 0 ++ [1, 0]

theorem hostile_archives_accepted :
    (preflight_zip_directory located_archive = .ok () ∧
      ¬∀ record, zipfile_record cpython_record_at located_archive = some record → record.Bounded) ∧
    preflight_zip_directory commented_archive = .ok () ∧
      ¬∀ record, zipfile_record cpython_record_at commented_archive = some record → record.Bounded := by
  have entries : preflight_zip_directory located_archive = .ok () ∧
      (zipfile_record cpython_record_at located_archive).map (·.total_entries) = some (2 ^ 40) := by decide +kernel
  have size : preflight_zip_directory commented_archive = .ok () ∧
      (zipfile_record cpython_record_at commented_archive).map (·.directory_size) = some 0xFFFFFFFE := by decide +kernel
  refine ⟨⟨entries.1, fun bounded => ?_⟩, size.1, fun bounded => ?_⟩
  · obtain ⟨record, reads, many⟩ := Option.map_eq_some_iff.mp entries.2
    have few := (bounded record reads).1
    rw [many] at few
    exact absurd few (by decide)
  · obtain ⟨record, reads, large⟩ := Option.map_eq_some_iff.mp size.2
    have small := (bounded record reads).2
    rw [large] at small
    exact absurd small (by decide)

end RedDock.ZipDirectory
