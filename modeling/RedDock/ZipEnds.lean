import RedDock.ZipDirectory
import RedDock.ZipFiles

/-!
# The end of a ZIP file

The end records `zipfile` writes behind a central directory, with those of ZIP64
where a number is too large, pass the preflight of a backup when the directory
is within its limits.
-/
set_option autoImplicit false
namespace RedDock.ZipEnds
open Bytes ZipFiles ZipDirectory Fallible

def ZIP_FILECOUNT_LIMIT : Nat := 65535
def ZIP64_LIMIT : Nat := 2 ^ 31 - 1

def zip64_end_record (count size offset : Nat) : Record := [
  (4, 0x06064B50), (8, 44), (2, 45), (2, 45), (4, 0), (4, 0), (8, count), (8, count), (8, size), (8, offset)]

def locator_record (zip64_at : Nat) : Record := [(4, 0x07064B50), (4, 0), (8, zip64_at), (4, 1)]

def requires_zip64 (count size offset : Nat) : Bool := ZIP_FILECOUNT_LIMIT < count || ZIP64_LIMIT < offset || ZIP64_LIMIT < size

/-- `_write_end_record`, behind a directory of some size at an offset. -/
def end_records (count size offset : Nat) : Bytes :=
  if requires_zip64 count size offset then
    (zip64_end_record count size offset).bytes ++ ((locator_record (offset + size)).bytes ++
      (end_record (min count 0xFFFF) (min size 0xFFFFFFFF) (min offset 0xFFFFFFFF)).bytes)
  else (end_record count size offset).bytes

theorem zip64_size (count size offset : Nat) : Record.size (zip64_end_record count size offset) = 56 := by
  simp [zip64_end_record, Record.size]
theorem locator_size (zip64_at : Nat) : Record.size (locator_record zip64_at) = 20 := by simp [locator_record, Record.size]

section
variable {file before after : Bytes}

/-- A record begins with its signature. -/
theorem has_record {signature : Nat} {rest : Record} (is : file = before ++ (Record.bytes ((4, signature) :: rest) ++ after)) :
    has file (little 4 signature) before.length = true := by
  have bytes : Record.bytes ((4, signature) :: rest) = little 4 signature ++ Record.bytes rest := List.flatMap_cons
  rw [bytes, List.append_assoc] at is
  have here := read_between before (little 4 signature) (Record.bytes rest ++ after)
  rw [has, decide_eq_true_eq, is, here]

theorem eocd_signature : little 4 END_RECORD = EOCD := by decide
theorem zip64_signature : little 4 0x06064B50 = ZIP64 := by decide
theorem locator_signature : little 4 0x07064B50 = LOCATOR := by decide

/-- The end record of a file that it ends. -/
theorem eocd_record_of {count size offset : Nat} (is : file = before ++ ((end_record count size offset).bytes ++ [])) (few : count < 256 ^ 2)
    (small : size < 256 ^ 4) (near : offset < 256 ^ 4) :
    eocd_record file before.length = ⟨0, 0, count, count, size, offset⟩ ∧ end_rec_data file = some before.length ∧
      closes file before.length = true := by
  have comment : comment_size file before.length = 0 := Record.number_at is 7 rfl rfl (by decide)
  have length : file.length = before.length + 22 := by
    rw [is, List.length_append, List.append_nil, Record.length_bytes, end_size]
  have signature : has file EOCD before.length = true := eocd_signature ▸ has_record is
  refine ⟨?_, ?_, ?_⟩
  · have disk : number file (before.length + 4) 2 = 0 := Record.number_at is 1 rfl rfl (by decide)
    have directory_disk : number file (before.length + 6) 2 = 0 := Record.number_at is 2 rfl rfl (by decide)
    have disk_entries : number file (before.length + 8) 2 = count := Record.number_at is 3 rfl rfl few
    have total_entries : number file (before.length + 10) 2 = count := Record.number_at is 4 rfl rfl few
    have directory_size : number file (before.length + 12) 4 = size := Record.number_at is 5 rfl rfl small
    have directory_at : number file (before.length + 16) 4 = offset := Record.number_at is 6 rfl rfl near
    rw [eocd_record, disk, directory_disk, disk_entries, total_entries, directory_size, directory_at]
  · have place : file.length - 22 = before.length := by omega
    rw [end_rec_data, place, if_pos ⟨by omega, signature, comment⟩]
  · rw [closes, comment, length]
    simp

/-- A directory that the end record of a file leads to is within the limits. -/
theorem preflight_of_record {e : Nat} {directory : EndRecord} (takes : end_rec_data file = some e) (ends : closes file e = true)
    (one : (eocd_record file e).one_disk = true) (reads : directory_record file (eocd_record file e) e = .ok directory)
    (bounded : directory.Bounded) (inside : directory.directory_at + directory.directory_size ≤ e) : preflight_zip_directory file = .ok () := by
  have found := find_record_agrees takes ends
  have behind : file.length - min file.length SEARCHED ≤ e := by
    have searched := (end_rec_data_some takes).2.1
    omega
  have same : eocd_record (file.drop (file.length - min file.length SEARCHED)) (e - (file.length - min file.length SEARCHED)) =
      eocd_record file e := by
    have place : ∀ k, file.length - min file.length SEARCHED + (e - (file.length - min file.length SEARCHED) + k) = e + k := fun k => by omega
    simp only [eocd_record, number_drop, place]
  have place : file.length - min file.length SEARCHED + (e - (file.length - min file.length SEARCHED)) = e := by omega
  simp only [preflight_zip_directory, found, same, place, one, Bool.true_eq_false, if_false, reads, ok_bind]
  rw [if_neg (Nat.not_lt.mpr bounded.1), if_neg (Nat.not_lt.mpr bounded.2), if_neg (Nat.not_lt.mpr inside)]

/-- The ZIP64 end record of a file, and the locator behind it. -/
theorem locate_zip64_of {count size offset : Nat} {ending : Bytes} (is : file = before ++ ((zip64_end_record count size offset).bytes ++
      ((locator_record before.length).bytes ++ ending))) (few : count < 256 ^ 8) (small : size < 256 ^ 8) (near : offset < 256 ^ 8)
    (inside : before.length < 2 ^ 63) : locate_zip64 file (before.length + 76) = .ok ⟨0, 0, count, count, size, offset⟩ := by
  have is' : file = (before ++ (zip64_end_record count size offset).bytes) ++ ((locator_record before.length).bytes ++ ending) := by
    rw [is, List.append_assoc]
  have place : (before ++ (zip64_end_record count size offset).bytes).length = before.length + 56 := by
    rw [List.length_append, Record.length_bytes, zip64_size]
  have length : file.length = before.length + 76 + ending.length := by
    rw [is', List.length_append, place, List.length_append, Record.length_bytes, locator_size]
    omega
  have signature : has file LOCATOR (before.length + 56) = true := place ▸ locator_signature ▸ has_record is'
  have locator_disk : number file (before.length + 60) 4 = 0 := by
    have field := Record.number_at is' 1 (rfl : (locator_record before.length)[1]? = some (4, 0)) rfl (by decide)
    rwa [place] at field
  have zip64_at : number file (before.length + 64) 8 = before.length := by
    have field := Record.number_at is' 2 (rfl : (locator_record before.length)[2]? = some (8, before.length)) rfl (inside.trans (by decide))
    rwa [place] at field
  have disks : number file (before.length + 72) 4 = 1 := by
    have field := Record.number_at is' 3 (rfl : (locator_record before.length)[3]? = some (4, 1)) rfl (by decide)
    rwa [place] at field
  have zip64_signature' : has file ZIP64 before.length = true := zip64_signature ▸ has_record is
  have record_size : number file (before.length + 4) 8 = 44 := Record.number_at is 1 rfl rfl (by decide)
  have record : zip64_record file before.length = ⟨0, 0, count, count, size, offset⟩ := by
    have disk : number file (before.length + 16) 4 = 0 := Record.number_at is 4 rfl rfl (by decide)
    have directory_disk : number file (before.length + 20) 4 = 0 := Record.number_at is 5 rfl rfl (by decide)
    have disk_entries : number file (before.length + 24) 8 = count := Record.number_at is 6 rfl rfl few
    have total_entries : number file (before.length + 32) 8 = count := Record.number_at is 7 rfl rfl few
    have directory_size : number file (before.length + 40) 8 = size := Record.number_at is 8 rfl rfl small
    have directory_at : number file (before.length + 48) 8 = offset := Record.number_at is 9 rfl rfl near
    rw [zip64_record, disk, directory_disk, disk_entries, total_entries, directory_size, directory_at]
  have locator_whole : (read file (before.length + 56) 20).length = 20 := by
    rw [Bytes.read, List.length_take, List.length_drop, length]
    omega
  have record_whole : (read file before.length 56).length = 56 := by
    rw [Bytes.read, List.length_take, List.length_drop, length]
    omega
  have back_20 : before.length + 76 - 20 = before.length + 56 := by omega
  have back_16 : before.length + 76 - 16 = before.length + 60 := by omega
  have back_12 : before.length + 76 - 12 = before.length + 64 := by omega
  have back_4 : before.length + 76 - 4 = before.length + 72 := by omega
  unfold locate_zip64
  rw [back_20, back_16, back_12, back_4, if_neg (by omega), locator_whole, if_neg (not_not.mpr rfl), signature, locator_disk, disks,
    if_neg (by simp)]
  simp only [zip64_at]
  rw [if_neg (Nat.not_le.mpr inside), record_whole, if_neg (not_not.mpr rfl), zip64_signature', record_size, if_neg (by simp), record,
    if_pos (by simp [EndRecord.one_disk])]

/-- `zipfile` closes a file in a way that the preflight accepts. -/
theorem preflight_closed {count size offset : Nat} (is : file = before ++ end_records count size offset) (place : offset + size = before.length)
    (few : count ≤ MAX_ARCHIVE_ENTRIES + 1) (unsaturated : count ≠ 0xFFFF) (small : size ≤ MAX_CENTRAL_DIRECTORY_BYTES)
    (inside : before.length < 2 ^ 63) : preflight_zip_directory file = .ok () := by
  have bounded : (⟨0, 0, count, count, size, offset⟩ : EndRecord).Bounded := ⟨few, small⟩
  have few' : count < 256 ^ 8 := few.trans_lt (by decide)
  have small' : size < 0xFFFFFFFF := small.trans_lt (by decide)
  unfold end_records at is
  split at is
  next zip64 =>
    have is' : file = (before ++ ((zip64_end_record count size offset).bytes ++ (locator_record (offset + size)).bytes)) ++
        ((end_record (min count 0xFFFF) (min size 0xFFFFFFFF) (min offset 0xFFFFFFFF)).bytes ++ []) := by
      rw [is, List.append_nil, List.append_assoc, List.append_assoc]
    have length : (before ++ ((zip64_end_record count size offset).bytes ++ (locator_record (offset + size)).bytes)).length = before.length + 76 := by
      rw [List.length_append, List.length_append, Record.length_bytes, Record.length_bytes, zip64_size, locator_size]
    have least : min offset 0xFFFFFFFF < 256 ^ 4 := (min_le_right _ _).trans_lt (by decide)
    have count_least : min count 0xFFFF < 256 ^ 2 := (min_le_right _ _).trans_lt (by decide)
    have size_least : min size 0xFFFFFFFF < 256 ^ 4 := (min_le_right _ _).trans_lt (by decide)
    obtain ⟨record, takes, ends⟩ := eocd_record_of is' count_least size_least least
    rw [length] at record takes ends
    refine preflight_of_record takes ends (by rw [record]; simp [EndRecord.one_disk]) ?_ bounded (by simp only [place]; omega)
    rw [record, directory_record]
    split
    · exact locate_zip64_of (place ▸ is) few' (small'.trans (by decide)) (by omega) inside
    next plain =>
      have unsaturated_fields : min count 0xFFFF ≠ 0xFFFF ∧ min offset 0xFFFFFFFF ≠ 0xFFFFFFFF := by
        simp only [EndRecord.saturated, Bool.or_eq_true, decide_eq_true_eq, not_or] at plain
        exact ⟨plain.1.1, plain.2⟩
      have count_same : min count 0xFFFF = count := by omega
      have size_same : min size 0xFFFFFFFF = size := by omega
      have offset_same : min offset 0xFFFFFFFF = offset := by omega
      rw [count_same, size_same, offset_same]
  next plain =>
    simp only [requires_zip64, Bool.or_eq_true, decide_eq_true_eq, not_or, Nat.not_lt] at plain
    obtain ⟨⟨counted, near⟩, _⟩ := plain
    have counted : count < 256 ^ 2 := counted.trans_lt (by decide)
    have near' : offset < 0xFFFFFFFF := near.trans_lt (by decide)
    have is' : file = before ++ ((end_record count size offset).bytes ++ []) := by rw [is, List.append_nil]
    obtain ⟨record, takes, ends⟩ := eocd_record_of is' counted (small'.trans (by decide)) (near'.trans (by decide))
    refine preflight_of_record takes ends (by rw [record]; simp [EndRecord.one_disk]) ?_ bounded (by simp only [place]; omega)
    rw [record, directory_record, if_neg]
    simp only [EndRecord.saturated, Bool.or_eq_true, decide_eq_true_eq, not_or]
    exact ⟨⟨unsaturated, small'.ne⟩, near'.ne⟩

end

end RedDock.ZipEnds
