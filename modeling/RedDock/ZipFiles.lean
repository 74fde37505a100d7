import RedDock.Bytes

/-!
# Stored ZIP files

What `zipfile` writes of members that are stored without compression, each with
one fixed time and one fixed mode, and what it reads back from the central
directory of such a file.
-/
set_option autoImplicit false
namespace RedDock.ZipFiles
open Bytes

structure Member where
  name : List Char
  content : Bytes

/-! ### Checksums -/

def crc_shift (crc : UInt32) : UInt32 := if crc &&& 1 = 1 then (crc >>> 1) ^^^ 0xEDB88320 else crc >>> 1

def crc_byte (crc : UInt32) (byte : UInt8) : UInt32 := (List.range 8).foldl (fun crc _ => crc_shift crc) (crc ^^^ byte.toUInt32)

/-- `zlib.crc32` -/
def crc32 (content : Bytes) : Nat := ((content.foldl crc_byte 0xFFFFFFFF) ^^^ 0xFFFFFFFF).toNat

theorem crc32_lt (content : Bytes) : crc32 content < 256 ^ 4 := UInt32.toNat_lt _

/-! ### Records -/

/-- The numbers of a record, each with the bytes it takes. -/
abbrev Record := List (Nat × Nat)

def Record.size (record : Record) : Nat := (record.map Prod.fst).sum

def Record.bytes (record : Record) : Bytes := record.flatMap fun field => little field.1 field.2

def LOCAL_FILE : Nat := 0x04034B50
def CENTRAL_FILE : Nat := 0x02014B50
def END_RECORD : Nat := 0x06054B50

/-- 1980-01-01, as a date of MS-DOS. -/
def DOS_DATE : Nat := 33
/-- `0o100644 << 16`: a regular file. -/
def EXTERNAL_ATTR : Nat := 0o100644 * 2 ^ 16

/-- A name that is not ASCII is marked as UTF-8. -/
def flag_bits (member : Member) : Nat := if member.name.all fun c => c.toNat < 128 then 0 else 0x800

def local_record (member : Member) : Record := [
  (4, LOCAL_FILE), (2, 20), (2, flag_bits member), (2, 0), (2, 0), (2, DOS_DATE), (4, crc32 member.content),
  (4, member.content.length), (4, member.content.length), (2, (utf8 member.name).length), (2, 0)]

def central_record (member : Member) (header_offset : Nat) : Record := [
  (4, CENTRAL_FILE), (1, 20), (1, 3), (1, 20), (1, 0), (2, flag_bits member), (2, 0), (2, 0), (2, DOS_DATE),
  (4, crc32 member.content), (4, member.content.length), (4, member.content.length), (2, (utf8 member.name).length), (2, 0), (2, 0),
  (2, 0), (2, 0), (4, EXTERNAL_ATTR), (4, header_offset)]

def end_record (count size offset : Nat) : Record := [
  (4, END_RECORD), (2, 0), (2, 0), (2, count), (2, count), (4, size), (4, offset), (2, 0)]

/-! ### Writing -/

/-- `writestr` -/
def local_file (member : Member) : Bytes := (local_record member).bytes ++ (utf8 member.name ++ member.content)

def central_file (member : Member) (header_offset : Nat) : Bytes := (central_record member header_offset).bytes ++ utf8 member.name

/-- The central directory of members that stand from an offset on. -/
def directory : Nat → List Member → Bytes
  | _, [] => []
  | offset, member :: members => central_file member offset ++ directory (offset + (local_file member).length) members

/-- The file when it is closed. -/
def written (members : List Member) : Bytes :=
  let files := members.flatMap local_file
  files ++ (directory 0 members ++ (end_record members.length (directory 0 members).length files.length).bytes)

/-! ### Reading -/

/-- The name and the content of the member of a directory entry, and where the
    next entry stands. -/
def read_member (file : Bytes) (entry_at : Nat) : Option ((Bytes × Bytes) × Nat) :=
  let local_at := number file (entry_at + 42) 4
  let content := read file (local_at + 30 + number file (local_at + 26) 2 + number file (local_at + 28) 2) (number file (entry_at + 24) 4)
  if number file entry_at 4 = CENTRAL_FILE ∧ number file local_at 4 = LOCAL_FILE ∧ crc32 content = number file (entry_at + 16) 4 then
    some ((read file (entry_at + 46) (number file (entry_at + 28) 2), content),
      entry_at + 46 + number file (entry_at + 28) 2 + number file (entry_at + 30) 2 + number file (entry_at + 32) 2)
  else none

def read_directory (file : Bytes) : (count entry_at : Nat) → Option (List (Bytes × Bytes))
  | 0, _ => some []
  | count + 1, entry_at =>
    match read_member file entry_at with
    | none => none
    | some (member, next_at) => (read_directory file count next_at).map (member :: ·)

/-- The members of a file without a comment. -/
def members (file : Bytes) : Option (List (Bytes × Bytes)) :=
  let end_at := file.length - 22
  if number file end_at 4 = END_RECORD then read_directory file (number file (end_at + 10) 2) (number file (end_at + 16) 4) else none

/-! ### Round trip -/

@[simp] theorem Record.length_bytes (record : Record) : record.bytes.length = record.size := by
  induction record with
  | nil => rfl
  | cons field record ih =>
    rw [Record.bytes, List.flatMap_cons, List.length_append, length_little]
    exact congrArg (field.1 + ·) ih

theorem local_size (member : Member) : Record.size (local_record member) = 30 := by simp [local_record, Record.size]
theorem central_size (member : Member) (offset : Nat) : Record.size (central_record member offset) = 46 := by
  simp [central_record, Record.size]
theorem end_size (count size offset : Nat) : Record.size (end_record count size offset) = 22 := by simp [end_record, Record.size]

/-- A number of a record is read by the sizes of the numbers before it. -/
theorem Record.number_at {file before after : Bytes} {record : Record} (is : file = before ++ (record.bytes ++ after)) (k : Nat)
    {width offset n : Nat} (field : record[k]? = some (width, n)) (place : Record.size (record.take k) = offset) (small : n < 256 ^ width) :
    number file (before.length + offset) width = n := by
  subst place
  have inside : k < record.length := (List.getElem?_eq_some_iff.mp field).1
  have same : record[k] = (width, n) := (List.getElem?_eq_some_iff.mp field).2
  have cut : record.bytes = Record.bytes (record.take k) ++ (little width n ++ Record.bytes (record.drop (k + 1))) := by
    conv_lhs => rw [← List.take_append_drop k record, List.drop_eq_getElem_cons inside, same]
    rw [Record.bytes, List.flatMap_append, List.flatMap_cons]
    rfl
  rw [is, cut, ← Record.length_bytes, ← List.length_append, List.append_assoc, List.append_assoc, ← List.append_assoc before,
    number_between, Nat.mod_eq_of_lt small]

/-- A member whose numbers fit the records it stands in. -/
structure Fits (member : Member) : Prop where
  name : (utf8 member.name).length < 256 ^ 2
  content : member.content.length < 256 ^ 4

theorem length_local_file (member : Member) :
    (local_file member).length = 30 + (utf8 member.name).length + member.content.length := by
  rw [local_file, List.length_append, List.length_append, Record.length_bytes, local_size, Nat.add_assoc]

/-- A member is read by its directory entry. -/
theorem read_member_of {member : Member} (fits : Fits member) {file before between : Bytes} (after : Bytes) (offset : before.length < 256 ^ 4)
    (is : file = before ++ (local_file member ++ (between ++ (central_file member before.length ++ after)))) :
    read_member file (before ++ (local_file member ++ between)).length =
      some ((utf8 member.name, member.content), (before ++ (local_file member ++ (between ++ central_file member before.length))).length) := by
  have here : file = before ++ ((local_record member).bytes ++
      (utf8 member.name ++ (member.content ++ (between ++ (central_file member before.length ++ after))))) := by
    rw [is, local_file, List.append_assoc, List.append_assoc]
  have entry : file = (before ++ (local_file member ++ between)) ++
      ((central_record member before.length).bytes ++ (utf8 member.name ++ after)) := by
    rw [is, central_file]
    simp only [List.append_assoc]
  have content_at : file = (before ++ ((local_record member).bytes ++ utf8 member.name)) ++
      (member.content ++ (between ++ (central_file member before.length ++ after))) := by
    rw [here]
    simp only [List.append_assoc]
  have name_at : file = ((before ++ (local_file member ++ between)) ++ (central_record member before.length).bytes) ++
      (utf8 member.name ++ after) := by
    rw [entry]
    simp only [List.append_assoc]
  generalize at_entry : (before ++ (local_file member ++ between)).length = entry_at at *
  have central (k : Nat) {w d n : Nat} (field : (central_record member before.length)[k]? = some (w, n))
      (place : Record.size ((central_record member before.length).take k) = d) (small : n < 256 ^ w) : number file (entry_at + d) w = n :=
    at_entry ▸ Record.number_at entry k field place small
  have near (k : Nat) {w d n : Nat} (field : (local_record member)[k]? = some (w, n))
      (place : Record.size ((local_record member).take k) = d) (small : n < 256 ^ w) : number file (before.length + d) w = n :=
    Record.number_at here k field place small
  have signature : number file (entry_at + 0) 4 = CENTRAL_FILE :=
    central 0 (by simp [central_record]) (by simp [Record.size]) (by decide)
  have checksum : number file (entry_at + 16) 4 = crc32 member.content :=
    central 9 (by simp [central_record]) (by simp [central_record, Record.size]) (crc32_lt _)
  have size : number file (entry_at + 24) 4 = member.content.length :=
    central 11 (by simp [central_record]) (by simp [central_record, Record.size]) fits.content
  have named : number file (entry_at + 28) 2 = (utf8 member.name).length :=
    central 12 (by simp [central_record]) (by simp [central_record, Record.size]) fits.name
  have extra : number file (entry_at + 30) 2 = 0 :=
    central 13 (by simp [central_record]) (by simp [central_record, Record.size]) (by decide)
  have comment : number file (entry_at + 32) 2 = 0 :=
    central 14 (by simp [central_record]) (by simp [central_record, Record.size]) (by decide)
  have header : number file (entry_at + 42) 4 = before.length :=
    central 18 (by simp [central_record]) (by simp [central_record, Record.size]) offset
  have local_signature : number file (before.length + 0) 4 = LOCAL_FILE :=
    near 0 (by simp [local_record]) (by simp [Record.size]) (by decide)
  have local_named : number file (before.length + 26) 2 = (utf8 member.name).length :=
    near 9 (by simp [local_record]) (by simp [local_record, Record.size]) fits.name
  have local_extra : number file (before.length + 28) 2 = 0 :=
    near 10 (by simp [local_record]) (by simp [local_record, Record.size]) (by decide)
  have content : read file (before.length + 30 + (utf8 member.name).length + 0) member.content.length = member.content := by
    have where_it_stands : before.length + 30 + (utf8 member.name).length + 0 =
        (before ++ ((local_record member).bytes ++ utf8 member.name)).length := by
      rw [List.length_append, List.length_append, Record.length_bytes, local_size, Nat.add_zero, Nat.add_assoc]
    rw [where_it_stands, content_at]
    exact read_between _ _ _
  have name : read file (entry_at + 46) (utf8 member.name).length = utf8 member.name := by
    have where_it_stands : entry_at + 46 =
        ((before ++ (local_file member ++ between)) ++ (central_record member before.length).bytes).length := by
      rw [List.length_append, at_entry, Record.length_bytes, central_size]
    rw [where_it_stands, name_at]
    exact read_between _ _ _
  have next : entry_at + 46 + (utf8 member.name).length + 0 + 0 =
      (before ++ (local_file member ++ (between ++ central_file member before.length))).length := by
    have sizes : (central_file member before.length).length = 46 + (utf8 member.name).length := by
      rw [central_file, List.length_append, Record.length_bytes, central_size]
    simp only [List.length_append] at at_entry ⊢
    omega
  rw [Nat.add_zero] at signature local_signature
  rw [read_member, signature, checksum, size, named, extra, comment, header, local_signature, local_named, local_extra, content, name, next,
    if_pos ⟨rfl, rfl, rfl⟩]

/-- The members are read by the directory, from any of them on. -/
theorem read_directory_of {members : List Member} (fits : ∀ member ∈ members, Fits member) {file : Bytes} (before between after : Bytes)
    (offset : (before ++ members.flatMap local_file).length < 256 ^ 4)
    (is : file = before ++ (members.flatMap local_file ++ (between ++ (directory before.length members ++ after)))) :
    read_directory file members.length (before ++ (members.flatMap local_file ++ between)).length =
      some (members.map fun member => (utf8 member.name, member.content)) := by
  induction members generalizing before between with
  | nil => rfl
  | cons member members ih =>
    have all : (member :: members).flatMap local_file = local_file member ++ members.flatMap local_file := List.flatMap_cons
    have here : read_member file (before ++ (local_file member ++ (members.flatMap local_file ++ between))).length =
        some ((utf8 member.name, member.content),
          (before ++ (local_file member ++ ((members.flatMap local_file ++ between) ++ central_file member before.length))).length) := by
      apply read_member_of (fits member (by simp)) (directory (before.length + (local_file member).length) members ++ after)
      · rw [List.length_append] at offset
        omega
      · rw [is, all, directory]
        simp only [List.append_assoc]
    have rest := ih (fun other later => fits other (List.mem_cons_of_mem _ later)) (before ++ local_file member)
      (between ++ central_file member before.length)
      (by rw [all] at offset; simpa only [List.append_assoc] using offset)
      (by rw [is, all, directory, List.length_append]; simp only [List.append_assoc])
    rw [all, List.length_cons, read_directory, List.append_assoc, here]
    simp only [List.append_assoc] at rest ⊢
    rw [rest]
    rfl

/-- What was written is read back. -/
theorem members_written {list : List Member} (fits : ∀ member ∈ list, Fits member) (count : list.length < 256 ^ 2)
    (size : (written list).length < 256 ^ 4) :
    members (written list) = some (list.map fun member => (utf8 member.name, member.content)) := by
  have parts : (written list).length = (list.flatMap local_file).length + (directory 0 list).length + 22 := by
    rw [written, List.length_append, List.length_append, Record.length_bytes, end_size, ← Nat.add_assoc]
  have end_at : (written list).length - 22 = (list.flatMap local_file ++ directory 0 list).length := by
    rw [List.length_append, parts, Nat.add_sub_cancel]
  have file_end : written list = (list.flatMap local_file ++ directory 0 list) ++
      ((end_record list.length (directory 0 list).length (list.flatMap local_file).length).bytes ++ []) := by
    rw [List.append_nil, List.append_assoc, written]
  generalize ends : end_record list.length (directory 0 list).length (list.flatMap local_file).length = record at file_end
  have fields (k : Nat) {w d n : Nat} (field : record[k]? = some (w, n)) (place : Record.size (record.take k) = d) (small : n < 256 ^ w) :
      number (written list) ((written list).length - 22 + d) w = n := by
    rw [end_at]
    exact Record.number_at file_end k field place small
  have signature : number (written list) ((written list).length - 22 + 0) 4 = END_RECORD :=
    fields 0 (by simp [← ends, end_record]) (by simp [Record.size]) (by decide)
  have entries : number (written list) ((written list).length - 22 + 10) 2 = list.length :=
    fields 4 (by simp [← ends, end_record]) (by simp [← ends, end_record, Record.size]) count
  have directory_at : number (written list) ((written list).length - 22 + 16) 4 = (list.flatMap local_file).length :=
    fields 6 (by simp [← ends, end_record]) (by simp [← ends, end_record, Record.size]) (by omega)
  have whole : read_directory (written list) list.length ([] ++ (list.flatMap local_file ++ [])).length =
      some (list.map fun member => (utf8 member.name, member.content)) :=
    read_directory_of fits [] [] (end_record list.length (directory 0 list).length (list.flatMap local_file).length).bytes
      (by rw [List.nil_append]; omega) rfl
  rw [List.nil_append, List.append_nil] at whole
  rw [Nat.add_zero] at signature
  rw [members, signature, entries, directory_at, if_pos rfl, whole]

end RedDock.ZipFiles
