import RedDock.Members
import RedDock.ZipEnds

/-!
# Archives of deflated members

What `zipfile` writes of members that are deflated, with the sizes of its parts.
The compressor is given; a member may be written with ZIP64 sizes whatever its
size is.
-/
set_option autoImplicit false
namespace RedDock.DeflatedArchives
open Text Bytes ZipFiles ZipEnds ZipDirectory
open Members (utf8_size utf8_length)

structure Source where
  name : Text
  content : Bytes
  force_zip64 : Bool

def ZIP_DEFLATED : Nat := 8
/-- `(stat.S_IFREG | 0o600) << 16` -/
def PRIVATE_ATTR : Nat := 0o100600 * 2 ^ 16

section
variable (deflate : Bytes → Bytes)

/-- Whether the local header has ZIP64 sizes: more than the limit, with an allowance
    of a twentieth. -/
def Source.zip64 (source : Source) : Bool := source.force_zip64 || 100 * ZIP64_LIMIT < 105 * source.content.length

def Source.version (source : Source) : Nat := if source.zip64 then 45 else 20

def Source.flag_bits (source : Source) : Nat := if source.name.all fun c => c.toNat < 128 then 0 else 0x800

/-- The extra field of ZIP64, where there are values for it. -/
def zip64_extra (values : List Nat) : Record := if values = [] then [] else (2, 1) :: (2, 8 * values.length) :: values.map fun value => (8, value)

def local_extra (source : Source) : Record :=
  zip64_extra (if source.zip64 then [source.content.length, (deflate source.content).length] else [])

/-- `ZipInfo.FileHeader` -/
def local_record (source : Source) : Record := [
  (4, LOCAL_FILE), (2, source.version), (2, source.flag_bits), (2, ZIP_DEFLATED), (2, 0), (2, DOS_DATE), (4, crc32 source.content),
  (4, if source.zip64 then 0xFFFFFFFF else (deflate source.content).length), (4, if source.zip64 then 0xFFFFFFFF else source.content.length),
  (2, (utf8 source.name).length), (2, Record.size (local_extra deflate source))]

def local_file (source : Source) : Bytes :=
  (local_record deflate source).bytes ++ (utf8 source.name ++ ((local_extra deflate source).bytes ++ deflate source.content))

def large (source : Source) : Bool := ZIP64_LIMIT < source.content.length || ZIP64_LIMIT < (deflate source.content).length

/-- The values that do not fit the fields of a directory entry. -/
def central_extra (source : Source) (header_offset : Nat) : Record :=
  zip64_extra ((if large deflate source then [source.content.length, (deflate source.content).length] else []) ++
    if ZIP64_LIMIT < header_offset then [header_offset] else [])

def central_record (source : Source) (header_offset : Nat) : Record :=
  let version := if central_extra deflate source header_offset = [] then source.version else 45
  [(4, CENTRAL_FILE), (1, version), (1, 3), (1, version), (1, 0), (2, source.flag_bits), (2, ZIP_DEFLATED), (2, 0), (2, DOS_DATE),
    (4, crc32 source.content), (4, if large deflate source then 0xFFFFFFFF else (deflate source.content).length),
    (4, if large deflate source then 0xFFFFFFFF else source.content.length), (2, (utf8 source.name).length),
    (2, Record.size (central_extra deflate source header_offset)), (2, 0), (2, 0), (2, 0), (4, PRIVATE_ATTR),
    (4, if ZIP64_LIMIT < header_offset then 0xFFFFFFFF else header_offset)]

def central_file (source : Source) (header_offset : Nat) : Bytes :=
  (central_record deflate source header_offset).bytes ++ (utf8 source.name ++ (central_extra deflate source header_offset).bytes)

/-- The central directory of members that stand from an offset on. -/
def directory : Nat → List Source → Bytes
  | _, [] => []
  | offset, source :: sources => central_file deflate source offset ++ directory (offset + (local_file deflate source).length) sources

/-- `ZipFile` when it is closed. -/
def written (sources : List Source) : Bytes :=
  let files := sources.flatMap (local_file deflate)
  files ++ (directory deflate 0 sources ++ end_records sources.length (directory deflate 0 sources).length files.length)

end

/-! ### Sizes -/

theorem zip64_extra_size (values : List Nat) : Record.size (zip64_extra values) ≤ 4 + 8 * values.length := by
  unfold zip64_extra
  split
  · simp [Record.size]
  · have each : (values.map fun _ => 8).sum = 8 * values.length := by simp [Nat.mul_comm]
    have fields : Record.size ((2, 1) :: (2, 8 * values.length) :: values.map fun value => (8, value)) = 2 + (2 + (values.map fun _ => 8).sum) := by
      simp [Record.size, Function.comp_def]
    rw [fields, each]
    omega

section
variable {deflate : Bytes → Bytes}

theorem local_record_size (source : Source) : Record.size (local_record deflate source) = 30 := by simp [local_record, Record.size]
theorem central_record_size (source : Source) (offset : Nat) : Record.size (central_record deflate source offset) = 46 := by
  simp [central_record, Record.size]

theorem local_file_length (source : Source) :
    (local_file deflate source).length ≤ 50 + utf8_size source.name + (deflate source.content).length := by
  have extra : Record.size (local_extra deflate source) ≤ 20 := by
    unfold local_extra
    split
    · exact zip64_extra_size _
    · exact Nat.zero_le _
  rw [local_file, List.length_append, List.length_append, List.length_append, Record.length_bytes, Record.length_bytes, local_record_size,
    utf8_length]
  omega

theorem central_file_length (source : Source) (offset : Nat) : (central_file deflate source offset).length ≤ 74 + utf8_size source.name := by
  have extra : Record.size (central_extra deflate source offset) ≤ 28 := by
    refine (zip64_extra_size _).trans ?_
    rw [List.length_append]
    split <;> split <;> simp
  rw [central_file, List.length_append, List.length_append, Record.length_bytes, Record.length_bytes, central_record_size, utf8_length]
  omega

theorem directory_length (offset : Nat) (sources : List Source) :
    (directory deflate offset sources).length ≤ (sources.map fun source => 74 + utf8_size source.name).sum := by
  induction sources generalizing offset with
  | nil => exact Nat.zero_le _
  | cons source sources ih =>
    rw [directory, List.length_append, List.map_cons, List.sum_cons]
    exact Nat.add_le_add (central_file_length source offset) (ih _)

theorem files_length (sources : List Source) : (sources.flatMap (local_file deflate)).length ≤
    (sources.map fun source => 50 + utf8_size source.name + (deflate source.content).length).sum := by
  rw [List.length_flatMap]
  exact List.sum_le_sum fun source _ => local_file_length source

/-- The records at the end are short. -/
theorem end_records_length (count size offset : Nat) : (end_records count size offset).length ≤ 98 := by
  unfold end_records
  split
  · rw [List.length_append, List.length_append, Record.length_bytes, Record.length_bytes, Record.length_bytes, zip64_size, locator_size, end_size]
  · rw [Record.length_bytes, end_size]
    omega

/-- An archive whose directory is within the limits passes the preflight. -/
theorem preflight_written {sources : List Source} (few : sources.length ≤ MAX_ARCHIVE_ENTRIES + 1) (unsaturated : sources.length ≠ 0xFFFF)
    (small : (directory deflate 0 sources).length ≤ MAX_CENTRAL_DIRECTORY_BYTES)
    (inside : (sources.flatMap (local_file deflate)).length + (directory deflate 0 sources).length < 2 ^ 63) :
    preflight_zip_directory (written deflate sources) = .ok () := by
  have is : written deflate sources = (sources.flatMap (local_file deflate) ++ directory deflate 0 sources) ++
      end_records sources.length (directory deflate 0 sources).length (sources.flatMap (local_file deflate)).length := by
    rw [written, List.append_assoc]
  refine preflight_closed is ?_ few unsaturated small ?_
  · rw [List.length_append]
  · rwa [List.length_append]

end
end RedDock.DeflatedArchives
