import Mathlib

/-!
# Bytes

Numbers and signatures at an offset of a file, the search for the last
signature before a limit, and the bytes of numbers and of texts.
-/
set_option autoImplicit false
namespace RedDock

abbrev Bytes := List UInt8

namespace Bytes

/-- At most `size` bytes from an offset. -/
def read (file : Bytes) (offset size : Nat) : Bytes := (file.drop offset).take size

def little_endian : Bytes → Nat
  | [] => 0
  | byte :: bytes => byte.toNat + 256 * little_endian bytes

/-- The little-endian number of some bytes at an offset. -/
def number (file : Bytes) (offset width : Nat) : Nat := little_endian (read file offset width)

/-- A signature at an offset. -/
def has (file signature : Bytes) (offset : Nat) : Bool := read file offset signature.length = signature

/-- `bytes.rfind(signature, 0, stop)`, for a signature that is not empty. -/
def rfind (file signature : Bytes) : Nat → Option Nat
  | 0 => none
  | stop + 1 =>
    if signature.length ≤ stop + 1 ∧ has file signature (stop + 1 - signature.length) then some (stop + 1 - signature.length)
    else rfind file signature stop

/-- A number in `width` bytes, little-endian. -/
def little : (width n : Nat) → Bytes
  | 0, _ => []
  | width + 1, n => UInt8.ofNat n :: little width (n / 256)

/-- `str.encode()` -/
def utf8 (t : List Char) : Bytes := t.flatMap String.utf8EncodeChar

section
variable {file signature : Bytes}

@[simp] theorem read_drop (start offset size : Nat) : read (file.drop start) offset size = read file (start + offset) size := by
  rw [read, read, List.drop_drop]

@[simp] theorem number_drop (start offset width : Nat) : number (file.drop start) offset width = number file (start + offset) width := by
  rw [number, number, read_drop]

@[simp] theorem has_drop (start offset : Nat) : has (file.drop start) signature offset = has file signature (start + offset) := by
  rw [has, has, read_drop]

theorem little_endian_lt (bytes : Bytes) : little_endian bytes < 256 ^ bytes.length := by
  induction bytes with
  | nil => exact Nat.one_pos
  | cons byte bytes ih =>
    have small : byte.toNat < 256 := byte.toNat_lt
    rw [little_endian, List.length_cons, Nat.pow_succ]
    omega

theorem number_lt (offset width : Nat) : number file offset width < 256 ^ width := by
  have short : (read file offset width).length ≤ width := List.length_take_le _ _
  exact Nat.lt_of_lt_of_le (little_endian_lt _) (Nat.pow_le_pow_right (by decide) short)

@[simp] theorem length_little (width n : Nat) : (little width n).length = width := by
  induction width generalizing n with
  | zero => rfl
  | succ width ih => rw [little, List.length_cons, ih]

theorem little_endian_little (width n : Nat) : little_endian (little width n) = n % 256 ^ width := by
  induction width generalizing n with
  | zero => rw [little, little_endian, Nat.pow_zero, Nat.mod_one]
  | succ width ih =>
    have byte : (UInt8.ofNat n).toNat = n % 256 := UInt8.toNat_ofNat
    rw [little, little_endian, ih, byte, Nat.pow_succ', Nat.mod_mul]

/-- What stands between other bytes is read by its place and its size. -/
theorem read_between (before here after : Bytes) : read (before ++ (here ++ after)) before.length here.length = here := by
  rw [read, List.drop_left, List.take_left]

theorem number_between (before after : Bytes) (width n : Nat) :
    number (before ++ (little width n ++ after)) before.length width = n % 256 ^ width := by
  have here := read_between before (little width n) after
  rw [length_little] at here
  rw [number, here, little_endian_little]

theorem has_get {offset k : Nat} (here : has file signature offset = true) (inside : k < signature.length) :
    file[offset + k]? = signature[k]? := by
  have same : read file offset signature.length = signature := of_decide_eq_true here
  rw [← same, read, List.getElem?_take_of_lt inside, List.getElem?_drop]

theorem has_within {offset : Nat} (here : has file signature offset = true) (nonempty : signature ≠ []) :
    offset + signature.length ≤ file.length := by
  have same : (read file offset signature.length).length = signature.length := congrArg List.length (of_decide_eq_true here)
  have positive := List.length_pos_iff.mpr nonempty
  rw [read, List.length_take, List.length_drop] at same
  omega

/-! ### The last signature -/

theorem rfind_some {stop found : Nat} (is : rfind file signature stop = some found) :
    has file signature found = true ∧ found + signature.length ≤ stop ∧
      ∀ offset, has file signature offset = true → offset + signature.length ≤ stop → offset ≤ found := by
  induction stop with
  | zero => cases is
  | succ stop ih =>
    unfold rfind at is
    split at is
    · rename_i here
      cases is
      exact ⟨here.2, by omega, fun offset _ fits => by omega⟩
    · rename_i elsewhere
      obtain ⟨here, fits, last⟩ := ih is
      refine ⟨here, by omega, fun offset other within => ?_⟩
      by_cases at_end : offset + signature.length = stop + 1
      · have position : stop + 1 - signature.length = offset := by omega
        exact absurd ⟨by omega, position ▸ other⟩ elsewhere
      · exact last offset other (by omega)

theorem rfind_of_has {stop offset : Nat} (here : has file signature offset = true) (fits : offset + signature.length ≤ stop)
    (nonempty : signature ≠ []) : ∃ found, rfind file signature stop = some found ∧ offset ≤ found := by
  have positive := List.length_pos_iff.mpr nonempty
  cases searched : rfind file signature stop with
  | some found => exact ⟨found, rfl, (rfind_some searched).2.2 offset here fits⟩
  | none =>
    exfalso
    induction stop with
    | zero => omega
    | succ stop ih =>
      unfold rfind at searched
      split at searched
      · cases searched
      · rename_i elsewhere
        by_cases at_end : offset + signature.length = stop + 1
        · have position : stop + 1 - signature.length = offset := by omega
          exact elsewhere ⟨by omega, position ▸ here⟩
        · exact ih (by omega) searched

end
end Bytes
end RedDock
