import RedDock.Text
import RedDock.Bytes

/-!
# Member names

The names a backup may give its members: relative POSIX paths that are portable
to every file system a backup may be restored on.
-/
set_option autoImplicit false
namespace RedDock.Members
open Text

/-- The Unicode tables that names are judged by. -/
structure Names where
  /-- `unicodedata.normalize("NFC", text)` -/
  nfc : Text → Text
  /-- `str.casefold` -/
  casefold : Text → Text

def WINDOWS_RESERVED : List Text :=
  ["aux", "con", "nul", "prn", "conin$", "conout$", "com¹", "com²", "com³", "lpt¹", "lpt²", "lpt³", "com1", "com2", "com3", "com4",
    "com5", "com6", "com7", "com8", "com9", "lpt1", "lpt2", "lpt3", "lpt4", "lpt5", "lpt6", "lpt7", "lpt8", "lpt9"].map String.toList

def DATABASE_MEMBER : Text := "database/reddock.db".toList
def EVIDENCE : Text := "evidence".toList

/-! ### Pure paths -/

/-- `PurePosixPath(name).parts` of a relative path. -/
def parts (name : Text) : List Text := (name.splitOn '/').filter fun part => part ≠ [] ∧ part ≠ ['.']

/-- `PurePosixPath.as_posix` of a relative path. -/
def as_posix (parts : List Text) : Text := if parts = [] then ['.'] else join ['/'] parts

/-- The number of bytes of a text in UTF-8. -/
def utf8_size (t : Text) : Nat := (t.map Char.utf8Size).sum

theorem utf8_size_append (first second : Text) : utf8_size (first ++ second) = utf8_size first + utf8_size second := by
  simp [utf8_size]

theorem utf8_size_cons (c : Char) (t : Text) : utf8_size (c :: t) = c.utf8Size + utf8_size t := by simp [utf8_size]

theorem utf8_length (t : Text) : (Bytes.utf8 t).length = utf8_size t := by
  induction t with
  | nil => rfl
  | cons c t ih =>
    rw [Bytes.utf8, List.flatMap_cons, List.length_append, String.length_utf8EncodeChar, utf8_size_cons]
    exact congrArg (c.utf8Size + ·) ih

/-! ### Safe names -/

section
variable (names : Names)

def safe_part (part : Text) : Bool :=
  part ∉ [[], ['.'], ['.', '.']] && utf8_size part ≤ 255 && part.getLast? ∉ [some ' ', some '.'] &&
    names.casefold (part.takeWhile (· ≠ '.')) ∉ WINDOWS_RESERVED && !part.any fun c => c.toNat < 32 || c.toNat = 127

/-- `_safe_member` -/
def safe_member (name : Text) : Bool :=
  name ≠ [] && name.length ≤ 1024 && '\\' ∉ name && ':' ∉ name && !name.any (· ∈ ['<', '>', '"', '|', '?', '*']) && '\x00' ∉ name &&
    names.nfc name = name && name.head? ≠ some '/' && as_posix (parts name) = name && (parts name).all (safe_part names)

variable {names}

/-- A component that can be in a path. -/
def Component (part : Text) : Prop := part ≠ [] ∧ part ≠ ['.'] ∧ '/' ∉ part

/-- No piece of a text contains the separator it was split on. -/
theorem not_mem_splitOn {sep : Char} {t piece : Text} (member : piece ∈ t.splitOn sep) : sep ∉ piece := by
  rw [List.splitOn_eq_splitOnP] at member
  induction t generalizing piece with
  | nil =>
    rw [List.splitOnP_nil, List.mem_singleton] at member
    rw [member]
    exact List.not_mem_nil
  | cons d ds ih =>
    rw [List.splitOnP_cons_eq_if_modifyHead] at member
    split at member
    · rcases List.mem_cons.mp member with rfl | later
      · exact List.not_mem_nil
      · exact ih later
    · rename_i other
      cases pieces : ds.splitOnP (· == sep) with
      | nil => exact absurd pieces (List.splitOnP_ne_nil _ _)
      | cons first rest =>
        rw [pieces, List.modifyHead_cons] at member
        rcases List.mem_cons.mp member with rfl | later
        · intro inside
          rcases List.mem_cons.mp inside with rfl | inside
          · exact other (beq_self_eq_true _)
          · exact ih (pieces ▸ List.mem_cons_self) inside
        · exact ih (pieces ▸ List.mem_cons_of_mem _ later)

theorem parts_component {name part : Text} (member : part ∈ parts name) : Component part := by
  obtain ⟨piece, named⟩ := List.mem_filter.mp member
  rw [decide_eq_true_eq] at named
  exact ⟨named.1, named.2, not_mem_splitOn piece⟩

/-- The parts of a joined path are the components it was joined of. -/
theorem parts_join {components : List Text} (nonempty : components ≠ []) (all : ∀ part ∈ components, Component part) :
    parts (join ['/'] components) = components := by
  rw [parts, join, List.splitOn_intercalate '/' (fun part member => (all part member).2.2) nonempty]
  refine List.filter_eq_self.mpr fun part member => ?_
  rw [decide_eq_true_eq]
  exact ⟨(all part member).1, (all part member).2.1⟩

theorem safe_member_as_posix {name : Text} (safe : safe_member names name = true) : as_posix (parts name) = name := by
  simp only [safe_member, Bool.and_eq_true, decide_eq_true_eq] at safe
  exact safe.1.2

/-- A joined path does not end with the separator. -/
theorem join_ends {components : List Text} (nonempty : components ≠ []) (all : ∀ part ∈ components, Component part) :
    (join ['/'] components).getLast? ≠ some '/' := by
  induction components with
  | nil => exact absurd rfl nonempty
  | cons first rest ih =>
    obtain ⟨here, later⟩ := List.forall_mem_cons.mp all
    have last : ∀ part : Text, Component part → part.getLast? ≠ some '/' := fun part component ends =>
      component.2.2 (List.mem_of_getLast? ends)
    cases rest with
    | nil =>
      rw [join, List.intercalate_singleton]
      exact last first here
    | cons second rest =>
      have below := ih (List.cons_ne_nil _ _) later
      rw [join_cons_cons, List.getLast?_append]
      cases ends : (join ['/'] (second :: rest)).getLast? with
      | none =>
        -- the rest of a path has a component, which is not empty
        rw [List.getLast?_eq_none_iff] at ends
        have part := parts_join (List.cons_ne_nil second rest) later
        rw [ends] at part
        exact absurd part.symm (List.cons_ne_nil _ _)
      | some c =>
        rw [ends] at below
        exact below

/-- A safe name does not name a directory. -/
theorem safe_member_ends {name : Text} (safe : safe_member names name = true) : name.getLast? ≠ some '/' := by
  rw [← safe_member_as_posix safe, as_posix]
  split
  · decide
  next nonempty => exact join_ends nonempty fun part member => parts_component member

theorem safe_member_part {name part : Text} (safe : safe_member names name = true) (member : part ∈ parts name) :
    safe_part names part = true := by
  simp only [safe_member, Bool.and_eq_true] at safe
  exact List.all_eq_true.mp safe.2 part member

/-- Safe names with the same parts are the same. -/
theorem safe_member_inj {first second : Text} (left : safe_member names first = true) (right : safe_member names second = true)
    (same : parts first = parts second) : first = second := by
  rw [← safe_member_as_posix left, same, safe_member_as_posix right]

/-- A part of a safe name does not lead out of the directory it is in. -/
theorem safe_part_inside {part : Text} (safe : safe_part names part = true) : part ≠ ['.', '.'] := by
  intro dots
  rw [dots] at safe
  simp [safe_part] at safe

/-- The evidence member of a path below the evidence directory. -/
def evidence_member (path : List Text) : Text := "evidence/".toList ++ join ['/'] path

theorem evidence_member_eq {path : List Text} (nonempty : path ≠ []) : evidence_member path = join ['/'] (EVIDENCE :: path) := by
  cases path with
  | nil => exact absurd rfl nonempty
  | cons first rest =>
    rw [join_cons_cons]
    rfl

theorem parts_evidence_member {path : List Text} (nonempty : path ≠ []) (all : ∀ part ∈ path, Component part) :
    parts (evidence_member path) = EVIDENCE :: path := by
  rw [evidence_member_eq nonempty]
  refine parts_join (List.cons_ne_nil _ _) fun part member => ?_
  rcases List.mem_cons.mp member with rfl | inside
  · exact ⟨by decide, by decide, by decide⟩
  · exact all part inside

theorem parts_evidence (rest : Text) : parts (EVIDENCE ++ '/' :: rest) = EVIDENCE :: parts rest := by
  have free : '/' ∉ EVIDENCE := by decide
  have kept : decide (EVIDENCE ≠ [] ∧ EVIDENCE ≠ ['.']) = true := by decide
  rw [parts, List.splitOn_append_cons_self_of_not_mem free, List.filter_cons, if_pos kept]
  rfl

/-- A safe name in the evidence directory is the member of a path below it. -/
theorem safe_evidence {name : Text} (safe : safe_member names name = true) (evidence : "evidence/".toList <+: name) :
    ∃ path, path ≠ [] ∧ (∀ part ∈ path, Component part) ∧ name = evidence_member path := by
  obtain ⟨rest, rfl⟩ := evidence
  have apart : "evidence/".toList ++ rest = EVIDENCE ++ '/' :: rest := rfl
  rw [apart] at safe ⊢
  have whole := safe_member_as_posix safe
  rw [parts_evidence, as_posix, if_neg (List.cons_ne_nil _ _)] at whole
  have below : parts rest ≠ [] := by
    intro nothing
    have single : join ['/'] [EVIDENCE] = EVIDENCE := rfl
    rw [nothing, single] at whole
    have lengths := congrArg List.length whole
    rw [List.length_append, List.length_cons] at lengths
    omega
  refine ⟨parts rest, below, fun part member => parts_component member, ?_⟩
  rw [← whole, evidence_member_eq below]

end
end RedDock.Members
