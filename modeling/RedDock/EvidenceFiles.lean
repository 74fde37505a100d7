import RedDock.Trees
import RedDock.Members
import RedDock.Fallible
import RedDock.ZipDirectory

/-!
# The files of an evidence directory

`_evidence_files` walks the evidence directory with a stack of directories and
lists its files as members of a backup, within fixed limits.
-/
set_option autoImplicit false
namespace RedDock.EvidenceFiles
open Text Trees Members Fallible
open ZipDirectory (MAX_ARCHIVE_ENTRIES)

def MAX_EVIDENCE_DIRECTORIES : Nat := 20000
def MAX_EVIDENCE_DEPTH : Nat := 24

/-- What a walk has found, and the directories it still has to read. -/
structure Walk where
  members : List (Text × Path Text)
  directories : Nat
  pending : List (Path Text × Nat)

section
variable {C : Type} (names : Names)

/-- One entry of a directory at a depth. -/
def visit (depth : Nat) (walk : Walk) (entry : Path Text × Node C) : Except Text Walk :=
  match entry.2 with
  | .directory =>
    if MAX_EVIDENCE_DEPTH ≤ depth then .error "Evidence exceeds the fixed directory depth limit".toList
    else if MAX_EVIDENCE_DIRECTORIES < walk.directories + 1 then .error "Evidence contains too many directories".toList
    else .ok { walk with directories := walk.directories + 1, pending := (entry.1, depth + 1) :: walk.pending }
  | .file _ =>
    if MAX_ARCHIVE_ENTRIES - 1 ≤ walk.members.length then .error "Backup contains too many files".toList
    else if safe_member names (evidence_member entry.1) = false then .error "Evidence contains a path that is not portable".toList
    else .ok { walk with members := walk.members ++ [(evidence_member entry.1, entry.1)] }

def read_directories (tree : Tree Text C) : (fuel : Nat) → Walk → Except Text Walk
  | 0, walk => .ok walk
  | fuel + 1, walk => match walk.pending with
    | [] => .ok walk
    | (root, depth) :: pending => do
      let walk ← (tree.children root).foldlM (visit names depth) { walk with pending := pending }
      read_directories tree fuel walk

/-- Members by their names. -/
def by_name (first second : Text × Path Text) : Prop := first.1 ≤ second.1

instance : DecidableRel by_name := fun first second => inferInstanceAs (Decidable (first.1 ≤ second.1))

/-- `_evidence_files`, of the evidence directory when there is one. -/
def evidence_files (evidence : Option (Tree Text C)) : Except Text (List (Text × Path Text)) :=
  match evidence with
  | none => .ok []
  | some tree => do
    -- a directory is pushed once, so this many are never left over
    let walk ← read_directories names tree (tree.length + 2) ⟨[], 1, [([], 0)]⟩
    let members := walk.members.insertionSort by_name
    if (members.map fun member => names.casefold member.1).Nodup then .ok members
    else .error "Evidence contains portable path aliases".toList

/-! ### The order of a walk -/

/-- A file and its member. -/
def member_of (file : Path Text × C) : Text × Path Text := (evidence_member file.1, file.1)

/-- What an entry does to what was found, in a directory at the entry's depth. -/
def find (found : List (Text × Path Text) × Nat) (entry : Path Text × Node C) : Except Text (List (Text × Path Text) × Nat) :=
  (visit names (entry.1.length - 1) ⟨found.1, found.2, []⟩ entry).map fun walk => (walk.members, walk.directories)

variable {names} {tree : Tree Text C}

theorem visit_eq {depth : Nat} (walk : Walk) {entry : Path Text × Node C} (deep : entry.1.length = depth + 1) :
    visit names depth walk entry = (find names (walk.members, walk.directories) entry).map fun found =>
      ⟨found.1, found.2, (Tree.directories [entry]).map (fun path => (path, depth + 1)) ++ walk.pending⟩ := by
  obtain ⟨path, node⟩ := entry
  have length : path.length = depth + 1 := deep
  have depths : path.length - 1 = depth := by omega
  cases node with
  | directory =>
    simp only [visit, find, depths]
    split
    · rfl
    · split
      · rfl
      · rfl
  | file content =>
    simp only [visit, find]
    split
    · rfl
    · split
      · rfl
      · rfl

theorem visit_entries {depth : Nat} {entries : Tree Text C} (deep : ∀ entry ∈ entries, entry.1.length = depth + 1) (walk : Walk) :
    entries.foldlM (visit names depth) walk = (entries.foldlM (find names) (walk.members, walk.directories)).map fun found =>
      ⟨found.1, found.2, (Tree.directories entries).reverse.map (fun path => (path, depth + 1)) ++ walk.pending⟩ := by
  induction entries generalizing walk with
  | nil => rfl
  | cons entry entries ih =>
    rw [List.foldlM_cons, List.foldlM_cons, visit_eq walk (deep entry List.mem_cons_self)]
    cases finds : find names (walk.members, walk.directories) entry with
    | error message => rfl
    | ok found =>
      show entries.foldlM (visit names depth) _ = _
      rw [ih fun other member => deep other (List.mem_cons_of_mem _ member)]
      have split_first : Tree.directories (entry :: entries) = Tree.directories [entry] ++ Tree.directories entries :=
        Tree.directories_append [entry] entries
      have single : (Tree.directories [entry]).reverse = Tree.directories [entry] := by
        obtain ⟨path, node⟩ := entry
        cases node <;> rfl
      rw [split_first, List.reverse_append, List.map_append, single, List.append_assoc]
      rfl

/-- The walk finds what the entries lead to in the order they are visited. -/
theorem read_directories_eq (fuel : Nat) (walk : Walk) (depths : ∀ root ∈ walk.pending, root.2 = root.1.length) :
    (read_directories names tree fuel walk).map (fun walk => (walk.members, walk.directories)) =
      (tree.order fuel (walk.pending.map Prod.fst)).foldlM (find names) (walk.members, walk.directories) := by
  induction fuel generalizing walk with
  | zero => rfl
  | succ fuel ih =>
    obtain ⟨members, directories, pending⟩ := walk
    cases pending with
    | nil => rfl
    | cons root pending =>
      obtain ⟨root, depth⟩ := root
      have here : depth = root.length := depths _ List.mem_cons_self
      have deep : ∀ entry ∈ tree.children root, entry.1.length = depth + 1 := by
        intro entry member
        obtain ⟨_, nonempty, parent⟩ := Tree.mem_children.mp member
        have positive := List.length_pos_iff.mpr nonempty
        have shorter := congrArg List.length parent
        rw [List.length_dropLast] at shorter
        omega
      rw [List.map_cons, Tree.order, List.foldlM_append]
      show (((tree.children root).foldlM (visit names depth) ⟨members, directories, pending⟩) >>= _).map _ = _
      rw [visit_entries deep]
      cases (tree.children root).foldlM (find names) (members, directories) with
      | error message => rfl
      | ok found =>
        show (read_directories names tree fuel _).map _ = _
        rw [ih]
        · rw [List.map_append, List.map_map]
          have same : (Prod.fst ∘ fun path : Path Text => (path, depth + 1)) = id := rfl
          rw [same, List.map_id]
          rfl
        · intro other member
          rcases List.mem_append.mp member with pushed | old
          · obtain ⟨path, inside, rfl⟩ := List.mem_map.mp pushed
            rw [List.mem_reverse] at inside
            exact (deep _ (Tree.mem_directories.mp inside)).symm
          · exact depths other (List.mem_cons_of_mem _ old)

/-! ### What a walk accepts -/

/-- What the limits of a walk say of the entries that are visited. -/
structure Fits (names : Names) (found : List (Text × Path Text) × Nat) (entries : Tree Text C) : Prop where
  depth : ∀ path ∈ entries.directories, path.length ≤ MAX_EVIDENCE_DEPTH
  directories : found.2 + entries.directories.length ≤ MAX_EVIDENCE_DIRECTORIES
  files : found.1.length + entries.files.length ≤ MAX_ARCHIVE_ENTRIES - 1
  safe : ∀ file ∈ entries.files, safe_member names (evidence_member file.1) = true

theorem find_ok {found after : List (Text × Path Text) × Nat} {entry : Path Text × Node C} (named : entry.1 ≠ [])
    (few : found.2 ≤ MAX_EVIDENCE_DIRECTORIES ∧ found.1.length ≤ MAX_ARCHIVE_ENTRIES - 1) :
    find names found entry = .ok after ↔ Fits names found [entry] ∧
      after = (found.1 ++ (Tree.files [entry]).map member_of, found.2 + (Tree.directories [entry]).length) := by
  obtain ⟨path, node⟩ := entry
  have positive := List.length_pos_iff.mpr named
  rw [find, map_eq_ok]
  cases node with
  | directory =>
    simp only [visit]
    constructor
    · rintro ⟨walk, visits, rfl⟩
      split at visits
      · cases visits
      rename_i shallow
      split at visits
      · cases visits
      rename_i fits
      cases visits
      refine ⟨⟨fun other member => ?_, Nat.not_lt.mp fits, few.2, fun _ member => (List.not_mem_nil member).elim⟩, ?_⟩
      · rw [List.mem_singleton.mp member]
        show path.length ≤ _
        have depth : ¬MAX_EVIDENCE_DEPTH ≤ path.length - 1 := shallow
        omega
      · rw [show (Tree.files [(path, Node.directory)] : List (Path Text × C)) = [] from rfl, List.map_nil, List.append_nil]
        rfl
    · rintro ⟨fits, rfl⟩
      have depth : path.length ≤ MAX_EVIDENCE_DEPTH := fits.depth path (List.mem_singleton_self _)
      have count : found.2 + 1 ≤ MAX_EVIDENCE_DIRECTORIES := fits.directories
      have shallow : ¬MAX_EVIDENCE_DEPTH ≤ path.length - 1 := by
        have length_pos : 0 < path.length := positive
        omega
      refine ⟨⟨found.1, found.2 + 1, [(path, path.length - 1 + 1)]⟩, ?_, ?_⟩
      · rw [if_neg shallow, if_neg (Nat.not_lt.mpr count)]
      · rw [show (Tree.files [(path, Node.directory)] : List (Path Text × C)) = [] from rfl, List.map_nil, List.append_nil]
        rfl
  | file content =>
    simp only [visit]
    constructor
    · rintro ⟨walk, visits, rfl⟩
      split at visits
      · cases visits
      rename_i fits
      split at visits
      · cases visits
      rename_i safe
      cases visits
      refine ⟨⟨fun _ member => (List.not_mem_nil member).elim, few.1, ?_, fun file member => ?_⟩, rfl⟩
      · show found.1.length + 1 ≤ _
        exact Nat.not_le.mp fits
      · rw [List.mem_singleton.mp member]
        exact Bool.not_eq_false _ ▸ safe
    · rintro ⟨fits, rfl⟩
      have count : found.1.length + 1 ≤ MAX_ARCHIVE_ENTRIES - 1 := fits.files
      have safe : safe_member names (evidence_member path) = true := fits.safe (path, content) (List.mem_singleton_self _)
      refine ⟨⟨found.1 ++ [(evidence_member path, path)], found.2, []⟩, ?_, rfl⟩
      rw [if_neg (Nat.not_le.mpr count), if_neg (by rw [safe]; exact Bool.noConfusion)]

/-- What was found after some entries. -/
def found_after (found : List (Text × Path Text) × Nat) (entries : Tree Text C) : List (Text × Path Text) × Nat :=
  (found.1 ++ (Tree.files entries).map member_of, found.2 + (Tree.directories entries).length)

theorem found_after_cons (found : List (Text × Path Text) × Nat) (entry : Path Text × Node C) (entries : Tree Text C) :
    found_after found (entry :: entries) = found_after (found_after found [entry]) entries := by
  have files : Tree.files (entry :: entries) = Tree.files [entry] ++ Tree.files entries := Tree.files_append [entry] entries
  have directories : Tree.directories (entry :: entries) = Tree.directories [entry] ++ Tree.directories entries :=
    Tree.directories_append [entry] entries
  simp only [found_after, files, directories, List.map_append, List.length_append, List.append_assoc, Nat.add_assoc]

theorem fits_cons {found : List (Text × Path Text) × Nat} {entry : Path Text × Node C} {entries : Tree Text C} :
    Fits names found (entry :: entries) ↔ Fits names found [entry] ∧ Fits names (found_after found [entry]) entries := by
  have files : Tree.files (entry :: entries) = Tree.files [entry] ++ Tree.files entries := Tree.files_append [entry] entries
  have directories : Tree.directories (entry :: entries) = Tree.directories [entry] ++ Tree.directories entries :=
    Tree.directories_append [entry] entries
  constructor
  · rintro ⟨depth, few_directories, few_files, safe⟩
    rw [directories] at depth few_directories
    rw [files] at few_files safe
    rw [List.length_append] at few_directories few_files
    refine ⟨⟨fun path member => depth path (List.mem_append_left _ member), by omega, by omega, fun file member =>
      safe file (List.mem_append_left _ member)⟩, ⟨fun path member => depth path (List.mem_append_right _ member), ?_, ?_, fun file member =>
      safe file (List.mem_append_right _ member)⟩⟩
    · show found.2 + (Tree.directories [entry]).length + _ ≤ _
      omega
    · show (found.1 ++ (Tree.files [entry]).map member_of).length + _ ≤ _
      rw [List.length_append, List.length_map]
      omega
  · rintro ⟨first, rest⟩
    have few_directories : found.2 + (Tree.directories [entry]).length + (Tree.directories entries).length ≤ MAX_EVIDENCE_DIRECTORIES :=
      rest.directories
    have few_files : (found.1 ++ (Tree.files [entry]).map member_of).length + (Tree.files entries).length ≤ MAX_ARCHIVE_ENTRIES - 1 :=
      rest.files
    rw [List.length_append, List.length_map] at few_files
    refine ⟨fun path member => ?_, ?_, ?_, fun file member => ?_⟩
    · rw [directories] at member
      exact (List.mem_append.mp member).elim (first.depth path) (rest.depth path)
    · rw [directories, List.length_append]
      omega
    · rw [files, List.length_append]
      omega
    · rw [files] at member
      exact (List.mem_append.mp member).elim (first.safe file) (rest.safe file)

theorem find_entries {found after : List (Text × Path Text) × Nat} {entries : Tree Text C} (named : ∀ entry ∈ entries, entry.1 ≠ [])
    (few : found.2 ≤ MAX_EVIDENCE_DIRECTORIES ∧ found.1.length ≤ MAX_ARCHIVE_ENTRIES - 1) :
    entries.foldlM (find names) found = .ok after ↔ Fits names found entries ∧ after = found_after found entries := by
  induction entries generalizing found with
  | nil =>
    have same : found_after found ([] : Tree Text C) = found := by
      show (found.1 ++ [], found.2) = found
      rw [List.append_nil]
    rw [same]
    refine ⟨fun is => ?_, fun both => by rw [both.2]; rfl⟩
    cases is
    exact ⟨⟨fun _ member => (List.not_mem_nil member).elim, few.1, few.2, fun _ member => (List.not_mem_nil member).elim⟩, rfl⟩
  | cons entry entries ih =>
    have first : ∀ next, find names found entry = .ok next ↔ Fits names found [entry] ∧ next = found_after found [entry] := fun next =>
      find_ok (named entry List.mem_cons_self) few
    rw [fits_cons, found_after_cons found entry entries]
    have later : Fits names found [entry] → (entries.foldlM (find names) (found_after found [entry]) = .ok after ↔
        Fits names (found_after found [entry]) entries ∧ after = found_after (found_after found [entry]) entries) := by
      intro fits
      refine ih (fun other member => named other (List.mem_cons_of_mem _ member)) ⟨fits.directories, ?_⟩
      show (found.1 ++ (Tree.files [entry]).map member_of).length ≤ _
      rw [List.length_append, List.length_map]
      exact fits.files
    show (find names found entry >>= fun next => entries.foldlM (find names) next) = _ ↔ _
    rw [bind_eq_ok]
    constructor
    · rintro ⟨next, finds, rest⟩
      obtain ⟨fits, rfl⟩ := (first next).mp finds
      obtain ⟨more, is⟩ := (later fits).mp rest
      exact ⟨⟨fits, more⟩, is⟩
    · rintro ⟨⟨fits, more⟩, is⟩
      exact ⟨_, (first _).mpr ⟨fits, rfl⟩, (later fits).mpr ⟨more, is⟩⟩

/-- What evidence that `_evidence_files` lists is. -/
structure Portable (names : Names) (tree : Tree Text C) : Prop where
  depth : ∀ path ∈ tree.directories, path.length ≤ MAX_EVIDENCE_DEPTH
  directories : tree.directories.length + 1 ≤ MAX_EVIDENCE_DIRECTORIES
  files : tree.files.length ≤ MAX_ARCHIVE_ENTRIES - 1
  safe : ∀ file ∈ tree.files, safe_member names (evidence_member file.1) = true
  apart : (tree.files.map fun file => names.casefold (evidence_member file.1)).Nodup

theorem below_root (closed : Tree.Closed tree) : tree.below [] = tree := by
  refine List.filter_eq_self.mpr fun entry member => ?_
  rw [decide_eq_true_eq]
  exact ⟨rfl, closed.named entry member⟩

/-- The walk visits the whole tree. -/
theorem visited_perm (closed : Tree.Closed tree) : (tree.order (tree.length + 2) [[]]).Perm tree := by
  have below : [([] : Path Text)].flatMap tree.below = tree := by
    rw [List.flatMap_singleton, below_root closed]
  have enough : tree.weight [[]] ≤ tree.length + 2 := by
    have fewer : tree.directories.length ≤ tree.length := by
      rw [Tree.directories, List.length_map]
      exact List.length_filter_le _ _
    rw [Tree.weight, below, List.length_singleton]
    omega
  have whole := closed.order_perm enough
  rwa [below] at whole

instance : Std.Total by_name := ⟨fun first second => le_total first.1 second.1⟩
instance : IsTrans (Text × Path Text) by_name := ⟨fun _ _ _ one other => le_trans one other⟩

/-- Members with different names are sorted in one way. -/
theorem sorted_perm {first second : List (Text × Path Text)} (perm : first.Perm second) (once : (first.map Prod.fst).Nodup) :
    first.insertionSort by_name = second.insertionSort by_name := by
  refine List.Perm.eq_of_pairwise (fun one other left right before after => ?_) (List.pairwise_insertionSort by_name _)
    (List.pairwise_insertionSort by_name _) ?_
  · have here : one ∈ first := (List.mem_insertionSort by_name).mp left
    have there : other ∈ first := perm.mem_iff.mpr ((List.mem_insertionSort by_name).mp right)
    exact List.inj_on_of_nodup_map once here there (le_antisymm before after)
  · exact (List.perm_insertionSort _ _).trans (perm.trans (List.perm_insertionSort _ _).symm)

/-- `_evidence_files` lists the files of portable evidence by their members. -/
theorem evidence_files_ok (closed : Tree.Closed tree) {members : List (Text × Path Text)} :
    evidence_files names (some tree) = .ok members ↔
      Portable names tree ∧ members = (tree.files.map member_of).insertionSort by_name := by
  have perm := visited_perm closed
  have directories := Tree.directories_perm perm
  have files := Tree.files_perm perm
  have visited : (read_directories names tree (tree.length + 2) ⟨[], 1, [([], 0)]⟩).map (fun walk => (walk.members, walk.directories)) =
      (tree.order (tree.length + 2) [[]]).foldlM (find names) ([], 1) :=
    read_directories_eq _ _ fun root member => by rw [List.mem_singleton.mp member]; rfl
  have finds : ∀ after, (tree.order (tree.length + 2) [[]]).foldlM (find names) ([], 1) = .ok after ↔
      Fits names ([], 1) (tree.order (tree.length + 2) [[]]) ∧ after = found_after ([], 1) (tree.order (tree.length + 2) [[]]) := fun after =>
    find_entries (fun entry member => closed.named entry (perm.mem_iff.mp member)) ⟨by decide, by decide⟩
  have found_members : (found_after ([], 1) (tree.order (tree.length + 2) [[]])).1 = (tree.order (tree.length + 2) [[]]).files.map member_of :=
    List.nil_append _
  have listed : ((tree.order (tree.length + 2) [[]]).files.map member_of).Perm (tree.files.map member_of) := files.map _
  have aliases : ((((tree.order (tree.length + 2) [[]]).files.map member_of).insertionSort by_name).map fun member => names.casefold member.1).Perm
      (tree.files.map fun file => names.casefold (evidence_member file.1)) := by
    have whole := (((List.perm_insertionSort by_name _).trans listed).map fun member => names.casefold member.1)
    rwa [List.map_map] at whole
  have once : (tree.files.map fun file => names.casefold (evidence_member file.1)).Nodup →
      (((tree.order (tree.length + 2) [[]]).files.map member_of).map Prod.fst).Nodup := by
    intro apart
    refine List.Nodup.of_map names.casefold ?_
    refine ((((listed.map Prod.fst).map names.casefold).nodup_iff).mpr ?_)
    rwa [List.map_map, List.map_map]
  rw [evidence_files, bind_eq_ok]
  constructor
  · rintro ⟨walk, reads, tests⟩
    rw [reads] at visited
    have ran : (tree.order (tree.length + 2) [[]]).foldlM (find names) ([], 1) = .ok (walk.members, walk.directories) := visited.symm
    obtain ⟨fits, is⟩ := (finds _).mp ran
    have members_are : walk.members = (tree.order (tree.length + 2) [[]]).files.map member_of := (congrArg Prod.fst is).trans found_members
    simp only [members_are] at tests
    split at tests
    · rename_i apart
      cases tests
      have apart := aliases.nodup_iff.mp apart
      have few_directories := fits.directories
      have few_files := fits.files
      refine ⟨⟨fun path member => fits.depth path (directories.mem_iff.mpr member), ?_, ?_, fun file member =>
        fits.safe file (files.mem_iff.mpr member), apart⟩, sorted_perm listed (once apart)⟩
      · rw [← directories.length_eq, Nat.add_comm]
        exact few_directories
      · rw [← files.length_eq, ← Nat.zero_add (List.length _)]
        exact few_files
    · cases tests
  · rintro ⟨portable, rfl⟩
    have fits : Fits names ([], 1) (tree.order (tree.length + 2) [[]]) := by
      refine ⟨fun path member => portable.depth path (directories.mem_iff.mp member), ?_, ?_, fun file member =>
        portable.safe file (files.mem_iff.mp member)⟩
      · rw [directories.length_eq, Nat.add_comm]
        exact portable.directories
      · rw [files.length_eq]
        show 0 + _ ≤ _
        rw [Nat.zero_add]
        exact portable.files
    have ran := (finds _).mpr ⟨fits, rfl⟩
    cases reads : read_directories names tree (tree.length + 2) ⟨[], 1, [([], 0)]⟩ with
    | error message =>
      rw [reads] at visited
      have failed := visited.trans ran
      cases failed
    | ok walk =>
      rw [reads] at visited
      have same : Except.ok (walk.members, walk.directories) = Except.ok (found_after ([], 1) (tree.order (tree.length + 2) [[]])) :=
        visited.trans ran
      have members_are : walk.members = (tree.order (tree.length + 2) [[]]).files.map member_of :=
        (congrArg Prod.fst (Except.ok.inj same)).trans found_members
      refine ⟨walk, rfl, ?_⟩
      simp only [members_are]
      rw [if_pos (aliases.nodup_iff.mpr portable.apart), sorted_perm listed (once portable.apart)]

end
end RedDock.EvidenceFiles
