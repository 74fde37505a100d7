import Mathlib

/-!
# Directory trees

A tree of directories and files by their paths, the order in which a stack of
directories visits it, and how it grows when files are created in it.
-/
set_option autoImplicit false
namespace RedDock.Trees

abbrev Path (N : Type) := List N

inductive Node (α : Type)
  | directory
  | file (content : α)
  deriving DecidableEq

def Node.is_directory {α : Type} : Node α → Bool
  | directory => true
  | file _ => false

/-- What is below a directory, by its path from there. -/
abbrev Tree (N α : Type) := List (Path N × Node α)

namespace Tree
variable {N α : Type}

def directories (tree : Tree N α) : List (Path N) := (tree.filter fun node => node.2.is_directory).map Prod.fst

def files (tree : Tree N α) : List (Path N × α) := tree.filterMap fun node => match node.2 with
  | .directory => none
  | .file content => some (node.1, content)

section
variable {tree : Tree N α}

theorem mem_directories {path : Path N} : path ∈ tree.directories ↔ (path, Node.directory) ∈ tree := by
  simp only [directories, List.mem_map, List.mem_filter]
  constructor
  · rintro ⟨⟨_, node⟩, ⟨member, is⟩, rfl⟩
    cases node with
    | directory => exact member
    | file content => cases is
  · exact fun member => ⟨_, ⟨member, rfl⟩, rfl⟩

theorem mem_files {path : Path N} {content : α} : (path, content) ∈ tree.files ↔ (path, Node.file content) ∈ tree := by
  simp only [files, List.mem_filterMap]
  constructor
  · rintro ⟨⟨_, node⟩, member, is⟩
    cases node with
    | directory => cases is
    | file content => cases is; exact member
  · exact fun member => ⟨_, member, rfl⟩

theorem directories_append (first second : Tree N α) : directories (first ++ second) = directories first ++ directories second := by
  rw [directories, List.filter_append, List.map_append]
  rfl

theorem files_append (first second : Tree N α) : files (first ++ second) = files first ++ files second := List.filterMap_append

theorem directories_perm {first second : Tree N α} (perm : first.Perm second) : first.directories.Perm second.directories :=
  (perm.filter _).map _

/-- A directory that is on the way from `made` is the first one, or after it. -/
theorem on_the_way {made rest path : Path N} {name : N} :
    (made <+: path ∧ path ≠ made ∧ path <+: made ++ name :: rest) ↔
      path = made ++ [name] ∨ (made ++ [name] <+: path ∧ path ≠ made ++ [name] ∧ path <+: made ++ [name] ++ rest) := by
  have arrange : made ++ [name] ++ rest = made ++ name :: rest := by simp
  rw [arrange]
  constructor
  · rintro ⟨⟨tail, rfl⟩, strict, inside⟩
    rw [List.prefix_append_right_inj] at inside
    cases tail with
    | nil => exact absurd (List.append_nil made) strict
    | cons first tail =>
      obtain ⟨rfl, _⟩ := List.cons_prefix_cons.mp inside
      by_cases last : tail = []
      · exact Or.inl (by rw [last])
      · refine Or.inr ⟨⟨tail, by simp⟩, by simpa using last, ?_⟩
        rw [List.prefix_append_right_inj]
        exact inside
  · rintro (rfl | ⟨⟨tail, rfl⟩, strict, inside⟩)
    · refine ⟨⟨[name], rfl⟩, by simp, ?_⟩
      rw [List.prefix_append_right_inj]
      exact ⟨rest, rfl⟩
    · exact ⟨⟨name :: tail, by simp⟩, by simp, inside⟩

/-- No file is on the way from `made`. -/
theorem free_way {made rest : Path N} {name : N} {files : List (Path N × α)} :
    (∀ path content, made <+: path → path ≠ made → path <+: made ++ name :: rest → (path, content) ∉ files) ↔
      (∀ content, (made ++ [name], content) ∉ files) ∧ ∀ path content, made ++ [name] <+: path → path ≠ made ++ [name] →
        path <+: made ++ [name] ++ rest → (path, content) ∉ files := by
  constructor
  · intro free
    refine ⟨fun content => ?_, fun path content before strict within => ?_⟩
    · have way : made <+: made ++ [name] ∧ made ++ [name] ≠ made ∧ made ++ [name] <+: made ++ name :: rest :=
        on_the_way.mpr (Or.inl rfl)
      exact free _ content way.1 way.2.1 way.2.2
    · have way := on_the_way.mpr (Or.inr ⟨before, strict, within⟩)
      exact free path content way.1 way.2.1 way.2.2
  · rintro ⟨here, further⟩ path content before strict within
    rcases on_the_way.mp ⟨before, strict, within⟩ with rfl | ⟨before, strict, within⟩
    · exact here content
    · exact further path content before strict within

/-- A path strictly above another one. -/
def Above (first second : Path N) : Prop := first <+: second ∧ first ≠ second

/-- The strict prefixes of a path are the prefixes of its parent. -/
theorem above_iff {first second : Path N} (nonempty : second ≠ []) : Above first second ↔ first <+: second.dropLast := by
  have whole := List.dropLast_append_getLast nonempty
  constructor
  · rintro ⟨before, strict⟩
    rw [← whole, List.prefix_concat_iff] at before
    rcases before with same | inside
    · exact absurd (same.trans whole) strict
    · exact inside
  · intro before
    refine ⟨before.trans (List.dropLast_prefix _), fun same => ?_⟩
    have positive := List.length_pos_iff.mpr nonempty
    have shorter := before.length_le
    rw [same, List.length_dropLast] at shorter
    omega

theorem files_perm {first second : Tree N α} (perm : first.Perm second) : first.files.Perm second.files := perm.filterMap _

end

variable [DecidableEq N]

/-- What is at a path. -/
def look (tree : Tree N α) (path : Path N) : Option (Node α) := if path = [] then some .directory else tree.lookup path

/-- The entries of a directory. -/
def children (tree : Tree N α) (root : Path N) : Tree N α := tree.filter fun node => node.1 ≠ [] ∧ node.1.dropLast = root

/-- Everything below a directory. -/
def below (tree : Tree N α) (root : Path N) : Tree N α := tree.filter fun node => root.isPrefixOf node.1 ∧ node.1 ≠ root

/-- The entries of the directories on a stack, in the order they are visited
    when the subdirectories of a directory are pushed one after another. -/
def order (tree : Tree N α) : (fuel : Nat) → (pending : List (Path N)) → Tree N α
  | 0, _ => []
  | _ + 1, [] => []
  | fuel + 1, root :: pending => tree.children root ++ tree.order fuel ((tree.children root).directories.reverse ++ pending)

/-- Every node is once in a tree, and is in a directory of it. -/
structure Closed (tree : Tree N α) : Prop where
  once : (tree.map Prod.fst).Nodup
  named : ∀ node ∈ tree, node.1 ≠ []
  parents : ∀ node ∈ tree, tree.look node.1.dropLast = some .directory

section
variable {tree : Tree N α}

theorem Closed.nodup (closed : Closed tree) : tree.Nodup := List.Nodup.of_map _ closed.once

theorem Closed.look (closed : Closed tree) {path : Path N} {node : Node α} (member : (path, node) ∈ tree) :
    tree.look path = some node := by
  rw [Tree.look, if_neg (closed.named _ member)]
  cases found : tree.lookup path with
  | none =>
    rw [List.lookup_eq_none_iff] at found
    have differs := found _ member
    simp at differs
  | some other =>
    obtain ⟨before, after, rfl, _⟩ := List.lookup_eq_some_iff.mp found
    have here : (path, other) ∈ before ++ (path, other) :: after := List.mem_append_right _ List.mem_cons_self
    have same := List.inj_on_of_nodup_map closed.once here member rfl
    rw [(Prod.mk.inj same).2]

theorem mem_of_look {path : Path N} {node : Node α} (nonempty : path ≠ []) (found : tree.look path = some node) : (path, node) ∈ tree := by
  rw [Tree.look, if_neg nonempty] at found
  obtain ⟨before, after, rfl, _⟩ := List.lookup_eq_some_iff.mp found
  exact List.mem_append_right _ List.mem_cons_self

/-- Every path above a node is a directory. -/
theorem Closed.above (closed : Closed tree) {path above : Path N} {node : Node α} (member : (path, node) ∈ tree) (before : above <+: path)
    (strict : above ≠ path) : tree.look above = some .directory := by
  obtain ⟨rest, rfl⟩ := before
  induction rest using List.reverseRecOn generalizing node with
  | nil => exact absurd (List.append_nil above).symm strict
  | append_singleton rest last ih =>
    have parent := closed.parents _ member
    rw [← List.append_assoc, List.dropLast_concat] at parent
    cases rest with
    | nil => rwa [List.append_nil] at parent
    | cons first rest => exact ih (mem_of_look (by simp) parent) (by simp)

theorem mem_children {root : Path N} {node : Path N × Node α} :
    node ∈ tree.children root ↔ node ∈ tree ∧ node.1 ≠ [] ∧ node.1.dropLast = root := by
  rw [children, List.mem_filter, decide_eq_true_eq]

theorem mem_below {root : Path N} {node : Path N × Node α} : node ∈ tree.below root ↔ node ∈ tree ∧ root <+: node.1 ∧ node.1 ≠ root := by
  rw [below, List.mem_filter, decide_eq_true_eq, List.isPrefixOf_iff_prefix]

/-- What is below a directory: its entries and what is below its subdirectories. -/
theorem Closed.below_perm (closed : Closed tree) (root : Path N) :
    (tree.below root).Perm (tree.children root ++ (tree.children root).directories.flatMap tree.below) := by
  have subdirectory : ∀ {path : Path N}, path ∈ (tree.children root).directories → path ≠ [] ∧ path.dropLast = root := fun member =>
    (mem_children.mp (mem_directories.mp member)).2
  have lengths : ∀ {path : Path N}, path ∈ (tree.children root).directories → path.length = root.length + 1 := by
    intro path member
    obtain ⟨nonempty, parent⟩ := subdirectory member
    have positive := List.length_pos_iff.mpr nonempty
    have shorter := congrArg List.length parent
    rw [List.length_dropLast] at shorter
    omega
  refine (List.perm_ext_iff_of_nodup (closed.nodup.filter _) (List.nodup_append'.mpr ⟨closed.nodup.filter _, ?_, ?_⟩)).mpr ?_
  · refine List.nodup_flatMap.mpr ⟨fun _ _ => closed.nodup.filter _, ?_⟩
    have once : (tree.children root).directories.Nodup :=
      closed.once.sublist ((List.filter_sublist.trans List.filter_sublist).map _)
    refine once.imp_of_mem fun {first second} left right different => ?_
    intro node inside other
    refine different (List.prefix_of_prefix_length_le (mem_below.mp inside).2.1 (mem_below.mp other).2.1 ?_ |>.eq_of_length ?_)
    · exact Nat.le_of_eq ((lengths left).trans (lengths right).symm)
    · exact (lengths left).trans (lengths right).symm
  · intro node inside other
    obtain ⟨path, subdirectory, deeper⟩ := List.mem_flatMap.mp other
    obtain ⟨_, before, strict⟩ := mem_below.mp deeper
    obtain ⟨_, nonempty, parent⟩ := mem_children.mp inside
    have positive := List.length_pos_iff.mpr nonempty
    have shorter := congrArg List.length parent
    rw [List.length_dropLast] at shorter
    refine strict (before.eq_of_length ?_).symm
    rw [lengths subdirectory]
    omega
  · intro node
    show node ∈ tree.below root ↔ node ∈ tree.children root ++ (tree.children root).directories.flatMap tree.below
    rw [List.mem_append, List.mem_flatMap, mem_below, mem_children]
    constructor
    · rintro ⟨member, ⟨rest, is⟩, strict⟩
      cases rest with
      | nil => exact absurd (is.symm.trans (List.append_nil root)) strict
      | cons first rest =>
        cases rest with
        | nil =>
          refine Or.inl ⟨member, by simp [← is], ?_⟩
          rw [← is, List.dropLast_concat]
        | cons second rest =>
          have before : root ++ [first] <+: node.1 := ⟨second :: rest, by rw [← is]; simp⟩
          have other : root ++ [first] ≠ node.1 := by
            rw [← is]
            simp
          have found := mem_of_look (by simp) (closed.above member before other)
          refine Or.inr ⟨root ++ [first], mem_directories.mpr (mem_children.mpr ⟨found, by simp, List.dropLast_concat⟩), ?_⟩
          exact mem_below.mpr ⟨member, before, other.symm⟩
    · rintro (⟨member, nonempty, parent⟩ | ⟨path, subdirectory', deeper⟩)
      · refine ⟨member, parent ▸ List.dropLast_prefix _, fun same => ?_⟩
        rw [same] at parent
        have positive := List.length_pos_iff.mpr (same ▸ nonempty)
        have shorter := congrArg List.length parent
        rw [List.length_dropLast] at shorter
        omega
      · obtain ⟨member, before, strict⟩ := mem_below.mp deeper
        obtain ⟨_, parent⟩ := subdirectory subdirectory'
        have above : root <+: path := parent ▸ List.dropLast_prefix _
        refine ⟨member, above.trans before, fun same => ?_⟩
        have longer := before.length_le
        rw [lengths subdirectory', same] at longer
        omega

/-- How many directories are on a stack or below it. -/
def weight (tree : Tree N α) (pending : List (Path N)) : Nat := pending.length + (directories (pending.flatMap tree.below)).length

/-- A stack of directories is visited completely. -/
theorem Closed.order_perm (closed : Closed tree) {fuel : Nat} {pending : List (Path N)} (enough : tree.weight pending ≤ fuel) :
    (tree.order fuel pending).Perm (pending.flatMap tree.below) := by
  induction fuel generalizing pending with
  | zero =>
    have none : pending = [] := List.length_eq_zero_iff.mp (by rw [weight] at enough; omega)
    rw [none]
    exact List.Perm.refl _
  | succ fuel ih =>
    cases pending with
    | nil => exact List.Perm.refl _
    | cons root pending =>
      have splits := closed.below_perm root
      have pushed : ((tree.children root).directories.reverse ++ pending).flatMap tree.below |>.Perm
          ((tree.children root).directories.flatMap tree.below ++ pending.flatMap tree.below) := by
        rw [List.flatMap_append]
        exact ((List.reverse_perm _).flatMap_right _).append_right _
      have lighter : tree.weight ((tree.children root).directories.reverse ++ pending) ≤ fuel := by
        have counted := (directories_perm splits).length_eq
        have after := (directories_perm pushed).length_eq
        rw [weight, List.flatMap_cons, directories_append, List.length_append, List.length_cons, counted, directories_append,
          List.length_append] at enough
        rw [weight, after, directories_append, List.length_append, List.length_append, List.length_reverse]
        omega
      rw [order, List.flatMap_cons]
      refine ((ih lighter).append_left _).trans ?_
      refine (pushed.append_left _).trans ?_
      rw [← List.append_assoc]
      exact splits.symm.append_right _

end

/-! ### Growing a tree -/

/-- Making the directories of a path that are not there, from a directory that is. -/
def make_directories (tree : Tree N α) (made : Path N) : Path N → Option (Tree N α)
  | [] => some tree
  | name :: rest => match tree.look (made ++ [name]) with
    | some .directory => tree.make_directories (made ++ [name]) rest
    | some (.file _) => none
    | none => make_directories (tree ++ [(made ++ [name], .directory)]) (made ++ [name]) rest

/-- Creating a file that is not there, with the directories above it. -/
def create (tree : Tree N α) (path : Path N) (content : α) : Option (Tree N α) := do
  let tree ← tree.make_directories [] path.dropLast
  match tree.look path with
  | none => some (tree ++ [(path, .file content)])
  | some _ => none

def fill (tree : Tree N α) (items : List (Path N × α)) : Option (Tree N α) := items.foldlM (fun tree item => tree.create item.1 item.2) tree

section
variable {tree : Tree N α}

theorem look_append {path : Path N} {node : Node α} (nonempty : path ≠ []) (absent : tree.look path = none) (other : Path N) :
    (tree ++ [(path, node)]).look other = if other = path then some node else tree.look other := by
  rw [look, if_neg nonempty] at absent
  by_cases root : other = []
  · rw [if_neg (by rw [root]; exact nonempty.symm), look, look, if_pos root, if_pos root]
  · rw [look, look, if_neg root, if_neg root, List.lookup_append]
    by_cases same : other = path
    · rw [if_pos same, same, absent]
      simp
    · rw [if_neg same]
      cases tree.lookup other <;> simp [List.lookup_cons, beq_eq_false_iff_ne.mpr same]

/-- A node that is added in a directory of a tree. -/
theorem Closed.add (closed : Closed tree) {path : Path N} {node : Node α} (nonempty : path ≠ []) (absent : tree.look path = none)
    (parent : tree.look path.dropLast = some .directory) : Closed (tree ++ [(path, node)]) where
  once := by
    rw [List.map_append, List.nodup_append']
    refine ⟨closed.once, List.nodup_singleton _, fun other inside same => ?_⟩
    obtain ⟨⟨_, there⟩, member, rfl⟩ := List.mem_map.mp inside
    have is : tree.look path = some there := by
      rw [← closed.look member]
      exact congrArg tree.look (List.mem_singleton.mp same).symm
    rw [is] at absent
    cases absent
  named := by
    intro other member
    rcases List.mem_append.mp member with inside | same
    · exact closed.named other inside
    · rw [List.mem_singleton.mp same]
      exact nonempty
  parents := by
    have kept : ∀ {above : Path N}, tree.look above = some .directory → (tree ++ [(path, node)]).look above = some .directory := by
      intro above found
      rw [look_append nonempty absent, if_neg, found]
      intro same
      rw [same, absent] at found
      cases found
    intro other member
    rcases List.mem_append.mp member with inside | same
    · exact kept (closed.parents other inside)
    · rw [List.mem_singleton.mp same]
      exact kept parent

theorem Closed.add_directory (closed : Closed tree) {made : Path N} {name : N} (start : tree.look made = some .directory)
    (absent : tree.look (made ++ [name]) = none) : Closed (tree ++ [(made ++ [name], .directory)]) ∧
      Tree.look (tree ++ [(made ++ [name], .directory)]) (made ++ [name]) = some .directory := by
  have nonempty : made ++ [name] ≠ [] := by simp
  have parent : tree.look (made ++ [name]).dropLast = some .directory := by
    rw [List.dropLast_concat]
    exact start
  refine ⟨closed.add nonempty absent parent, ?_⟩
  rw [look_append nonempty absent, if_pos rfl]

/-- What making the directories of a path does. -/
structure Made (tree : Tree N α) (made rest : Path N) (grown : Tree N α) : Prop where
  closed : Closed grown
  files : grown.files = tree.files
  directories : ∀ path, path ∈ grown.directories ↔ path ∈ tree.directories ∨ (made <+: path ∧ path ≠ made ∧ path <+: made ++ rest)
  whole : grown.look (made ++ rest) = some .directory

theorem make_directories_made (closed : Closed tree) {made rest : Path N} {grown : Tree N α} (start : tree.look made = some .directory)
    (makes : tree.make_directories made rest = some grown) : Made tree made rest grown := by
  induction rest generalizing tree made with
  | nil =>
    cases makes
    refine ⟨closed, rfl, fun path => ⟨Or.inl, ?_⟩, by rw [List.append_nil]; exact start⟩
    rintro (inside | ⟨before, strict, within⟩)
    · exact inside
    · rw [List.append_nil] at within
      exact absurd (within.eq_of_length_le before.length_le) strict
  | cons name rest ih =>
    have arrange : made ++ [name] ++ rest = made ++ name :: rest := by simp
    unfold make_directories at makes
    split at makes
    · rename_i there
      have later := ih closed there makes
      refine ⟨later.closed, later.files, fun path => ?_, arrange ▸ later.whole⟩
      rw [later.directories, on_the_way]
      constructor
      · rintro (inside | further)
        · exact Or.inl inside
        · exact Or.inr (Or.inr further)
      · rintro (inside | rfl | further)
        · exact Or.inl inside
        · exact Or.inl (mem_directories.mpr (mem_of_look (by simp) there))
        · exact Or.inr further
    · cases makes
    · rename_i absent
      obtain ⟨added, there⟩ := closed.add_directory start absent
      have later := ih added there makes
      refine ⟨later.closed, ?_, fun path => ?_, arrange ▸ later.whole⟩
      · rw [later.files, files_append]
        exact List.append_nil _
      · rw [later.directories, on_the_way, directories_append, List.mem_append]
        show (_ ∨ path ∈ [made ++ [name]]) ∨ _ ↔ _
        rw [List.mem_singleton, or_assoc]

theorem make_directories_isSome (closed : Closed tree) {made rest : Path N} (start : tree.look made = some .directory) :
    (tree.make_directories made rest).isSome = true ↔
      ∀ path content, made <+: path → path ≠ made → path <+: made ++ rest → (path, content) ∉ tree.files := by
  induction rest generalizing tree made with
  | nil =>
    refine ⟨fun _ path _ before strict within => ?_, fun _ => rfl⟩
    rw [List.append_nil] at within
    exact absurd (within.eq_of_length_le before.length_le) strict
  | cons name rest ih =>
    have first : ∀ {content : α}, (made ++ [name], content) ∈ tree.files → tree.look (made ++ [name]) = some (.file content) :=
      fun member => closed.look (mem_files.mp member)
    rw [free_way]
    unfold make_directories
    split
    · rename_i there
      rw [ih closed there]
      refine ⟨fun further => ⟨fun content member => ?_, further⟩, And.right⟩
      rw [first member] at there
      cases there
    · rename_i content there
      refine ⟨fun never => (Bool.false_ne_true never).elim, fun both => ?_⟩
      exact absurd (mem_files.mpr (mem_of_look (by simp) there)) (both.1 content)
    · rename_i absent
      obtain ⟨added, there⟩ := closed.add_directory start absent
      have same : (tree ++ [(made ++ [name], Node.directory)]).files = tree.files := by
        rw [files_append]
        exact List.append_nil _
      rw [ih added there, same]
      refine ⟨fun further => ⟨fun content member => ?_, further⟩, And.right⟩
      rw [first member] at absent
      cases absent

/-! ### Filling a tree -/

/-- A tree that holds some files and the directories above them. -/
structure Filled (items : List (Path N × α)) (tree : Tree N α) : Prop where
  closed : Closed tree
  files : tree.files = items
  directories : ∀ path, path ∈ tree.directories ↔ path ≠ [] ∧ ∃ item ∈ items, Above path item.1

theorem filled_nil : Filled ([] : List (Path N × α)) [] where
  closed := ⟨List.nodup_nil, fun _ member => (List.not_mem_nil member).elim, fun _ member => (List.not_mem_nil member).elim⟩
  files := rfl
  directories := fun _ => ⟨fun member => (List.not_mem_nil member).elim, fun both => (List.not_mem_nil both.2.choose_spec.1).elim⟩

theorem look_root : tree.look [] = some .directory := if_pos rfl

/-- Creating one more file. -/
theorem Filled.create {items : List (Path N × α)} (filled : Filled items tree) {path : Path N} {content : α} (nonempty : path ≠ [])
    (fresh : path ∉ items.map Prod.fst) :
    ((tree.create path content).isSome = true ↔ ∀ item ∈ items, ¬Above item.1 path ∧ ¬Above path item.1) ∧
      ∀ grown, tree.create path content = some grown → Filled (items ++ [(path, content)]) grown := by
  have makes : (tree.make_directories [] path.dropLast).isSome = true ↔ ∀ other there, [] <+: other → other ≠ [] →
      other <+: [] ++ path.dropLast → (other, there) ∉ tree.files := make_directories_isSome filled.closed look_root
  have in_files : ∀ {other : Path N} {there : α}, (other, there) ∈ tree.files ↔ (other, there) ∈ items := by rw [filled.files]
  -- a file is strictly above the path exactly when it is in the way of its directories
  have in_the_way : (∀ other there, [] <+: other → other ≠ [] → other <+: [] ++ path.dropLast → (other, there) ∉ tree.files) ↔
      ∀ item ∈ items, ¬Above item.1 path := by
    constructor
    · intro free item member above
      have there : item ∈ tree.files := by rw [filled.files]; exact member
      exact free item.1 item.2 (List.nil_prefix) (filled.closed.named _ (mem_files.mp there)) ((above_iff nonempty).mp above) there
    · intro free other there _ _ before member
      exact free _ (in_files.mp member) ((above_iff nonempty).mpr before)
  rw [in_the_way] at makes
  cases made : tree.make_directories [] path.dropLast with
  | none =>
    rw [made] at makes
    have blocked : tree.create path content = none := by
      rw [Tree.create, made]
      rfl
    rw [blocked]
    refine ⟨⟨fun never => (Bool.false_ne_true never).elim, fun free => ?_⟩, fun _ never => by cases never⟩
    exact (Bool.false_ne_true (makes.mpr fun item member => (free item member).1)).elim
  | some grown =>
    rw [made] at makes
    have free := makes.mp rfl
    have is := make_directories_made filled.closed look_root made
    have occupied : grown.look path = none ↔ ∀ item ∈ items, ¬Above path item.1 := by
      constructor
      · intro absent item member above
        have there : path ∈ grown.directories := (is.directories path).mpr (Or.inl ((filled.directories path).mpr ⟨nonempty, item, member, above⟩))
        rw [is.closed.look (mem_directories.mp there)] at absent
        cases absent
      · intro clear
        cases found : grown.look path with
        | none => rfl
        | some node =>
          have member := mem_of_look nonempty found
          cases node with
          | file there =>
            have inside := mem_files.mpr member
            rw [is.files, filled.files] at inside
            exact absurd (List.mem_map.mpr ⟨_, inside, rfl⟩) fresh
          | directory =>
            rcases (is.directories path).mp (mem_directories.mpr member) with old | ⟨_, _, within⟩
            · obtain ⟨_, item, member, above⟩ := (filled.directories path).mp old
              exact absurd above (clear item member)
            · exact absurd rfl ((above_iff nonempty).mpr within).2
    have creates : tree.create path content = match grown.look path with
        | none => some (grown ++ [(path, .file content)])
        | some _ => none := by
      rw [Tree.create, made]
      rfl
    rw [creates]
    cases found : grown.look path with
    | some node =>
      refine ⟨⟨fun never => (Bool.false_ne_true never).elim, fun free => ?_⟩, fun _ never => by cases never⟩
      rw [occupied.mpr fun item member => (free item member).2] at found
      cases found
    | none =>
      refine ⟨⟨fun _ item member => ⟨free item member, occupied.mp found item member⟩, fun _ => rfl⟩, fun _ same => ?_⟩
      cases same
      have parent : grown.look path.dropLast = some .directory := is.whole
      refine ⟨is.closed.add nonempty found parent, ?_, fun other => ?_⟩
      · rw [files_append, is.files, filled.files]
        rfl
      · rw [directories_append]
        show other ∈ grown.directories ++ [] ↔ _
        rw [List.append_nil, is.directories, filled.directories]
        constructor
        · rintro (⟨named, item, member, above⟩ | ⟨_, named, within⟩)
          · exact ⟨named, item, List.mem_append_left _ member, above⟩
          · exact ⟨named, _, List.mem_append_right _ (List.mem_singleton_self _), (above_iff nonempty).mpr within⟩
        · rintro ⟨named, item, member, above⟩
          rcases List.mem_append.mp member with old | new
          · exact Or.inl ⟨named, item, old, above⟩
          · rw [List.mem_singleton.mp new] at above
            exact Or.inr ⟨List.nil_prefix, named, (above_iff nonempty).mp above⟩

/-- Files fill a tree when none is above another one, and the tree then holds
    them and the directories above them. -/
theorem Filled.fill {before items : List (Path N × α)} (filled : Filled before tree) (named : ∀ item ∈ items, item.1 ≠ [])
    (once : ((before ++ items).map Prod.fst).Nodup) :
    ((tree.fill items).isSome = true ↔ (∀ item ∈ before, ∀ other ∈ items, ¬Above item.1 other.1 ∧ ¬Above other.1 item.1) ∧
        ∀ item ∈ items, ∀ other ∈ items, ¬Above item.1 other.1) ∧
      ∀ grown, tree.fill items = some grown → Filled (before ++ items) grown := by
  induction items generalizing before tree with
  | nil =>
    refine ⟨by simp [Tree.fill], fun grown same => ?_⟩
    cases same
    rw [List.append_nil]
    exact filled
  | cons item items ih =>
    have fresh : item.1 ∉ before.map Prod.fst := by
      rw [List.map_append, List.nodup_append'] at once
      exact fun member => once.2.2 member (List.mem_cons_self)
    have creates := @Filled.create _ _ _ _ _ filled item.1 item.2 (named item List.mem_cons_self) fresh
    have unfolds : tree.fill (item :: items) = (tree.create item.1 item.2).bind fun grown => grown.fill items := rfl
    have arrange : before ++ item :: items = before ++ [item] ++ items := by simp
    have self : ¬Above item.1 item.1 := fun above => above.2 rfl
    rw [unfolds]
    cases created : tree.create item.1 item.2 with
    | none =>
      rw [created] at creates
      refine ⟨⟨fun never => (Bool.false_ne_true never).elim, fun both => ?_⟩, fun _ never => by cases never⟩
      exact (Bool.false_ne_true (creates.1.mpr fun other member => both.1 other member item List.mem_cons_self)).elim
    | some grown =>
      rw [created] at creates
      rw [arrange] at once
      have later := ih (creates.2 grown rfl) (fun other member => named other (List.mem_cons_of_mem _ member)) once
      have free := creates.1.mp rfl
      refine ⟨later.1.trans ⟨?_, ?_⟩, arrange ▸ later.2⟩
      · rintro ⟨apart, rest⟩
        have first : ∀ other ∈ items, ¬Above item.1 other.1 ∧ ¬Above other.1 item.1 :=
          apart item (List.mem_append_right _ (List.mem_singleton_self _))
        refine ⟨fun old member other inside => ?_, fun one member other inside => ?_⟩
        · rcases List.mem_cons.mp inside with rfl | inside
          · exact free old member
          · exact apart old (List.mem_append_left _ member) other inside
        · rcases List.mem_cons.mp member with rfl | left
          · rcases List.mem_cons.mp inside with rfl | right
            · exact self
            · exact (first other right).1
          · rcases List.mem_cons.mp inside with rfl | right
            · exact (first one left).2
            · exact rest one left other right
      · rintro ⟨apart, rest⟩
        refine ⟨fun old member other inside => ?_, fun one member other inside =>
          rest one (List.mem_cons_of_mem _ member) other (List.mem_cons_of_mem _ inside)⟩
        rcases List.mem_append.mp member with member | new
        · exact apart old member other (List.mem_cons_of_mem _ inside)
        · rw [List.mem_singleton.mp new]
          exact ⟨rest item List.mem_cons_self other (List.mem_cons_of_mem _ inside),
            rest other (List.mem_cons_of_mem _ inside) item List.mem_cons_self⟩

end
end Tree
end RedDock.Trees
