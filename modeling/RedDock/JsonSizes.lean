import RedDock.JsonText
import RedDock.Members

/-!
# The sizes of JSON texts

How many bytes `json.dumps` writes when it keeps to ASCII.
-/
set_option autoImplicit false
namespace RedDock.JsonSizes
open Text JsonText
open Members (utf8_size utf8_size_append utf8_size_cons)
open Detection (Json)

/-! ### Literals -/

theorem utf8Size_ascii {c : Char} (ascii : c.toNat < 128) : c.utf8Size = 1 :=
  Char.utf8Size_eq_one_iff.mpr (UInt32.le_iff_toNat_le.mpr (Nat.le_of_lt_succ ascii))

theorem utf8_size_ascii {t : Text} (ascii : ∀ c ∈ t, c.toNat < 128) : utf8_size t = t.length := by
  induction t with
  | nil => rfl
  | cons c t ih =>
    obtain ⟨here, later⟩ := List.forall_mem_cons.mp ascii
    rw [utf8_size_cons, utf8Size_ascii here, ih later, List.length_cons]
    omega

theorem hex_ascii {n : Nat} {c : Char} (member : c ∈ hex n) : c.toNat < 128 := by
  obtain ⟨d, small, rfl⟩ := hex_digit member
  interval_cases d <;> decide

theorem unicode_escape_ascii {n : Nat} {c : Char} (member : c ∈ unicode_escape n) : c.toNat < 128 := by
  rcases List.mem_cons.mp member with rfl | member
  · decide
  rcases List.mem_cons.mp member with rfl | member
  · decide
  rcases List.mem_append.mp member with zero | digit
  · rw [List.eq_of_mem_replicate zero]
    decide
  · exact hex_ascii digit

theorem unicode_escape_length (n : Nat) : 6 ≤ (unicode_escape n).length := by
  simp only [unicode_escape, List.length_cons, List.length_append, List.length_replicate]
  omega

/-- What `escaped` makes of a character that it keeps to ASCII: no fewer bytes. -/
theorem escaped_ascii (c : Char) : (∀ d ∈ escaped true c, d.toNat < 128) ∧ c.utf8Size ≤ (escaped true c).length := by
  have two : ∀ {d : Char}, d.toNat < 128 → c.toNat < 128 → (∀ e ∈ ['\\', d], e.toNat < 128) ∧ c.utf8Size ≤ (['\\', d] : Text).length := by
    intro d small ascii
    refine ⟨fun e member => ?_, ?_⟩
    · rcases List.mem_cons.mp member with rfl | member
      · decide
      · rwa [List.mem_singleton.mp member]
    · rw [utf8Size_ascii ascii, List.length_cons]
      omega
  unfold escaped
  split
  next is => exact two (by omega) (by omega)
  next is => exact two (by omega) (by omega)
  next is => exact two (by decide) (by omega)
  next is => exact two (by decide) (by omega)
  next is => exact two (by decide) (by omega)
  next is => exact two (by decide) (by omega)
  next is => exact two (by decide) (by omega)
  next =>
    have four := Char.utf8Size_le_four c
    split
    · exact ⟨fun d => unicode_escape_ascii, four.trans ((by decide : 4 ≤ 6).trans (unicode_escape_length _))⟩
    next plain =>
      split
      · refine ⟨fun d member => (List.mem_append.mp member).elim unicode_escape_ascii unicode_escape_ascii, ?_⟩
        rw [List.length_append]
        have long := unicode_escape_length (0xD800 + (c.toNat - 0x10000) / 0x400)
        omega
      next near =>
        have ascii : c.toNat < 128 := by
          simp only [true_and, not_or, not_and] at plain near
          omega
        refine ⟨fun d member => (List.mem_singleton.mp member) ▸ ascii, ?_⟩
        rw [utf8Size_ascii ascii, List.length_singleton]

/-- A printable character that is neither a quote nor a backslash stands as it is. -/
theorem escaped_printable {c : Char} (printable : 32 ≤ c.toNat ∧ c.toNat ≤ 126) (plain : c.toNat ≠ 34 ∧ c.toNat ≠ 92) :
    escaped true c = [c] := by
  unfold escaped
  split
  next quote => exact absurd quote plain.1
  next backslash => exact absurd backslash plain.2
  all_goals try omega
  rw [if_neg (by omega), if_neg (by omega)]

theorem escapes_ascii (t : Text) : ∀ d ∈ t.flatMap (escaped true), d.toNat < 128 := by
  intro d member
  obtain ⟨c, _, inside⟩ := List.mem_flatMap.mp member
  exact (escaped_ascii c).1 d inside

theorem quoted_size (t : Text) : utf8_size (quoted true t) = (quoted true t).length := by
  refine utf8_size_ascii fun c member => ?_
  rcases List.mem_cons.mp member with rfl | member
  · decide
  rcases List.mem_append.mp member with inside | last
  · exact escapes_ascii t c inside
  · rw [List.mem_singleton.mp last]
    decide

/-- A literal is longer than its text in UTF-8. -/
theorem quoted_length (t : Text) : utf8_size t + 2 ≤ (quoted true t).length := by
  have inside : utf8_size t ≤ (t.flatMap (escaped true)).length := by
    induction t with
    | nil => exact Nat.le_refl 0
    | cons c t ih =>
      rw [utf8_size_cons, List.flatMap_cons, List.length_append]
      exact Nat.add_le_add (escaped_ascii c).2 ih
  rw [quoted, List.length_cons, List.length_append, List.length_singleton]
  omega

theorem dec_size (n : Nat) : utf8_size (dec n) = (dec n).length := by
  refine utf8_size_ascii fun c member => ?_
  have digit := isDigit_of_mem_dec member
  simp only [Char.isDigit, Bool.and_eq_true, decide_eq_true_eq, ge_iff_le, UInt32.le_iff_toNat_le] at digit
  exact Nat.lt_of_le_of_lt digit.2 (by decide)

/-! ### Lists and objects -/

theorem line_break_size (level : Nat) : utf8_size (line_break level) = 1 + 2 * level := by
  refine (utf8_size_ascii fun c member => ?_).trans (by simp [line_break, Nat.add_comm])
  rcases List.mem_cons.mp member with rfl | member
  · decide
  · rw [List.eq_of_mem_replicate member]
    decide

theorem join_size (sep : Text) {parts : List Text} (nonempty : parts ≠ []) :
    utf8_size (join sep parts) + utf8_size sep = (parts.map fun part => utf8_size part + utf8_size sep).sum := by
  induction parts with
  | nil => exact absurd rfl nonempty
  | cons part parts ih =>
    cases parts with
    | nil => simp [join, List.intercalate]
    | cons second parts =>
      rw [join_cons_cons, utf8_size_append, utf8_size_append, List.map_cons, List.sum_cons, ← ih (List.cons_ne_nil _ _)]
      omega

/-- The parts of a list or an object stand on lines of their own. -/
theorem enclosed_size {opening closing : Char} (opens : opening.utf8Size = 1) (closes : closing.utf8Size = 1) (level : Nat) {parts : List Text}
    (nonempty : parts ≠ []) :
    utf8_size (enclosed opening closing level parts) = 2 + 2 * level + (parts.map fun part => utf8_size part + (4 + 2 * level)).sum := by
  have sep : utf8_size (',' :: line_break (level + 1)) = 4 + 2 * level := by
    rw [utf8_size_cons, line_break_size, utf8Size_ascii (by decide)]
    omega
  have joined := join_size (',' :: line_break (level + 1)) nonempty
  rw [sep] at joined
  have last : utf8_size [closing] = 1 := by simp [utf8_size, closes]
  rw [enclosed, if_neg nonempty, utf8_size_cons, utf8_size_append, utf8_size_append, utf8_size_append, line_break_size, line_break_size, opens,
    last, ← joined]
  omega

theorem pair_size (key value : Text) : utf8_size (pair true (key, value)) = (quoted true key).length + 2 + utf8_size value := by
  have colon : utf8_size [':', ' '] = 2 := by decide
  rw [pair, utf8_size_append, utf8_size_append, quoted_size, colon]

theorem rendered_items_eq (ascii : Bool) (level : Nat) (items : List Json) : rendered_items ascii level items = items.map (rendered ascii level) := by
  induction items with
  | nil => rfl
  | cons item items ih => rw [rendered_items, ih, List.map_cons]

theorem rendered_members_eq (ascii : Bool) (level : Nat) (members : List (Text × Json)) :
    rendered_members ascii level members = members.map fun member => (member.1, rendered ascii level member.2) := by
  induction members with
  | nil => rfl
  | cons member members ih => rw [rendered_members, ih, List.map_cons]

theorem list_size (level : Nat) {items : List Json} (nonempty : items ≠ []) : utf8_size (rendered true level (.list items)) =
    2 + 2 * level + (items.map fun item => utf8_size (rendered true (level + 1) item) + (4 + 2 * level)).sum := by
  rw [rendered, rendered_items_eq, enclosed_size (by decide) (by decide) level (fun none => nonempty (List.map_eq_nil_iff.mp none)), List.map_map]
  rfl

/-- An object whose keys are in order. -/
theorem object_size (level : Nat) {members : List (Text × Json)} (nonempty : members ≠ []) (sorted : (members.map Prod.fst).Pairwise (· ≤ ·)) :
    utf8_size (rendered true level (.object members)) = 2 + 2 * level +
      (members.map fun member => (quoted true member.1).length + 2 + utf8_size (rendered true (level + 1) member.2) + (4 + 2 * level)).sum := by
  have in_order : ((members.map fun member => (member.1, rendered true (level + 1) member.2)).insertionSort by_key) =
      members.map fun member => (member.1, rendered true (level + 1) member.2) := by
    refine List.Pairwise.insertionSort_eq ?_
    rw [List.pairwise_map] at sorted ⊢
    exact sorted
  rw [rendered, rendered_members_eq, in_order, List.map_map,
    enclosed_size (by decide) (by decide) level (fun none => nonempty (List.map_eq_nil_iff.mp none)), List.map_map]
  simp only [Function.comp_def, pair_size]

end RedDock.JsonSizes
