import Mathlib

/-!
# Rows with a key

A table is a list of rows no two of which have one key. An update of the row
with a given key, and what it leaves of the rows that meet a condition.
-/
set_option autoImplicit false
namespace RedDock.KeyedRows
universe u v
variable {Row : Type u} {Key : Type v} [DecidableEq Key] {key : Row → Key}

/-- The table with the row of one key changed. -/
def update (key : Row → Key) (k : Key) (f : Row → Row) (rows : List Row) : List Row :=
  rows.map fun row => if key row = k then f row else row

omit [DecidableEq Key] in
theorem eq_of_key {rows : List Row} (unique : (rows.map key).Nodup) {a b : Row} (first : a ∈ rows) (second : b ∈ rows)
    (same : key a = key b) : a = b := List.inj_on_of_nodup_map unique first second same

theorem filter_key {rows : List Row} (unique : (rows.map key).Nodup) {row : Row} (listed : row ∈ rows) :
    rows.filter (fun other => decide (key other = key row)) = [row] := by
  induction rows with
  | nil => cases listed
  | cons first rest ih =>
    obtain ⟨fresh, unique⟩ := List.nodup_cons.mp unique
    rcases List.mem_cons.mp listed with rfl | later
    · have absent : rest.filter (fun other => decide (key other = key row)) = [] := by
        rw [List.filter_eq_nil_iff]
        intro other inRest same
        exact fresh (List.mem_map.mpr ⟨other, inRest, by simpa using same⟩)
      rw [List.filter_cons_of_pos (by simp), absent]
    · have differs : key first ≠ key row := fun same => fresh (List.mem_map.mpr ⟨row, later, same.symm⟩)
      rw [List.filter_cons_of_neg (by simpa using differs), ih unique later]

/-- The row that is found by its key. -/
theorem find_key {rows : List Row} (unique : (rows.map key).Nodup) {row : Row} (listed : row ∈ rows) :
    rows.find? (fun other => decide (key other = key row)) = some row := by
  rw [← List.head?_filter, filter_key unique listed]
  rfl

/-- Two tables that hold the same rows of a key find the same row. -/
theorem find_agree {rows others : List Row} (unique : (rows.map key).Nodup) (unique' : (others.map key).Nodup) {k : Key}
    (same : ∀ row, key row = k → (row ∈ rows ↔ row ∈ others)) :
    rows.find? (fun row => decide (key row = k)) = others.find? fun row => decide (key row = k) := by
  cases found : rows.find? fun row => decide (key row = k) with
  | some row =>
    have named : key row = k := by simpa using List.find?_some found
    have listed := (same row named).mp (List.mem_of_find?_eq_some found)
    rw [← named, find_key unique' listed]
  | none =>
    refine (List.find?_eq_none.mpr fun row listed named => ?_).symm
    have named : key row = k := of_decide_eq_true named
    exact List.find?_eq_none.mp found row ((same row named).mpr listed) (decide_eq_true named)

section Update
variable {rows : List Row} {k : Key} {f : Row → Row} (keeps : ∀ row, key (f row) = key row)
include keeps

theorem key_change (row : Row) : key (if key row = k then f row else row) = key row := by
  split
  · exact keeps row
  · rfl

theorem update_keys : (update key k f rows).map key = rows.map key := by
  rw [update, List.map_map]
  exact List.map_congr_left fun row _ => key_change keeps row

theorem find_update (k' : Key) : ((update key k f rows).find? fun row => decide (key row = k')).isSome =
    (rows.find? fun row => decide (key row = k')).isSome := by
  rw [update, List.find?_map, Option.isSome_map]
  have same : ((fun row => decide (key row = k')) ∘ fun row => if key row = k then f row else row) =
      fun row => decide (key row = k') := funext fun row => by simp only [Function.comp_apply, key_change keeps]
  rw [same]

/-- A row of the updated table is the change of a row of the table. -/
theorem mem_update {row' : Row} (listed : row' ∈ update key k f rows) : ∃ row ∈ rows, key row' = key row ∧
    row' = if key row = k then f row else row := by
  obtain ⟨row, inRows, rfl⟩ := List.mem_map.mp listed
  exact ⟨row, inRows, key_change keeps row, rfl⟩

end Update

/-- A condition that tells neither the old nor the new version of a row misses the update. -/
theorem filter_update {rows : List Row} {k : Key} {f : Row → Row} {p : Row → Bool}
    (blind : ∀ row ∈ rows, key row = k → p row = false ∧ p (f row) = false) :
    (update key k f rows).filter p = rows.filter p := by
  induction rows with
  | nil => rfl
  | cons first rest ih =>
    have later := ih fun row inRest => blind row (List.mem_cons_of_mem _ inRest)
    rw [update, List.map_cons]
    rw [update] at later
    by_cases here : key first = k
    · obtain ⟨before, after⟩ := blind first List.mem_cons_self here
      rw [if_pos here, List.filter_cons_of_neg (by simp [after]), List.filter_cons_of_neg (by simp [before]), later]
    · rw [if_neg here, List.filter_cons, List.filter_cons, later]

theorem countP_update {rows : List Row} {k : Key} {f : Row → Row} {p : Row → Bool} (same : ∀ row, p (f row) = p row) :
    (update key k f rows).countP p = rows.countP p := by
  rw [update, List.countP_map]
  refine List.countP_congr fun row _ => ?_
  simp only [Function.comp_apply]
  split
  · rw [same]
  · rfl

end RedDock.KeyedRows
