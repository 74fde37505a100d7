import Mathlib

/-!
# Pages behind a cursor

A table is read from its highest key down, a page at a time, while rows are
added to it. A page looks one row further than it shows; where there is such a
row, the last key shown is the cursor that the next page begins behind.
-/
set_option autoImplicit false
namespace RedDock.Cursors
universe u v w
variable {Row : Type u} {Key : Type v} [LinearOrder Key] (key : Row → Key)

/-- The rows behind a cursor, from the highest key down. -/
def behind (cursor : Option Key) (rows : List Row) : List Row :=
  (rows.filter fun row => cursor.all fun before => decide (key row < before)).insertionSort fun one other => key other ≤ key one

/-- The cursor after a page of some of the rows found. -/
def following (limit : Nat) (found : List Row) : Option Key :=
  if limit < found.length then (found.take limit).getLast?.map key else none

/-- What a page shows of a table. -/
structure Shows (rows : List Row) (cursor : Option Key) (items : List Row) (next : Option Key) : Prop where
  inside : ∀ row ∈ items, row ∈ rows ∧ ∀ before ∈ cursor, key row < before
  falling : items.Pairwise fun one other => key other < key one
  rest : ∀ row ∈ rows, (∀ before ∈ cursor, key row < before) → row ∈ items ∨ ∃ before ∈ next, key row < before
  above : ∀ before ∈ next, items ≠ [] ∧ ∀ row ∈ items, before ≤ key row

variable {key} {rows : List Row} {cursor : Option Key}

theorem mem_behind {row : Row} : row ∈ behind key cursor rows ↔ row ∈ rows ∧ ∀ before ∈ cursor, key row < before := by
  rw [behind, List.mem_insertionSort, List.mem_filter, Option.all_eq_true]
  simp

theorem behind_falling (unique : (rows.map key).Nodup) : (behind key cursor rows).Pairwise fun one other => key other < key one := by
  have distinct : ((behind key cursor rows).map key).Nodup := by
    rw [behind, ((List.perm_insertionSort _ _).map key).nodup_iff]
    exact unique.sublist (List.filter_sublist.map key)
  have sorted : (behind key cursor rows).Pairwise fun one other => key other ≤ key one :=
    @List.pairwise_insertionSort _ (fun one other : Row => key other ≤ key one) _ ⟨fun one other => le_total _ _⟩ ⟨fun _ _ _ first second =>
      second.trans first⟩ _
  exact (sorted.and (List.pairwise_map.mp distinct)).imp fun both => lt_of_le_of_ne both.1 both.2.symm

/-- A page of at least one row shows what it should. -/
theorem page_shows (unique : (rows.map key).Nodup) {limit : Nat} (positive : 0 < limit) :
    Shows key rows cursor (((behind key cursor rows).take (limit + 1)).take limit)
      (following key limit ((behind key cursor rows).take (limit + 1))) := by
  have falling : (behind key cursor rows).Pairwise fun one other => key other < key one := behind_falling unique
  have short : ((behind key cursor rows).take (limit + 1)).take limit = (behind key cursor rows).take limit := by
    rw [List.take_take, Nat.min_eq_left (Nat.le_succ limit)]
  have more : limit < ((behind key cursor rows).take (limit + 1)).length ↔ limit < (behind key cursor rows).length := by
    rw [List.length_take]
    omega
  rw [following, short]
  refine ⟨fun row shown => mem_behind.mp (List.mem_of_mem_take shown), falling.sublist (List.take_sublist _ _), fun row listed further => ?_,
    fun before last => ?_⟩
  · have found : row ∈ behind key cursor rows := mem_behind.mpr ⟨listed, further⟩
    rw [← List.take_append_drop limit (behind key cursor rows)] at found falling
    rcases List.mem_append.mp found with shown | later
    · exact .inl shown
    -- a row after the page is there only when the page is full
    · have longer : limit < (behind key cursor rows).length := List.length_drop ▸ List.length_pos_of_mem later |> Nat.lt_of_sub_pos
      have some_shown : (behind key cursor rows).take limit ≠ [] := List.ne_nil_of_length_pos (by rw [List.length_take]; omega)
      rw [if_pos (more.mpr longer), List.getLast?_eq_some_getLast some_shown]
      exact .inr ⟨_, rfl, (List.pairwise_append.mp falling).2.2 _ (List.getLast_mem some_shown) row later⟩
  · split at last
    · obtain ⟨row, ends, rfl⟩ := Option.map_eq_some_iff.mp last
      have some_shown : (behind key cursor rows).take limit ≠ [] := fun nothing => by simp [nothing] at ends
      refine ⟨some_shown, fun other shown => ?_⟩
      rw [List.getLast?_eq_some_getLast some_shown, Option.some.injEq] at ends
      rw [← List.dropLast_append_getLast some_shown, ends] at shown
      rcases List.mem_append.mp shown with earlier | same
      · have ordered := falling.sublist (List.take_sublist limit _)
        rw [← List.dropLast_append_getLast some_shown, ends] at ordered
        exact ((List.pairwise_append.mp ordered).2.2 other earlier row (by simp)).le
      · exact (List.mem_singleton.mp same) ▸ le_rfl
    · cases last

/-- A page of other rows with the same keys. -/
theorem Shows.map {Other : Type w} {named : Other → Key} {f : Row → Other} (same : ∀ row, named (f row) = key row) {items : List Row}
    {next : Option Key} (shows : Shows key rows cursor items next) : Shows named (rows.map f) cursor (items.map f) next where
  inside := List.forall_mem_map.mpr fun row shown => ⟨List.mem_map_of_mem (shows.inside row shown).1, same row ▸ (shows.inside row shown).2⟩
  falling := List.pairwise_map.mpr (by simpa only [same] using shows.falling)
  rest := List.forall_mem_map.mpr fun row listed further => (shows.rest row listed (same row ▸ further)).imp (List.mem_map_of_mem)
    fun later => (same row).symm ▸ later
  above := fun before last => ⟨fun none_shown => (shows.above before last).1 (List.map_eq_nil_iff.mp none_shown),
    List.forall_mem_map.mpr fun row shown => (same row).symm ▸ (shows.above before last).2 row shown⟩

/-! ### From page to page -/

/-- What has been read, and where the next page begins. -/
structure Walk (Row : Type u) (Key : Type v) where
  items : List Row := []
  cursor : Option Key := none
  finished : Bool := false
  pages : Nat := 0

/-- One more page. -/
def Walk.turn (walk : Walk Row Key) (items : List Row) (next : Option Key) : Walk Row Key where
  items := walk.items ++ items
  cursor := next
  finished := next.isNone
  pages := walk.pages + 1

/-- What holds of a walk that began with one table and is now over another. -/
structure Walk.Inv (key : Row → Key) (table : List Row) (walk : Walk Row Key) (rows : List Row) : Prop where
  inside : ∀ row ∈ walk.items, row ∈ rows
  still : ∀ row ∈ table, row ∈ rows
  falling : walk.items.Pairwise fun one other => key other < key one
  above : ∀ before ∈ walk.cursor, ∀ row ∈ walk.items, before ≤ key row
  going : walk.items ≠ [] → walk.finished = false → walk.cursor ≠ none
  rest : ∀ row ∈ table, row ∈ walk.items ∨ walk.finished = false ∧ ∀ before ∈ walk.cursor, key row < before
  pages : walk.pages ≤ walk.items.length + walk.finished.toNat

theorem Walk.inv_start (rows : List Row) : Walk.Inv key rows {} rows := by
  constructor <;> simp

variable {walk : Walk Row Key} {table : List Row}

/-- Rows may be added between two pages. -/
theorem Walk.Inv.grow (inv : walk.Inv key table rows) (added : List Row) : walk.Inv key table (rows ++ added) where
  inside := fun row read => List.mem_append_left _ (inv.inside row read)
  still := fun row listed => List.mem_append_left _ (inv.still row listed)
  falling := inv.falling
  above := inv.above
  going := inv.going
  rest := inv.rest
  pages := inv.pages

section Turn
variable {items : List Row} {next : Option Key}

/-- What was read before a page lies above it. -/
theorem Walk.Inv.over (inv : walk.Inv key table rows) (unfinished : walk.finished = false) (shows : Shows key rows walk.cursor items next)
    {row other : Row} (read : row ∈ walk.items) (shown : other ∈ items) : key other < key row := by
  obtain ⟨before, at_cursor⟩ := Option.ne_none_iff_exists'.mp (inv.going (List.ne_nil_of_mem read) unfinished)
  exact ((shows.inside other shown).2 before at_cursor).trans_le (inv.above before at_cursor row read)

/-- No row that the walk began with is lost at a page. -/
theorem Walk.Inv.kept (inv : walk.Inv key table rows) (shows : Shows key rows walk.cursor items next) {row : Row} (listed : row ∈ table) :
    row ∈ walk.items ++ items ∨ ∃ before ∈ next, key row < before := by
  rcases inv.rest row listed with earlier | ⟨_, further⟩
  · exact .inl (List.mem_append_left _ earlier)
  · exact (shows.rest row (inv.still row listed) further).imp_left (List.mem_append_right _)

theorem Walk.Inv.turn (inv : walk.Inv key table rows) (unfinished : walk.finished = false)
    (shows : Shows key rows walk.cursor items next) : (walk.turn items next).Inv key table rows where
  inside := fun row read => (List.mem_append.mp read).elim (inv.inside row) fun shown => (shows.inside row shown).1
  still := inv.still
  falling := List.pairwise_append.mpr ⟨inv.falling, shows.falling, fun _ read _ shown => inv.over unfinished shows read shown⟩
  above := fun before last row read => by
    obtain ⟨some_shown, above⟩ := shows.above before last
    rcases List.mem_append.mp read with earlier | shown
    · obtain ⟨other, shown⟩ := List.exists_mem_of_ne_nil items some_shown
      exact (above other shown).trans (inv.over unfinished shows earlier shown).le
    · exact above row shown
  going := fun _ going nothing => by simp [Walk.turn, show next = none from nothing] at going
  rest := fun row listed => by
    refine (inv.kept shows listed).imp_right fun later => ?_
    obtain ⟨before, last, below⟩ := later
    exact ⟨by simp [Walk.turn, Option.mem_def.mp last], fun other same => Option.mem_unique last same ▸ below⟩
  pages := by
    have so_far := inv.pages
    simp only [unfinished, Bool.toNat_false, Nat.add_zero] at so_far
    simp only [Walk.turn, List.length_append]
    cases next with
    | none => simp only [Option.isNone_none, Bool.toNat_true]; omega
    | some before =>
      have some_shown := List.length_pos_of_ne_nil (shows.above before rfl).1
      simp only [Option.isNone_some, Bool.toNat_false]
      omega

end Turn

/-- A finished walk has read the table that it began with. -/
theorem Walk.Inv.complete (inv : walk.Inv key table rows) (finished : walk.finished = true) : ∀ row ∈ table, row ∈ walk.items :=
  fun row listed => (inv.rest row listed).resolve_right fun later => by simp [finished] at later

end RedDock.Cursors
