import RedDock.Runs

/-!
# Counted admission

Calls that count the rows of a table, and insert one more when these are few
enough. The rows that count and the calls that are about to insert one stay
within a bound together, as long as every call passes its count below it.
-/
set_option autoImplicit false
namespace RedDock.Admissions

section
variable {Row Call : Type} (counted : Row → Bool) (passed : Call → Bool)

/-- The rows that count, and the calls that passed the count and have not
    inserted their row. -/
def load (rows : List Row) (calls : List Call) : Nat := rows.countP counted + calls.countP passed

/-- What one step can do to the rows and the calls. -/
inductive Moves (bound : Nat) (rows : List Row) (calls : List Call) : List Row → List Call → Prop
  | hold {rows' : List Row} {calls' : List Call} : rows'.countP counted ≤ rows.countP counted →
      calls'.countP passed ≤ calls.countP passed → Moves bound rows calls rows' calls'
  | pass {number : Nat} {call call' : Call} : calls[number]? = some call → load counted passed rows calls < bound →
      Moves bound rows calls rows (calls.set number call')
  | insert {number : Nat} {call call' : Call} {row : Row} : calls[number]? = some call → passed call = true → passed call' = false →
      Moves bound rows calls (rows ++ [row]) (calls.set number call')

variable {counted passed} {bound : Nat} {rows : List Row} {calls : List Call}

variable (passed) in
/-- A call that moves counts as it did, but for itself. -/
theorem countP_set {number : Nat} {call : Call} (call' : Call) (here : calls[number]? = some call) :
    (calls.set number call').countP passed + (if passed call then 1 else 0) = calls.countP passed + (if passed call' then 1 else 0) := by
  obtain ⟨inside, rfl⟩ := List.getElem?_eq_some_iff.mp here
  rw [List.countP_set inside]
  have counts : (if passed calls[number] = true then 1 else 0) ≤ calls.countP passed := by
    split
    · next passes => exact List.countP_pos_iff.mpr ⟨_, List.getElem_mem inside, passes⟩
    · exact Nat.zero_le _
  omega

theorem countP_set_le {number : Nat} {call call' : Call} (here : calls[number]? = some call)
    (holds : passed call' = true → passed call = true) : (calls.set number call').countP passed ≤ calls.countP passed := by
  have counts := countP_set passed call' here
  by_cases after : passed call' = true
  · simp only [after, holds after, if_true] at counts
    omega
  · simp only [after, Bool.false_eq_true, if_false] at counts
    omega

/-- A change of rows that makes none of them count. -/
theorem countP_map_le {change : Row → Row} (holds : ∀ row, counted (change row) = true → counted row = true) :
    (rows.map change).countP counted ≤ rows.countP counted := by
  rw [List.countP_map]
  exact List.countP_mono_left fun row _ counts => holds row counts

theorem countP_insert_le {row : Row} : (rows ++ [row]).countP counted ≤ rows.countP counted + 1 := by
  rw [List.countP_append, List.countP_singleton]
  split <;> omega

theorem countP_arrive {call : Call} (outside : passed call = false) : (calls ++ [call]).countP passed = calls.countP passed := by
  rw [List.countP_append, List.countP_singleton, outside]
  rfl

/-- A step keeps the load within the bound. -/
theorem Moves.within {rows' : List Row} {calls' : List Call} (moves : Moves counted passed bound rows calls rows' calls')
    (within : load counted passed rows calls ≤ bound) : load counted passed rows' calls' ≤ bound := by
  unfold load at within ⊢
  cases moves with
  | hold fewer none => omega
  | @pass number call call' here below =>
    have counts := countP_set passed call' here
    unfold load at below
    split at counts <;> split at counts <;> omega
  | @insert number call call' row here before after =>
    have counts := countP_set passed call' here
    have one : (rows ++ [row]).countP counted ≤ rows.countP counted + 1 := countP_insert_le
    simp only [before, after, if_true, Bool.false_eq_true, if_false] at counts
    omega

/-- A call there is after one arrived. -/
theorem getElem?_arrive {number : Nat} {call arrived : Call} (found : (calls ++ [arrived])[number]? = some call) :
    calls[number]? = some call ∨ call = arrived := by
  by_cases inside : number < calls.length
  · rw [List.getElem?_append_left inside] at found
    exact Or.inl found
  · rw [List.getElem?_append_right (Nat.not_lt.mp inside)] at found
    exact Or.inr (List.mem_singleton.mp (List.mem_of_getElem? found))

/-- A call there is after one moved. -/
theorem getElem?_moved {number other : Nat} {call moved : Call} (found : (calls.set number moved)[other]? = some call) :
    (other = number ∧ call = moved) ∨ (other ≠ number ∧ calls[other]? = some call) := by
  by_cases same : other = number
  · subst same
    obtain ⟨inside, -⟩ := List.getElem?_eq_some_iff.mp found
    rw [List.length_set] at inside
    rw [List.getElem?_set_self inside, Option.some.injEq] at found
    exact Or.inl ⟨rfl, found.symm⟩
  · rw [List.getElem?_set_ne (Ne.symm same)] at found
    exact Or.inr ⟨same, found⟩

theorem counted_le_load : rows.countP counted ≤ load counted passed rows calls := Nat.le_add_right _ _

/-- Where no call passed, the load is the rows. -/
theorem load_alone (alone : ∀ call ∈ calls, passed call = false) : load counted passed rows calls = rows.countP counted := by
  have none : calls.countP passed = 0 := List.countP_eq_zero.mpr fun call member => by simp [alone call member]
  rw [load, none, Nat.add_zero]

end
end RedDock.Admissions
