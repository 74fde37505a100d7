import Mathlib

/-!
# Noninterference

Operations on a shared state, each with an owner. What an owner's operations do
is visible to that owner alone, so the others see the same state without them.
-/
set_option autoImplicit false
namespace RedDock.Noninterference
universe u v w x
variable {State : Type u} {Op : Type v} {Owner : Type w} {View : Type x}
variable {apply : State → Op → State} {owner : Op → Owner} {inv : State → Prop} {meets : Op → Prop} {others : Owner → State → View}

/-- The conditions on one operation: it keeps the invariant, leaves what all
    others see, and shows them the same where they saw the same. -/
structure Unwinds (apply : State → Op → State) (owner : Op → Owner) (inv : State → Prop) (meets : Op → Prop)
    (others : Owner → State → View) : Prop where
  kept : ∀ s op, inv s → meets op → inv (apply s op)
  own : ∀ s op, inv s → meets op → others (owner op) (apply s op) = others (owner op) s
  same : ∀ s t op o, inv s → inv t → meets op → owner op ≠ o → others o s = others o t →
    others o (apply s op) = others o (apply t op)

theorem Unwinds.inv_foldl (unwinds : Unwinds apply owner inv meets others) {s : State} {ops : List Op} (first : inv s)
    (met : ∀ op ∈ ops, meets op) : inv (ops.foldl apply s) := by
  induction ops generalizing s with
  | nil => exact first
  | cons op ops ih =>
    exact ih (unwinds.kept s op first (met op (by simp))) fun later member => met later (List.mem_cons_of_mem _ member)

variable [DecidableEq Owner]

/-- The operations of everyone but one owner. -/
def without (owner : Op → Owner) (o : Owner) (ops : List Op) : List Op := ops.filter fun op => owner op ≠ o

/-- What all others see of a list of operations is what they see without the
    operations of one owner. -/
theorem Unwinds.purge (unwinds : Unwinds apply owner inv meets others) (o : Owner) {s t : State} {ops : List Op}
    (first : inv s) (second : inv t) (met : ∀ op ∈ ops, meets op) (same : others o s = others o t) :
    others o (ops.foldl apply s) = others o ((without owner o ops).foldl apply t) := by
  induction ops generalizing s t with
  | nil => exact same
  | cons op ops ih =>
    have here : meets op := met op (by simp)
    have rest : ∀ later ∈ ops, meets later := fun later member => met later (List.mem_cons_of_mem _ member)
    by_cases own : owner op = o
    · have dropped : without owner o (op :: ops) = without owner o ops := by simp [without, own]
      rw [dropped, List.foldl_cons]
      apply ih (unwinds.kept s op first here) second rest
      rw [← own, unwinds.own s op first here, own, same]
    · have kept : without owner o (op :: ops) = op :: without owner o ops := by simp [without, own]
      rw [kept, List.foldl_cons, List.foldl_cons]
      exact ih (unwinds.kept s op first here) (unwinds.kept t op second here) rest
        (unwinds.same s t op o first second here own same)

end RedDock.Noninterference
