import Mathlib

/-!
# Runs of a machine

A machine takes an action to the next state, when the action is possible. Runs
are lists of actions, and an invariant of the steps is an invariant of the runs.
-/
set_option autoImplicit false
namespace RedDock.Runs
universe u v
variable {State : Type u} {Action : Type v} {step : State → Action → Option State}

/-- The state a list of actions leads to, absent once an action is not possible. -/
def run (step : State → Action → Option State) : State → List Action → Option State
  | s, [] => some s
  | s, a :: actions => (step s a).bind fun s' => run step s' actions

theorem run_cons {s t : State} {a : Action} {actions : List Action} :
    run step s (a :: actions) = some t ↔ ∃ s', step s a = some s' ∧ run step s' actions = some t := by
  rw [run, Option.bind_eq_some_iff]

theorem run_append {s t : State} {first second : List Action} :
    run step s (first ++ second) = some t ↔ ∃ s', run step s first = some s' ∧ run step s' second = some t := by
  induction first generalizing s with
  | nil => simp [run]
  | cons a first ih =>
    rw [List.cons_append, run_cons]
    constructor
    · rintro ⟨s', stepped, ran⟩
      obtain ⟨s'', before, after⟩ := ih.mp ran
      exact ⟨s'', run_cons.mpr ⟨s', stepped, before⟩, after⟩
    · rintro ⟨s'', before, after⟩
      obtain ⟨s', stepped, before⟩ := run_cons.mp before
      exact ⟨s', stepped, ih.mpr ⟨s'', before, after⟩⟩

/-- What every possible step of a run meets, at the state it is taken in. -/
def Along (step : State → Action → Option State) (meets : State → Action → Prop) : State → List Action → Prop
  | _, [] => True
  | s, a :: actions => meets s a ∧ ∀ s', step s a = some s' → Along step meets s' actions

instance decidableAlong {meets : State → Action → Prop} [∀ s a, Decidable (meets s a)] :
    ∀ s actions, Decidable (Along step meets s actions)
  | _, [] => isTrue trivial
  | s, a :: actions =>
    have : ∀ s', Decidable (Along step meets s' actions) := fun s' => decidableAlong s' actions
    inferInstanceAs (Decidable (meets s a ∧ ∀ s' ∈ step s a, Along step meets s' actions))

/-- An invariant that every step meeting a condition keeps holds after every
    run that meets it. -/
theorem invariant_along (inv : State → Prop) {meets : State → Action → Prop}
    (kept : ∀ s a s', inv s → meets s a → step s a = some s' → inv s') {s t : State} {actions : List Action}
    (met : Along step meets s actions) (first : inv s) (ran : run step s actions = some t) : inv t := by
  induction actions generalizing s with
  | nil =>
    cases ran
    exact first
  | cons a actions ih =>
    obtain ⟨s', stepped, ran⟩ := run_cons.mp ran
    exact ih (met.2 s' stepped) (kept s a s' first met.1 stepped) ran

theorem along_append {meets : State → Action → Prop} {s t : State} {first second : List Action}
    (met : Along step meets s (first ++ second)) (ran : run step s first = some t) :
    Along step meets s first ∧ Along step meets t second := by
  induction first generalizing s with
  | nil =>
    cases ran
    exact ⟨trivial, met⟩
  | cons a first ih =>
    obtain ⟨s', stepped, ran⟩ := run_cons.mp ran
    refine ⟨⟨met.1, fun s'' other => ?_⟩, (ih (met.2 s' stepped) ran).2⟩
    rw [stepped, Option.some.injEq] at other
    exact other ▸ (ih (met.2 s' stepped) ran).1

theorem along_of_forall {meets : State → Action → Prop} {s : State} {actions : List Action}
    (all : ∀ a ∈ actions, ∀ s, meets s a) : Along step meets s actions := by
  induction actions generalizing s with
  | nil => trivial
  | cons a actions ih =>
    exact ⟨all a List.mem_cons_self s, fun _ _ => ih fun a member => all a (List.mem_cons_of_mem _ member)⟩

theorem along_true {s : State} {actions : List Action} : Along step (fun _ _ => True) s actions :=
  along_of_forall fun _ _ _ => trivial

/-- An invariant of the steps holds after every run. -/
theorem invariant_run (inv : State → Prop) (kept : ∀ s a s', inv s → step s a = some s' → inv s') {s t : State}
    {actions : List Action} (first : inv s) (ran : run step s actions = some t) : inv t :=
  invariant_along inv (fun s a s' held _ stepped => kept s a s' held stepped) along_true first ran

/-- What holds of every state that a machine reaches. -/
def Always (step : State → Action → Option State) (s : State) (P : State → Prop) : Prop :=
  ∀ actions t, run step s actions = some t → P t

theorem always_of_invariant {s : State} {P : State → Prop} (inv : State → Prop) (kept : ∀ s a s', inv s → step s a = some s' → inv s')
    (first : inv s) (holds : ∀ t, inv t → P t) : Always step s P :=
  fun _ t ran => holds t (invariant_run inv kept first ran)

end RedDock.Runs
