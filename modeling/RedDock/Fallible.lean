import Mathlib

/-!
# Computations that may fail

How `Option` and `Except` computations come apart: a bind that succeeds, and a
list mapped by a function that may fail.
-/
set_option autoImplicit false
namespace RedDock.Fallible

@[simp] theorem ok_bind {ε α β : Type} (a : α) (f : α → Except ε β) : (Except.ok a >>= f) = f a := rfl
@[simp] theorem error_bind {ε α β : Type} (e : ε) (f : α → Except ε β) : (Except.error e >>= f) = .error e := rfl
@[simp] theorem pure_eq_ok {ε α : Type} (a : α) : (pure a : Except ε α) = .ok a := rfl

theorem bind_eq_ok {ε α β : Type} {x : Except ε α} {f : α → Except ε β} {b : β} :
    (x >>= f) = .ok b ↔ ∃ a, x = .ok a ∧ f a = .ok b := by
  cases x <;> simp

theorem bind_eq_error {ε α β : Type} {x : Except ε α} {f : α → Except ε β} {e : ε} :
    (x >>= f) = .error e ↔ x = .error e ∨ ∃ a, x = .ok a ∧ f a = .error e := by
  cases x <;> simp

theorem map_eq_ok {ε α β : Type} {x : Except ε α} {f : α → β} {b : β} :
    x.map f = .ok b ↔ ∃ a, x = .ok a ∧ f a = b := by
  cases x <;> simp [Except.map]

theorem mapM_some {α β : Type} {f : α → Option β} {xs : List α} {ys : List β} :
    xs.mapM f = some ys ↔ List.Forall₂ (fun x y => f x = some y) xs ys := by
  induction xs generalizing ys with
  | nil => simp [eq_comm]
  | cons x xs ih =>
    rw [List.mapM_cons, List.forall₂_cons_left_iff]
    cases first : f x with
    | none => simp
    | some y =>
      simp only [← ih]
      cases rest : xs.mapM f <;> simp [eq_comm]

theorem mapM_ok {ε α β : Type} {f : α → Except ε β} {xs : List α} {ys : List β} :
    xs.mapM f = .ok ys ↔ List.Forall₂ (fun x y => f x = .ok y) xs ys := by
  induction xs generalizing ys with
  | nil => simp [eq_comm, pure, Except.pure]
  | cons x xs ih =>
    rw [List.mapM_cons, List.forall₂_cons_left_iff]
    cases first : f x with
    | error e => simp [bind, Except.bind]
    | ok y =>
      simp only [← ih]
      cases rest : xs.mapM f <;> simp [eq_comm, bind, Except.bind, pure, Except.pure]

/-- A fold raises where one of its steps does. -/
theorem foldlM_error {ε α β : Type} {f : β → α → Except ε β} {xs : List α} {b : β} {e : ε} :
    xs.foldlM f b = .error e ↔
      ∃ before x after b', xs = before ++ x :: after ∧ before.foldlM f b = .ok b' ∧ f b' x = .error e := by
  induction xs generalizing b with
  | nil => simp
  | cons first rest ih =>
    rw [List.foldlM_cons, bind_eq_error]
    constructor
    · rintro (here | ⟨b', stepped, later⟩)
      · exact ⟨[], first, rest, b, rfl, rfl, here⟩
      · obtain ⟨before, x, after, b'', rfl, ran, raised⟩ := ih.mp later
        exact ⟨first :: before, x, after, b'', rfl, bind_eq_ok.mpr ⟨b', stepped, ran⟩, raised⟩
    · rintro ⟨before, x, after, b'', split, ran, raised⟩
      cases before with
      | nil =>
        obtain ⟨rfl, rfl⟩ := List.cons.inj split
        cases ran
        exact Or.inl raised
      | cons second before =>
        obtain ⟨rfl, rfl⟩ := List.cons.inj split
        obtain ⟨b', stepped, ran⟩ := bind_eq_ok.mp ran
        exact Or.inr ⟨b', stepped, ih.mpr ⟨before, x, after, b'', rfl, ran, raised⟩⟩

theorem foldlM_flatMap {ε α β γ : Type} {f : β → γ → Except ε β} {g : α → List γ} {xs : List α} {b : β} :
    (xs.flatMap g).foldlM f b = xs.foldlM (fun b x => (g x).foldlM f b) b := by
  induction xs generalizing b with
  | nil => rfl
  | cons first rest ih =>
    rw [List.flatMap_cons, List.foldlM_append, List.foldlM_cons]
    exact bind_congr fun b' => ih

theorem forall₂_trans {α β γ : Type} {R : α → β → Prop} {S : β → γ → Prop} {T : α → γ → Prop}
    (compose : ∀ a b c, R a b → S b c → T a c) {xs : List α} {ys : List β} {zs : List γ}
    (first : List.Forall₂ R xs ys) (second : List.Forall₂ S ys zs) : List.Forall₂ T xs zs := by
  induction first generalizing zs with
  | nil =>
    cases second
    exact .nil
  | cons here _ ih =>
    cases second with
    | cons there later => exact .cons (compose _ _ _ here there) (ih later)

theorem forall₂_map_eq {α β γ : Type} {R : α → β → Prop} {f : α → γ} {g : β → γ} (agree : ∀ x y, R x y → g y = f x)
    {xs : List α} {ys : List β} (related : List.Forall₂ R xs ys) : ys.map g = xs.map f := by
  induction related with
  | nil => rfl
  | cons here _ ih => rw [List.map_cons, List.map_cons, agree _ _ here, ih]

theorem forall₂_right {α β : Type} {R : α → β → Prop} {xs : List α} {ys : List β} (related : List.Forall₂ R xs ys)
    {y : β} (member : y ∈ ys) : ∃ x ∈ xs, R x y := by
  induction related with
  | nil => simp at member
  | cons here _ ih =>
    rcases List.mem_cons.mp member with rfl | later
    · exact ⟨_, by simp, here⟩
    · obtain ⟨x, inXs, holds⟩ := ih later
      exact ⟨x, List.mem_cons_of_mem _ inXs, holds⟩

theorem forall₂_left {α β : Type} {R : α → β → Prop} {xs : List α} {ys : List β} (related : List.Forall₂ R xs ys)
    {x : α} (member : x ∈ xs) : ∃ y ∈ ys, R x y := by
  obtain ⟨y, inYs, holds⟩ := forall₂_right related.flip member
  exact ⟨y, inYs, holds⟩

theorem forall₂_filter {α β : Type} {R : α → β → Prop} {p : α → Bool} {q : β → Bool} (agree : ∀ x y, R x y → p x = q y)
    {xs : List α} {ys : List β} (related : List.Forall₂ R xs ys) : List.Forall₂ R (xs.filter p) (ys.filter q) := by
  induction related with
  | nil => exact .nil
  | cons here _ ih =>
    rw [List.filter_cons, List.filter_cons, agree _ _ here]
    split
    · exact .cons here ih
    · exact ih

theorem forall₂_exists {α β : Type} {R : α → β → Prop} {xs : List α} (all : ∀ x ∈ xs, ∃ y, R x y) :
    ∃ ys, List.Forall₂ R xs ys := by
  induction xs with
  | nil => exact ⟨[], .nil⟩
  | cons x xs ih =>
    obtain ⟨y, here⟩ := all x (by simp)
    obtain ⟨ys, later⟩ := ih fun other member => all other (List.mem_cons_of_mem _ member)
    exact ⟨y :: ys, .cons here later⟩

/-- The last of two related lists are related. -/
theorem forall₂_last {α β : Type} {R : α → β → Prop} {xs : List α} {ys : List β} (related : List.Forall₂ R xs ys) {x : α}
    (last : xs.getLast? = some x) : ∃ y, ys.getLast? = some y ∧ R x y := by
  induction related with
  | nil => cases last
  | @cons a b as bs here rest ih =>
    cases rest with
    | nil =>
      cases last
      exact ⟨b, rfl, here⟩
    | cons next rest =>
      rw [List.getLast?_cons_cons] at last ⊢
      exact ih last

theorem filterMap_last {α β : Type} {f : α → Option β} {xs : List α} (all : ∀ x ∈ xs, (f x).isSome = true) :
    (xs.filterMap f).getLast? = xs.getLast?.bind f := by
  rcases List.eq_nil_or_concat xs with rfl | ⟨xs, x, rfl⟩
  · rfl
  · obtain ⟨y, here⟩ := Option.isSome_iff_exists.mp (all x (by simp))
    simp [List.filterMap_append, here]

/-- A test that returned, and returned true. -/
def passes {ε α : Type} (f : α → Except ε Bool) (x : α) : Bool :=
  match f x with
  | .ok b => b
  | .error _ => false

theorem passes_of_ok {ε α : Type} {f : α → Except ε Bool} {x : α} {b : Bool} (ran : f x = .ok b) : passes f x = b := by
  simp [passes, ran]

theorem filterAuxM_ok {ε α : Type} {f : α → Except ε Bool} {xs acc ys : List α} :
    xs.filterAuxM f acc = .ok ys ↔
      (∀ x ∈ xs, ∃ b, f x = .ok b) ∧ ys = (xs.filter (passes f)).reverse ++ acc := by
  induction xs generalizing acc with
  | nil => simp [eq_comm]
  | cons x xs ih =>
    rw [List.filterAuxM]
    cases ran : f x with
    | error e => simp [ran]
    | ok b =>
      rw [ok_bind, ih]
      have kept : passes f x = b := passes_of_ok ran
      cases b <;> simp [ran, kept]

/-- A filter by a test that may fail: every test returned. -/
theorem filterM_ok {ε α : Type} {f : α → Except ε Bool} {xs ys : List α} :
    xs.filterM f = .ok ys ↔ (∀ x ∈ xs, ∃ b, f x = .ok b) ∧ ys = xs.filter (passes f) := by
  unfold List.filterM
  rw [bind_eq_ok]
  constructor
  · rintro ⟨as, ran, same⟩
    obtain ⟨all, rfl⟩ := filterAuxM_ok.mp ran
    cases same
    exact ⟨all, by simp⟩
  · rintro ⟨all, rfl⟩
    exact ⟨_, filterAuxM_ok.mpr ⟨all, rfl⟩, by simp⟩

/-- What a computation ensures of the result that it returns. -/
def Ensures {ε α : Type} (x : Except ε α) (P : α → Prop) : Prop := ∀ a, x = .ok a → P a

/-- A condition that each step of a fold adds to holds at its end exactly when
    it did at the start and all of the steps add to it. -/
theorem foldlM_forall {ε α β : Type} {f : β → α → Except ε β} {inv P : β → Prop} {Q : α → Prop}
    (each : ∀ b a b', inv b → f b a = .ok b' → inv b' ∧ (P b' ↔ P b ∧ Q a)) {items : List α} {b b' : β} (first : inv b)
    (ran : items.foldlM f b = .ok b') : inv b' ∧ (P b' ↔ P b ∧ ∀ a ∈ items, Q a) := by
  induction items generalizing b with
  | nil =>
    cases ran
    exact ⟨first, (and_iff_left fun _ none => by cases none).symm⟩
  | cons item items ih =>
    obtain ⟨next, here, ran⟩ := bind_eq_ok.mp ran
    obtain ⟨kept, adds⟩ := each b item next first here
    obtain ⟨last, total⟩ := ih kept ran
    exact ⟨last, by rw [total, adds, List.forall_mem_cons, and_assoc]⟩

/-- What every step of a fold that returns keeps holds of its result. -/
theorem foldlM_invariant {ε α β : Type} {f : β → α → Except ε β} (inv : β → Prop)
    (each : ∀ b a b', inv b → f b a = .ok b' → inv b') {items : List α} {b b' : β} (first : inv b)
    (ran : items.foldlM f b = .ok b') : inv b' := by
  induction items generalizing b with
  | nil =>
    cases ran
    exact first
  | cons item items ih =>
    obtain ⟨next, here, ran⟩ := bind_eq_ok.mp ran
    exact ih (each b item next first here) ran

end RedDock.Fallible
