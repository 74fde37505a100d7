import RedDock.Fallible

/-!
# Checks over untrusted input

A computation that makes one check after another either refuses or returns, as
long as every check it reaches can read its operand.
-/
set_option autoImplicit false
namespace RedDock.Checks
open Fallible
variable {ε α β : Type} {refusal : ε → Prop}

/-- One check: whether its operand can be read, and whether it lets it pass. -/
structure Check where
  reads : Prop
  passes : Prop

/-- Every check that is reached can read its operand. -/
def Guarded : List Check → Prop
  | [] => True
  | check :: checks => check.reads ∧ (check.passes → Guarded checks)

/-- Every check reads and passes. -/
def Passed (checks : List Check) : Prop := ∀ check ∈ checks, check.reads ∧ check.passes

theorem passed_nil : Passed [] := by simp [Passed]

theorem passed_cons {check : Check} {checks : List Check} :
    Passed (check :: checks) ↔ (check.reads ∧ check.passes) ∧ Passed checks := by
  simp [Passed]

theorem passed_append {first second : List Check} : Passed (first ++ second) ↔ Passed first ∧ Passed second := by
  simp only [Passed, List.mem_append]
  constructor
  · intro all
    exact ⟨fun check member => all check (Or.inl member), fun check member => all check (Or.inr member)⟩
  · rintro ⟨left, right⟩ check (member | member)
    · exact left check member
    · exact right check member

theorem guarded_append {first second : List Check} :
    Guarded (first ++ second) ↔ Guarded first ∧ (Passed first → Guarded second) := by
  induction first with
  | nil => simp [Guarded, passed_nil]
  | cons check first ih =>
    rw [List.cons_append, Guarded, Guarded, ih, passed_cons]
    tauto

/-- Checks that let everything pass only have to read. -/
theorem guarded_reads {α : Type} {reads : α → Prop} {items : List α} :
    Guarded (items.map fun item => ⟨reads item, True⟩) ↔ ∀ item ∈ items, reads item := by
  induction items with
  | nil => simp [Guarded]
  | cons item items ih => simp [Guarded, ih]

/-- A computation that returns. -/
def Returns (x : Except ε α) : Prop := ∃ a, x = .ok a

/-- A computation that raises refusals only. -/
def Contained (refusal : ε → Prop) (x : Except ε α) : Prop := ∀ e, x = .error e → refusal e

@[simp] theorem returns_ok (a : α) : Returns (.ok a : Except ε α) := ⟨a, rfl⟩
@[simp] theorem not_returns_error (e : ε) : ¬Returns (.error e : Except ε α) := by simp [Returns]
@[simp] theorem contained_ok (a : α) : Contained refusal (.ok a : Except ε α) := by simp [Contained]
@[simp] theorem contained_error (e : ε) : Contained refusal (.error e : Except ε α) ↔ refusal e := by simp [Contained]
@[simp] theorem throw_eq_error (e : ε) : (throw e : Except ε α) = .error e := rfl

theorem returns_bind {x : Except ε α} {f : α → Except ε β} : Returns (x >>= f) ↔ ∃ a, x = .ok a ∧ Returns (f a) := by
  cases x <;> simp [Returns]

theorem contained_bind {x : Except ε α} {f : α → Except ε β} :
    Contained refusal (x >>= f) ↔ Contained refusal x ∧ ∀ a, x = .ok a → Contained refusal (f a) := by
  cases x <;> simp [Contained]

theorem contained_mapError {ε' : Type} {refusal : ε' → Prop} {f : ε → ε'} {x : Except ε α} :
    Contained refusal (x.mapError f) ↔ Contained (fun e => refusal (f e)) x := by
  cases x <;> simp [Contained, Except.mapError]

/-- A computation that makes the checks of a list: it refuses or returns as they
    do, and raises anything else where one of them cannot read. -/
structure Performs (refusal : ε → Prop) (x : Except ε α) (checks : List Check) : Prop where
  contained : Contained refusal x ↔ Guarded checks
  returns : Returns x ↔ Passed checks

theorem Performs.ok (a : α) : Performs refusal (.ok a : Except ε α) [] :=
  ⟨by simp [Contained, Guarded], by simp [Returns, passed_nil]⟩

/-- One check after another. -/
theorem Performs.bind {x : Except ε α} {f : α → Except ε β} {first second : List Check} (here : Performs refusal x first)
    (later : ∀ a, x = .ok a → Performs refusal (f a) second) : Performs refusal (x >>= f) (first ++ second) where
  contained := by
    rw [contained_bind, guarded_append, here.contained, ← here.returns]
    refine and_congr_right fun _ => ⟨?_, fun guarded a ran => ((later a ran).contained).mpr (guarded ⟨a, ran⟩)⟩
    rintro all ⟨a, ran⟩
    exact ((later a ran).contained).mp (all a ran)
  returns := by
    rw [returns_bind, passed_append, ← here.returns]
    constructor
    · rintro ⟨a, ran, returns⟩
      exact ⟨⟨a, ran⟩, (later a ran).returns.mp returns⟩
    · rintro ⟨⟨a, ran⟩, passed⟩
      exact ⟨a, ran, (later a ran).returns.mpr passed⟩

/-- What follows a computation that returns. -/
theorem Performs.map {x : Except ε α} {f : α → Except ε β} {checks : List Check} (here : Performs refusal x checks)
    (returns : ∀ a, x = .ok a → Returns (f a)) : Performs refusal (x >>= f) checks := by
  have later : ∀ a, x = .ok a → Performs refusal (f a) [] := by
    intro a ran
    obtain ⟨b, same⟩ := returns a ran
    rw [same]
    exact Performs.ok b
  simpa using here.bind later

/-- A computation by itself. -/
theorem Performs.single (x : Except ε α) : Performs refusal x [⟨Contained refusal x, Returns x⟩] where
  contained := by simp [Guarded]
  returns := by
    rw [passed_cons]
    refine ⟨fun returns => ⟨⟨?_, returns⟩, passed_nil⟩, fun passed => passed.1.2⟩
    obtain ⟨a, rfl⟩ := returns
    exact contained_ok a

/-- The checks of two lists that agree. -/
theorem Performs.congr {x : Except ε α} {first second : List Check} (here : Performs refusal x first)
    (guarded : Guarded first ↔ Guarded second) (passed : Passed first ↔ Passed second) : Performs refusal x second :=
  ⟨here.contained.trans guarded, here.returns.trans passed⟩

/-- One check that is put in other words. -/
theorem Performs.one {x : Except ε α} {reads passes : Prop} (contained : Contained refusal x ↔ reads)
    (returns : Returns x ↔ reads ∧ passes) : Performs refusal x [⟨reads, passes⟩] :=
  ⟨by simp [Guarded, contained], by simp [Passed, returns]⟩

/-- A test that refuses unless it passes, and what comes after it. -/
theorem Performs.test {x : Except ε Bool} {y : Except ε α} {e : ε} {checks : List Check} (refused : refusal e)
    (later : x = .ok true → Performs refusal y checks) :
    Performs refusal (do if ← x then y else .error e) (⟨Contained refusal x, x = .ok true⟩ :: checks) := by
  cases x with
  | error raised => exact ⟨by simp [Guarded], by simp [Passed]⟩
  | ok passed =>
    cases passed with
    | true =>
      have after := later rfl
      exact ⟨by simpa [Guarded] using after.contained, by simpa [passed_cons] using after.returns⟩
    | false => exact ⟨by simp [Guarded, refused], by simp [Passed]⟩

/-- A check that nothing can go wrong with, and that passes. -/
theorem Performs.passing {x : Except ε α} {passes : Prop} {checks : List Check} (holds : passes)
    (later : Performs refusal x checks) : Performs refusal x (⟨True, passes⟩ :: checks) :=
  ⟨by simp [Guarded, holds, later.contained], by simp [passed_cons, holds, later.returns]⟩

/-- A refusal by such a check. -/
theorem Performs.failing {e : ε} {passes : Prop} {checks : List Check} (refused : refusal e) (fails : ¬passes) :
    Performs refusal (.error e : Except ε α) (⟨True, passes⟩ :: checks) :=
  ⟨by simp [Guarded, fails, refused], by simp [passed_cons, fails]⟩

end RedDock.Checks
