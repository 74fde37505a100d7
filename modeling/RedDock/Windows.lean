import Mathlib

/-!
# Fixed windows

A counter that allows a limit of attempts until its window ends, and that the
next attempt opens again.
-/
set_option autoImplicit false
namespace RedDock.Windows

structure Window where
  count : Nat
  expiry : Nat
  deriving DecidableEq, Repr

/-- An attempt, or a chance to forget a window that has ended. -/
inductive Move
  | spend (now : Nat)
  | forget (now : Nat)

def Move.now : Move → Nat
  | .spend now => now
  | .forget now => now

section
variable (limit length : Nat)

/-- What a move leaves, and whether it was allowed as an attempt. -/
def apply (window : Option Window) (move : Move) : Option Window × Bool :=
  match window, move with
  | none, .spend now => (some ⟨1, now + length⟩, true)
  | none, .forget _ => (none, false)
  | some window, .spend now =>
    if window.expiry ≤ now then (some ⟨1, now + length⟩, true)
    else if window.count < limit then (some ⟨window.count + 1, window.expiry⟩, true)
    else (some window, false)
  | some window, .forget now => (if window.expiry ≤ now then none else some window, false)

/-- What moves leave, and how many attempts they were allowed. -/
def apply_all : Option Window → List Move → Option Window × Nat
  | window, [] => (window, 0)
  | window, move :: moves =>
    ((apply_all (apply limit length window move).1 moves).1,
      (apply limit length window move).2.toNat + (apply_all (apply limit length window move).1 moves).2)

/-- A window ends within its length from now. -/
def Bounded (now : Nat) (window : Option Window) : Prop := ∀ one ∈ window, one.expiry ≤ now + length

variable {limit length}

theorem apply_all_append {window : Option Window} {first second : List Move} :
    apply_all limit length window (first ++ second) =
      ((apply_all limit length (apply_all limit length window first).1 second).1,
        (apply_all limit length window first).2 + (apply_all limit length (apply_all limit length window first).1 second).2) := by
  induction first generalizing window with
  | nil => simp [apply_all]
  | cons move first ih =>
    rw [List.cons_append, apply_all, ih, apply_all, Nat.add_assoc]

theorem apply_all_single {window : Option Window} {move : Move} : apply_all limit length window [move] =
    ((apply limit length window move).1, (apply limit length window move).2.toNat) := rfl

variable (length) in
/-- A window that has not ended counts what it allows. -/
theorem apply_live {window : Window} {move : Move} (live : move.now < window.expiry) (within : window.count ≤ limit) :
    (apply limit length (some window) move).1 =
        some ⟨window.count + (apply limit length (some window) move).2.toNat, window.expiry⟩ ∧
      window.count + (apply limit length (some window) move).2.toNat ≤ limit := by
  cases move with
  | spend now =>
    have running : ¬window.expiry ≤ now := Nat.not_le.mpr live
    by_cases room : window.count < limit
    · simp only [apply, if_neg running, if_pos room, Bool.toNat_true, true_and]
      omega
    · simp only [apply, if_neg running, if_neg room, Bool.toNat_false, Nat.add_zero, true_and]
      exact within
  | forget now =>
    have running : ¬window.expiry ≤ now := Nat.not_le.mpr live
    simp only [apply, if_neg running, Bool.toNat_false, Nat.add_zero, true_and]
    exact within

variable (length) in
theorem apply_all_live {window : Window} {moves : List Move} (live : ∀ move ∈ moves, move.now < window.expiry)
    (within : window.count ≤ limit) :
    (apply_all limit length (some window) moves).1 =
        some ⟨window.count + (apply_all limit length (some window) moves).2, window.expiry⟩ ∧
      window.count + (apply_all limit length (some window) moves).2 ≤ limit := by
  induction moves generalizing window with
  | nil => exact ⟨rfl, within⟩
  | cons move moves ih =>
    obtain ⟨left, counted⟩ := apply_live length (live move List.mem_cons_self) within
    have rest := @ih ⟨window.count + (apply limit length (some window) move).2.toNat, window.expiry⟩
      (fun other member => live other (List.mem_cons_of_mem _ member)) counted
    rw [← left] at rest
    rw [apply_all, ← Nat.add_assoc]
    exact rest

/-- An attempt opens a window where there is none, or where one has ended. -/
theorem apply_opens {window : Option Window} {now : Nat} (ended : ∀ one ∈ window, one.expiry ≤ now) :
    apply limit length window (.spend now) = (some ⟨1, now + length⟩, true) := by
  cases window with
  | none => rfl
  | some one => exact if_pos (ended one rfl)

/-- An attempt that is denied leaves the window, which is running. -/
theorem apply_denied {window : Option Window} {now : Nat} (denied : (apply limit length window (.spend now)).2 = false) :
    (apply limit length window (.spend now)).1 = window ∧ ∃ one ∈ window, now < one.expiry := by
  cases window with
  | none => cases denied
  | some one =>
    by_cases ended : one.expiry ≤ now
    · rw [apply, if_pos ended] at denied
      cases denied
    · rw [apply, if_neg ended] at denied ⊢
      by_cases room : one.count < limit
      · rw [if_pos room] at denied
        cases denied
      · rw [if_neg room]
        exact ⟨rfl, one, rfl, Nat.not_le.mp ended⟩

theorem apply_bounded {now : Nat} {window : Option Window} {move : Move} (bounded : Bounded length now window) (later : now ≤ move.now) :
    Bounded length move.now (apply limit length window move).1 := by
  cases window with
  | none =>
    cases move with
    | spend now =>
      rintro _ ⟨⟩
      exact Nat.le_refl _
    | forget now => rintro _ ⟨⟩
  | some one =>
    have before : one.expiry ≤ now + length := bounded one rfl
    cases move with
    | spend now =>
      have later : _ ≤ now := later
      by_cases ended : one.expiry ≤ now
      · rw [apply, if_pos ended]
        rintro _ ⟨⟩
        exact Nat.le_refl _
      · rw [apply, if_neg ended]
        by_cases room : one.count < limit
        · rw [if_pos room]
          rintro _ ⟨⟩
          show one.expiry ≤ now + length
          omega
        · rw [if_neg room]
          rintro _ ⟨⟩
          show one.expiry ≤ now + length
          omega
    | forget now =>
      have later : _ ≤ now := later
      by_cases ended : one.expiry ≤ now
      · rw [apply, if_pos ended]
        rintro _ ⟨⟩
      · rw [apply, if_neg ended]
        rintro _ ⟨⟩
        show one.expiry ≤ now + length
        omega

variable (limit) in
theorem apply_all_bounded {before now : Nat} {window : Option Window} {moves : List Move} (bounded : Bounded length before window)
    (later : before ≤ now) (at_now : ∀ move ∈ moves, move.now = now) :
    Bounded length now (apply_all limit length window moves).1 := by
  induction moves generalizing window before with
  | nil => exact fun one member => (bounded one member).trans (Nat.add_le_add_right later _)
  | cons move moves ih =>
    have here := at_now move List.mem_cons_self
    refine ih (apply_bounded bounded (here ▸ later)) (Nat.le_of_eq here) fun other member => ?_
    exact at_now other (List.mem_cons_of_mem _ member)

end
end RedDock.Windows
