import Mathlib

/-!
# Transactions that can fail at any call

A session sees the committed state and a working copy of its own. A transaction
is a chain of calls that read or write the working copy, and every call can
raise instead of taking effect. Nothing but a commit moves the committed state.
-/
set_option autoImplicit false
namespace RedDock.Transactions

/-- The committed state, the working copy and the number of calls made so far. -/
structure Session (σ : Type) where
  committed : σ
  working : σ
  calls : Nat := 0

/-- What a chain of calls returns or raises, and the session it leaves. -/
def Transaction (σ ε α : Type) := Session σ → Except ε α × Session σ

variable {σ ε α β γ : Type}

instance : Monad (Transaction σ ε) where
  pure a := fun s => (.ok a, s)
  bind x f := fun s =>
    match x s with
    | (.ok a, s') => f a s'
    | (.error e, s') => (.error e, s')

def raise (e : ε) : Transaction σ ε α := fun s => (.error e, s)

/-- A value that was computed outside the database, or its exception. -/
def lift : Except ε α → Transaction σ ε α
  | .ok a => pure a
  | .error e => raise e

/-- One call on the working copy; `fails` tells which calls raise. -/
def call (fails : Nat → Option ε) (f : σ → α × σ) : Transaction σ ε α := fun s =>
  match fails s.calls with
  | some e => (.error e, { s with calls := s.calls + 1 })
  | none => (.ok (f s.working).1, { s with working := (f s.working).2, calls := s.calls + 1 })

/-- A call that reads the working copy. -/
def read (fails : Nat → Option ε) (f : σ → α) : Transaction σ ε α := call fails fun s => (f s, s)

/-- A change of the working copy in memory. -/
def set (f : σ → σ) : Transaction σ ε Unit := fun s => (.ok (), { s with working := f s.working })

/-- A commit, which has no effect when it raises. -/
def commit (fails : Nat → Option ε) : Transaction σ ε Unit := fun s =>
  match fails s.calls with
  | some e => (.error e, { s with calls := s.calls + 1 })
  | none => (.ok (), { s with committed := s.working, calls := s.calls + 1 })

def rollback (fails : Nat → Option ε) : Transaction σ ε Unit := fun s =>
  match fails s.calls with
  | some e => (.error e, { s with calls := s.calls + 1 })
  | none => (.ok (), { s with working := s.committed, calls := s.calls + 1 })

theorem bind_eq (x : Transaction σ ε α) (f : α → Transaction σ ε β) (s : Session σ) :
    (x >>= f) s = match x s with
      | (.ok a, s') => f a s'
      | (.error e, s') => (.error e, s') := rfl

theorem bind_ok {x : Transaction σ ε α} {f : α → Transaction σ ε β} {s t : Session σ} {b : β} :
    (x >>= f) s = (.ok b, t) ↔ ∃ a s', x s = (.ok a, s') ∧ f a s' = (.ok b, t) := by
  rw [bind_eq]
  rcases ran : x s with ⟨_ | a, s'⟩ <;> simp

theorem bind_error {x : Transaction σ ε α} {f : α → Transaction σ ε β} {s t : Session σ} {e : ε} :
    (x >>= f) s = (.error e, t) ↔ x s = (.error e, t) ∨ ∃ a s', x s = (.ok a, s') ∧ f a s' = (.error e, t) := by
  rw [bind_eq]
  rcases ran : x s with ⟨_ | a, s'⟩ <;> simp

/-- `with session.begin()`: what the body leaves is committed, unless something raises. -/
def begun (fails : Nat → Option ε) (body : Transaction σ ε α) : Transaction σ ε α := fun s =>
  match (body >>= fun a => commit fails >>= fun _ => pure a) s with
  | (.ok a, t) => (.ok a, t)
  | (.error e, t) => (.error e, { t with working := t.committed })

/-- An exception caught and raised as another one. -/
def reraise (f : ε → ε) (body : Transaction σ ε α) : Transaction σ ε α := fun s =>
  match body s with
  | (.ok a, t) => (.ok a, t)
  | (.error e, t) => (.error (f e), t)

/-! ### What moves the committed state -/

/-- Whatever happens, nothing is committed. -/
def Uncommitted (x : Transaction σ ε α) : Prop := ∀ s, (x s).2.committed = s.committed

theorem Uncommitted.pure (a : α) : Uncommitted (pure a : Transaction σ ε α) := fun _ => rfl

theorem Uncommitted.raise (e : ε) : Uncommitted (raise e : Transaction σ ε α) := fun _ => rfl

theorem Uncommitted.ite {p : Prop} [Decidable p] {x y : Transaction σ ε α} (yes : Uncommitted x) (no : Uncommitted y) :
    Uncommitted (if p then x else y) := by
  split
  · exact yes
  · exact no

theorem Uncommitted.lift (x : Except ε α) : Uncommitted (lift x : Transaction σ ε α) := by
  intro s
  cases x <;> rfl

theorem Uncommitted.bind {x : Transaction σ ε α} {f : α → Transaction σ ε β} (first : Uncommitted x)
    (next : ∀ a, Uncommitted (f a)) : Uncommitted (x >>= f) := by
  intro s
  have here := first s
  rw [bind_eq]
  rcases ran : x s with ⟨_ | a, s'⟩
  · rw [ran] at here
    exact here
  · rw [ran] at here
    exact (next a s').trans here

theorem Uncommitted.call (fails : Nat → Option ε) (f : σ → α × σ) : Uncommitted (call fails f) := by
  intro s
  unfold Transactions.call
  split <;> rfl

theorem Uncommitted.read (fails : Nat → Option ε) (f : σ → α) : Uncommitted (read fails f) := .call fails _

theorem Uncommitted.set (f : σ → σ) : Uncommitted (set f : Transaction σ ε Unit) := fun _ => rfl

theorem Uncommitted.rollback (fails : Nat → Option ε) : Uncommitted (rollback fails : Transaction σ ε Unit) := by
  intro s
  unfold Transactions.rollback
  split <;> rfl

theorem Uncommitted.foldlM {f : β → α → Transaction σ ε β} (each : ∀ b a, Uncommitted (f b a)) (items : List α) (b : β) :
    Uncommitted (items.foldlM f b) := by
  induction items generalizing b with
  | nil => exact .pure b
  | cons item items ih => exact (each b item).bind fun b => ih b

theorem Uncommitted.mapM {f : α → Transaction σ ε β} (each : ∀ a, Uncommitted (f a)) (items : List α) :
    Uncommitted (items.mapM' f) := by
  induction items with
  | nil => exact .pure []
  | cons item items ih => exact (each item).bind fun _ => ih.bind fun _ => .pure _

/-- What raises has committed nothing. -/
def Atomic (x : Transaction σ ε α) : Prop := ∀ s e t, x s = (.error e, t) → t.committed = s.committed

theorem Uncommitted.atomic {x : Transaction σ ε α} (uncommitted : Uncommitted x) : Atomic x := by
  intro s e t ran
  have kept := uncommitted s
  rw [ran] at kept
  exact kept

theorem Atomic.raise (e : ε) : Atomic (raise e : Transaction σ ε α) := by
  rintro s e' t ran
  cases ran
  rfl

/-- A commit has no effect when it raises. -/
theorem Atomic.commit (fails : Nat → Option ε) : Atomic (commit fails : Transaction σ ε Unit) := by
  intro s e t ran
  unfold Transactions.commit at ran
  split at ran
  · cases ran
    rfl
  · simp at ran

/-- A transaction that commits last. -/
theorem Uncommitted.then {x : Transaction σ ε α} {f : α → Transaction σ ε β} (first : Uncommitted x)
    (next : ∀ a, Atomic (f a)) : Atomic (x >>= f) := by
  intro s e t ran
  rcases bind_error.mp ran with here | ⟨a, s', here, later⟩
  · exact first.atomic s e t here
  · have kept := first s
    rw [here] at kept
    exact (next a s' e t later).trans kept

theorem commit_ok {fails : Nat → Option ε} {s t : Session σ} (ran : commit fails s = (.ok (), t)) :
    t.committed = s.working := by
  unfold commit at ran
  split at ran
  · simp at ran
  · cases ran
    rfl

theorem rollback_ok {fails : Nat → Option ε} {s t : Session σ} (ran : rollback fails s = (.ok (), t)) :
    t.committed = s.committed ∧ t.working = s.committed := by
  unfold rollback at ran
  split at ran
  · simp at ran
  · cases ran
    exact ⟨rfl, rfl⟩

theorem call_ok {fails : Nat → Option ε} {f : σ → α × σ} {s t : Session σ} {a : α} (ran : call fails f s = (.ok a, t)) :
    a = (f s.working).1 ∧ t.working = (f s.working).2 ∧ t.committed = s.committed := by
  unfold call at ran
  split at ran
  · cases ran
  · cases ran
    exact ⟨rfl, rfl, rfl⟩

theorem read_ok {fails : Nat → Option ε} {f : σ → α} {s t : Session σ} {a : α} (ran : read fails f s = (.ok a, t)) :
    a = f s.working ∧ t.working = s.working ∧ t.committed = s.committed := call_ok ran

/-- A block that ends has committed what its body left. -/
theorem begun_ok {fails : Nat → Option ε} {body : Transaction σ ε α} {s t : Session σ} {a : α}
    (ran : begun fails body s = (.ok a, t)) : ∃ s', body s = (.ok a, s') ∧ t.committed = s'.working := by
  unfold begun at ran
  split at ran
  · rename_i value left whole
    cases ran
    obtain ⟨a', s', first, rest⟩ := bind_ok.mp whole
    obtain ⟨done, s'', committed, last⟩ := bind_ok.mp rest
    cases last
    exact ⟨s', first, commit_ok committed⟩
  · cases ran

/-- A block that raises has committed nothing. -/
theorem Uncommitted.begun {fails : Nat → Option ε} {body : Transaction σ ε α} (uncommitted : Uncommitted body) :
    Atomic (begun fails body) := by
  have whole : Atomic (body >>= fun a => commit fails >>= fun _ => Pure.pure a) := by
    refine uncommitted.then fun a s e t ran => ?_
    rcases bind_error.mp ran with failed | ⟨_, _, _, last⟩
    · exact Atomic.commit fails s e t failed
    · cases last
  intro s e t ran
  unfold Transactions.begun at ran
  split at ran
  · cases ran
  · rename_i error left failed
    cases ran
    have kept := whole s _ _ failed
    exact kept

theorem reraise_ok {f : ε → ε} {body : Transaction σ ε α} {s t : Session σ} {a : α} :
    reraise f body s = (.ok a, t) ↔ body s = (.ok a, t) := by
  unfold reraise
  split <;> simp [*]

theorem Atomic.reraise {f : ε → ε} {body : Transaction σ ε α} (atomic : Atomic body) : Atomic (reraise f body) := by
  intro s e t ran
  unfold Transactions.reraise at ran
  split at ran
  · cases ran
  · rename_i error left failed
    cases ran
    exact atomic s _ _ failed

/-! ### What the working copy becomes -/

/-- Where a transaction returns, its value and the working copy are those of a
    function. -/
def Computes (x : Transaction σ ε α) (f : σ → α × σ) : Prop := ∀ s a t, x s = (.ok a, t) → (a, t.working) = f s.working

theorem Computes.pure (a : α) : Computes (pure a : Transaction σ ε α) fun s => (a, s) := by
  rintro s b t ran
  cases ran
  rfl

theorem Computes.bind {x : Transaction σ ε α} {f : α → Transaction σ ε β} {g : σ → α × σ} {h : α → σ → β × σ}
    (first : Computes x g) (next : ∀ a, Computes (f a) (h a)) : Computes (x >>= f) fun s => h (g s).1 (g s).2 := by
  intro s b t ran
  obtain ⟨a, s', here, there⟩ := bind_ok.mp ran
  have before := first s a s' here
  show (b, t.working) = h (g s.working).1 (g s.working).2
  rw [← before]
  exact next a s' b t there

theorem Computes.call (fails : Nat → Option ε) (f : σ → α × σ) : Computes (call fails f) f := by
  intro s a t ran
  unfold Transactions.call at ran
  split at ran
  · simp at ran
  · cases ran
    rfl

theorem Computes.set (f : σ → σ) : Computes (set f : Transaction σ ε Unit) fun s => ((), f s) := by
  rintro s a t ran
  cases ran
  rfl

/-- The fold of a function that also changes a state. -/
def foldlState (f : β → α → σ → β × σ) : List α → β → σ → β × σ
  | [], b, s => (b, s)
  | item :: items, b, s => foldlState f items (f b item s).1 (f b item s).2

theorem Computes.foldlM {f : β → α → Transaction σ ε β} {g : β → α → σ → β × σ} (each : ∀ b a, Computes (f b a) (g b a))
    (items : List α) (b : β) : Computes (items.foldlM f b) (foldlState g items b) := by
  induction items generalizing b with
  | nil => exact .pure b
  | cons item items ih => exact (each b item).bind fun b => ih b

/-- Where a transaction returns, its value meets a condition and the working
    copy is as it was. -/
def Reads (x : Transaction σ ε α) (meets : α → Prop) : Prop := ∀ s a t, x s = (.ok a, t) → meets a ∧ t.working = s.working

theorem Reads.read (fails : Nat → Option ε) {f : σ → α} {meets : α → Prop} (all : ∀ s, meets (f s)) :
    Reads (read fails f) meets := by
  intro s a t ran
  have computed := Computes.call fails (fun s => (f s, s)) s a t ran
  rw [Prod.mk.injEq] at computed
  exact ⟨computed.1 ▸ all s.working, computed.2⟩

theorem Reads.mapM {f : α → Transaction σ ε β} {meets : β → Prop} (each : ∀ a, Reads (f a) meets) (items : List α) :
    Reads (items.mapM' f) fun values => ∀ b ∈ values, meets b := by
  induction items with
  | nil =>
    rintro s values t ran
    cases ran
    exact ⟨by simp, rfl⟩
  | cons item items ih =>
    intro s values t ran
    obtain ⟨b, s', here, ran⟩ := bind_ok.mp ran
    obtain ⟨rest, s'', later, ran⟩ := bind_ok.mp ran
    cases ran
    obtain ⟨first, same⟩ := each item s b s' here
    obtain ⟨others, kept⟩ := ih s' rest _ later
    exact ⟨List.forall_mem_cons.mpr ⟨first, others⟩, kept.trans same⟩

end RedDock.Transactions
