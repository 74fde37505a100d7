import Mathlib

/-!
# Programs that may be stopped

A program of durable operations, the states it may be stopped in, and rules for
what holds wherever it is stopped and where it ends.
-/
set_option autoImplicit false
namespace RedDock.Durable

/-- Operations on a durable state. An operation has an effect, and may be
    stopped in a state where it is torn. -/
inductive Program (ε σ : Type)
  | done
  | raises (error : ε)
  | operation (effect : σ → σ) (torn : σ → σ → Prop) (next : Program ε σ)
  | look (next : σ → Program ε σ)

namespace Program

variable {ε σ : Type}

def seq : Program ε σ → Program ε σ → Program ε σ
  | done, q => q
  | raises error, _ => raises error
  | operation effect torn next, q => operation effect torn (next.seq q)
  | look next, q => look fun s => (next s).seq q

instance : Append (Program ε σ) := ⟨seq⟩

def when (condition : σ → Bool) (p : Program ε σ) : Program ε σ := look fun s => if condition s then p else done

/-- A whole run: the error that is raised, and the state it ends in. -/
def run : Program ε σ → σ → Option ε × σ
  | done, s => (none, s)
  | raises error, s => (some error, s)
  | operation effect _ next, s => next.run (effect s)
  | look next, s => (next s).run s

/-- The states a run may be stopped in, before, within and after an operation. -/
inductive Stopped : Program ε σ → σ → σ → Prop
  | now {p : Program ε σ} {s : σ} : Stopped p s s
  | torn {effect : σ → σ} {torn : σ → σ → Prop} {next : Program ε σ} {s t : σ} : torn s t → Stopped (operation effect torn next) s t
  | later {effect : σ → σ} {torn : σ → σ → Prop} {next : Program ε σ} {s t : σ} :
      Stopped next (effect s) t → Stopped (operation effect torn next) s t
  | look {next : σ → Program ε σ} {s t : σ} : Stopped (next s) s t → Stopped (look next) s t

/-- What holds of a program from a state: wherever it is stopped, where it ends
    and where it raises. -/
structure Guarantees (I Q : σ → Prop) (R : ε → σ → Prop) (p : Program ε σ) (s : σ) : Prop where
  stopped : ∀ t, Stopped p s t → I t
  done : ∀ t, p.run s = (none, t) → Q t
  raised : ∀ error t, p.run s = (some error, t) → R error t

section
variable {I Q M : σ → Prop} {R : ε → σ → Prop} {s : σ}

theorem Guarantees.here {p : Program ε σ} (guarantees : Guarantees I Q R p s) : I s := guarantees.stopped s .now

theorem Guarantees.weaken {p : Program ε σ} {J T : σ → Prop} {V : ε → σ → Prop} (guarantees : Guarantees I Q R p s)
    (stopped : ∀ t, I t → J t) (done : ∀ t, Q t → T t) (raised : ∀ error t, R error t → V error t) : Guarantees J T V p s where
  stopped := fun t stop => stopped t (guarantees.stopped t stop)
  done := fun t ends => done t (guarantees.done t ends)
  raised := fun error t fails => raised error t (guarantees.raised error t fails)

theorem guarantees_done (here : I s) (ends : Q s) : Guarantees I Q R done s where
  stopped := by
    intro t stop
    cases stop
    exact here
  done := by
    intro t ran
    cases ran
    exact ends
  raised := by
    intro error t ran
    cases ran

theorem guarantees_raises {error : ε} (here : I s) (fails : R error s) : Guarantees I Q R (raises error) s where
  stopped := by
    intro t stop
    cases stop
    exact here
  done := by
    intro t ran
    cases ran
  raised := by
    intro other t ran
    cases ran
    exact fails

theorem guarantees_operation {effect : σ → σ} {torn : σ → σ → Prop} {next : Program ε σ} (here : I s)
    (within : ∀ t, torn s t → I t) (after : Guarantees I Q R next (effect s)) :
    Guarantees I Q R (operation effect torn next) s where
  stopped := by
    intro t stop
    cases stop with
    | now => exact here
    | torn within' => exact within t within'
    | later stop => exact after.stopped t stop
  done := after.done
  raised := after.raised

theorem guarantees_look {next : σ → Program ε σ} (sees : Guarantees I Q R (next s) s) : Guarantees I Q R (look next) s where
  stopped := by
    intro t stop
    cases stop with
    | now => exact sees.here
    | look stop => exact sees.stopped t stop
  done := sees.done
  raised := sees.raised

theorem guarantees_when {condition : σ → Bool} {p : Program ε σ} (taken : condition s = true → Guarantees I Q R p s)
    (skipped : condition s = false → I s ∧ Q s) : Guarantees I Q R (when condition p) s := by
  apply guarantees_look
  cases holds : condition s with
  | true => exact taken holds
  | false => exact guarantees_done (skipped holds).1 (skipped holds).2

theorem guarantees_append {p q : Program ε σ} (first : Guarantees I M R p s) (second : ∀ t, M t → Guarantees I Q R q t) :
    Guarantees I Q R (p ++ q) s := by
  show Guarantees I Q R (p.seq q) s
  induction p generalizing s with
  | done => exact second s (first.done s rfl)
  | raises error => exact guarantees_raises first.here (first.raised error s rfl)
  | operation effect torn next ih =>
    refine guarantees_operation first.here (fun t within => first.stopped t (.torn within)) (ih ?_)
    exact ⟨fun t stop => first.stopped t (.later stop), first.done, first.raised⟩
  | look next ih =>
    refine guarantees_look (ih s ?_)
    exact ⟨fun t stop => first.stopped t (.look stop), first.done, first.raised⟩

/-- A program that guarantees not to raise ends. -/
theorem Guarantees.ends {p : Program ε σ} (guarantees : Guarantees I Q (fun _ _ => False) p s) :
    ∃ t, p.run s = (none, t) ∧ Q t := by
  cases ran : p.run s with
  | mk error t =>
    cases error with
    | none => exact ⟨t, rfl, guarantees.done t ran⟩
    | some error => exact (guarantees.raised error t ran).elim

end

/-- A program may be stopped in what follows a part that ends. -/
theorem Stopped.after {p q : Program ε σ} {s t u : σ} (ran : p.run s = (none, t)) (stopped : Stopped q t u) : Stopped (p ++ q) s u := by
  show Stopped (p.seq q) s u
  induction p generalizing s with
  | done =>
    cases ran
    exact stopped
  | raises error => cases ran
  | operation effect torn next ih => exact .later (ih ran)
  | look next ih => exact .look (ih s ran)

end Program
end RedDock.Durable
