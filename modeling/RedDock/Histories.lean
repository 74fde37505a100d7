import Mathlib

/-!
# Histories

A list of events in the order in which they happened, each of which may have to
be justified by the events before it.
-/
set_option autoImplicit false
namespace RedDock.Histories
universe u v
variable {E : Type u} {A : Type v} {P : List E → E → Prop} {history : List E} {event : E}

/-- Each event is justified by what went before it. -/
def Justified (P : List E → E → Prop) (history : List E) : Prop :=
  ∀ before event after, history = before ++ event :: after → P before event

theorem justified_nil : Justified P [] := by
  intro before event after split
  simp at split

theorem justified_concat : Justified P (history ++ [event]) ↔ Justified P history ∧ P history event := by
  constructor
  · intro justified
    refine ⟨fun before one after split => ?_, justified history event [] rfl⟩
    exact justified before one (after ++ [event]) (by rw [split, List.append_assoc, List.cons_append])
  · rintro ⟨justified, last⟩ before one after split
    rcases List.eq_nil_or_concat after with rfl | ⟨rest, final, rfl⟩
    · obtain ⟨rfl, same⟩ := List.append_inj' split rfl
      exact List.singleton_inj.mp same ▸ last
    · rw [List.concat_eq_append, ← List.cons_append, ← List.append_assoc] at split
      exact justified before one rest (List.append_inj' split rfl).1

theorem Justified.imp {Q : List E → E → Prop} (justified : Justified P history) (weaker : ∀ before event, P before event → Q before event) :
    Justified Q history :=
  fun before event after split => weaker before event (justified before event after split)

/-- Events that need no justification may follow. -/
theorem justified_append {new : List E} (justified : Justified P history) (free : ∀ event ∈ new, ∀ before, P before event) :
    Justified P (history ++ new) := by
  induction new generalizing history with
  | nil => rwa [List.append_nil]
  | cons event new ih =>
    have first : Justified P (history ++ [event]) := justified_concat.mpr ⟨justified, free event List.mem_cons_self history⟩
    rw [← List.singleton_append, ← List.append_assoc]
    exact ih first fun other mem => free other (List.mem_cons_of_mem event mem)

/-- What the last event that tells something tells. -/
def latest (tells : E → Option A) (history : List E) : Option A := (history.filterMap tells).getLast?

theorem latest_concat (tells : E → Option A) : latest tells (history ++ [event]) = (tells event).or (latest tells history) := by
  unfold latest
  rw [List.filterMap_append]
  cases said : tells event <;> simp [said]

theorem mem_of_latest {tells : E → Option A} {a : A} (last : latest tells history = some a) : ∃ event ∈ history, tells event = some a :=
  List.mem_filterMap.mp (List.mem_of_getLast? last)

end RedDock.Histories
