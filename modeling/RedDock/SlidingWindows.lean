import Mathlib

/-!
# Sliding windows

A queue of the attempts that were let through within a window's length, which
lets one more through while it holds fewer than its limit.
-/
set_option autoImplicit false
namespace RedDock.SlidingWindows
universe u

theorem filter_length_le {α : Type u} {p q : α → Bool} (xs : List α) (implied : ∀ x ∈ xs, p x = true → q x = true) :
    (xs.filter p).length ≤ (xs.filter q).length := by
  rw [← List.countP_eq_length_filter, ← List.countP_eq_length_filter]
  exact List.countP_mono_left implied

variable {Moment : Type u} [LinearOrder Moment]

/-- The queue without its attempts up to a cutoff. -/
def recent (cutoff : Moment) (queue : List Moment) : List Moment := queue.dropWhile fun moment => decide (moment ≤ cutoff)

theorem recent_eq_filter {cutoff : Moment} {queue : List Moment} (sorted : queue.Pairwise (· ≤ ·)) :
    recent cutoff queue = queue.filter fun moment => decide (cutoff < moment) := by
  induction queue with
  | nil => rfl
  | cons first rest ih =>
    obtain ⟨below, sorted⟩ := List.pairwise_cons.mp sorted
    unfold recent at ih ⊢
    by_cases old : first ≤ cutoff
    · rw [List.dropWhile_cons_of_pos (by simpa using old), List.filter_cons_of_neg (by simpa using old), ih sorted]
    · have all : ∀ moment ∈ first :: rest, cutoff < moment := by
        intro moment member
        rcases List.mem_cons.mp member with rfl | later
        · exact not_le.mp old
        · exact (not_le.mp old).trans_le (below moment later)
      rw [List.dropWhile_cons_of_neg (by simpa using old), List.filter_eq_self.mpr fun moment member => decide_eq_true (all moment member)]

section
variable [AddCommGroup Moment] (limit : Nat) (length : Moment)

/-- One attempt: the queue it leaves, and whether it is let through. -/
def attempt (queue : List Moment) (moment : Moment) : List Moment × Bool :=
  if limit ≤ (recent (moment - length) queue).length then (recent (moment - length) queue, false)
  else (recent (moment - length) queue ++ [moment], true)

/-- Attempts: the queue they leave, and those that were let through. -/
def attempts : List Moment → List Moment → List Moment × List Moment
  | queue, [] => (queue, [])
  | queue, moment :: moments =>
    ((attempts (attempt limit length queue moment).1 moments).1,
      (if (attempt limit length queue moment).2 then [moment] else []) ++ (attempts (attempt limit length queue moment).1 moments).2)

end

variable [AddCommGroup Moment]

/-- The queue is what was let through within the window's length, and no window
    of that length, without its one end or the other, saw more than the limit. -/
structure Windowed (limit : Nat) (length : Moment) (through queue : List Moment) (now : Moment) : Prop where
  sorted : queue.Pairwise (· ≤ ·)
  past : ∀ moment ∈ through, moment ≤ now
  queued : ∀ cutoff, now - length ≤ cutoff →
    (queue.filter fun moment => decide (cutoff < moment)) = through.filter fun moment => decide (cutoff < moment)
  within : ∀ moment ∈ queue, moment ≤ now
  after_start : ∀ start, (through.filter fun moment => decide (start < moment ∧ moment ≤ start + length)).length ≤ limit
  before_end : ∀ start, (through.filter fun moment => decide (start ≤ moment ∧ moment < start + length)).length ≤ limit

section
variable {limit : Nat} {length : Moment} {through queue : List Moment} {now moment : Moment}

theorem windowed_start (limit : Nat) (length now : Moment) : Windowed limit length [] [] now :=
  ⟨List.Pairwise.nil, by simp, fun _ _ => rfl, by simp, by simp, by simp⟩

/-- A window gains an attempt that is let through while it has room. -/
theorem window_gains {p : Moment → Bool} (bound : (through.filter p).length ≤ limit)
    (room : (through.filter fun one => decide (moment - length < one)).length < limit)
    (implied : p moment = true → ∀ one ∈ through, p one = true → moment - length < one) :
    ((through ++ [moment]).filter p).length ≤ limit := by
  rw [List.filter_append, List.length_append]
  cases inside : p moment with
  | false =>
    rw [List.filter_cons_of_neg (by simp [inside])]
    exact bound
  | true =>
    rw [List.filter_cons_of_pos inside]
    have fewer := filter_length_le through (p := p) (q := fun one => decide (moment - length < one)) fun one member held =>
      decide_eq_true (implied inside one member held)
    simp only [List.filter_nil, List.length_cons, List.length_nil]
    omega

variable [IsOrderedAddMonoid Moment]

/-- What an attempt finds in its window. -/
theorem recent_eq (windowed : Windowed limit length through queue now) (order : now ≤ moment) :
    recent (moment - length) queue = through.filter fun one => decide (moment - length < one) := by
  rw [recent_eq_filter windowed.sorted]
  exact windowed.queued _ (sub_le_sub_right order length)

theorem queued_later (windowed : Windowed limit length through queue now) (order : now ≤ moment) {cutoff : Moment}
    (late : moment - length ≤ cutoff) : ((recent (moment - length) queue).filter fun one => decide (cutoff < one)) =
      through.filter fun one => decide (cutoff < one) := by
  rw [recent_eq windowed order, List.filter_filter]
  refine List.filter_congr fun one _ => ?_
  rw [Bool.eq_iff_iff, Bool.and_eq_true, decide_eq_true_eq, decide_eq_true_eq]
  exact ⟨fun both => both.1, fun above => ⟨above, late.trans_lt above⟩⟩

/-- An attempt that is refused leaves what was let through. -/
theorem windowed_refused (windowed : Windowed limit length through queue now) (order : now ≤ moment) :
    Windowed limit length through (recent (moment - length) queue) moment where
  sorted := windowed.sorted.sublist (List.dropWhile_sublist _)
  past one member := (windowed.past one member).trans order
  queued _ late := queued_later windowed order late
  within one member := (windowed.within one (List.dropWhile_sublist _ |>.subset member)).trans order
  after_start := windowed.after_start
  before_end := windowed.before_end

theorem windowed_through (windowed : Windowed limit length through queue now) (order : now ≤ moment)
    (room : (recent (moment - length) queue).length < limit) :
    Windowed limit length (through ++ [moment]) (recent (moment - length) queue ++ [moment]) moment := by
  have refused := windowed_refused windowed order
  rw [recent_eq windowed order] at room
  refine ⟨?_, ?_, ?_, ?_, fun start => ?_, fun start => ?_⟩
  · refine List.pairwise_append.mpr ⟨refused.sorted, List.pairwise_singleton _ _, fun one member other is => ?_⟩
    rw [List.mem_singleton.mp is]
    exact refused.within one member
  · intro one member
    exact (List.mem_append.mp member).elim (refused.past one) fun is => (List.mem_singleton.mp is).le
  · intro cutoff late
    rw [List.filter_append, List.filter_append, refused.queued cutoff late]
  · intro one member
    exact (List.mem_append.mp member).elim (refused.within one) fun is => (List.mem_singleton.mp is).le
  · refine window_gains (windowed.after_start start) room fun inside one _ held => ?_
    rw [decide_eq_true_eq] at inside held
    exact (sub_le_iff_le_add.mpr inside.2).trans_lt held.1
  · refine window_gains (windowed.before_end start) room fun inside one _ held => ?_
    rw [decide_eq_true_eq] at inside held
    exact (sub_lt_iff_lt_add.mpr inside.2).trans_le held.1

/-- An attempt is refused only when its window has seen exactly the limit. -/
theorem refused_full (windowed : Windowed limit length through queue now) (order : now ≤ moment)
    (refused : (attempt limit length queue moment).2 = false) :
    (through.filter fun one => decide (moment - length < one ∧ one ≤ moment)).length = limit := by
  have full : limit ≤ (recent (moment - length) queue).length := by
    unfold attempt at refused
    split at refused
    · assumption
    · cases refused
  rw [recent_eq windowed order] at full
  have same : (through.filter fun one => decide (moment - length < one)) =
      through.filter fun one => decide (moment - length < one ∧ one ≤ moment) := by
    refine List.filter_congr fun one member => ?_
    rw [decide_eq_decide]
    exact ⟨fun above => ⟨above, (windowed.past one member).trans order⟩, And.left⟩
  have bound := windowed.after_start (moment - length)
  rw [sub_add_cancel] at bound
  rw [same] at full
  exact le_antisymm bound full

/-- An attempt keeps its windows. -/
theorem windowed_attempt (windowed : Windowed limit length through queue now) (order : now ≤ moment) :
    Windowed limit length (through ++ if (attempt limit length queue moment).2 then [moment] else [])
      (attempt limit length queue moment).1 moment := by
  unfold attempt
  by_cases full : limit ≤ (recent (moment - length) queue).length
  · rw [if_pos full]
    simpa using windowed_refused windowed order
  · rw [if_neg full]
    simpa using windowed_through windowed order (not_le.mp full)

end

/-- Attempts in the order of their moments keep their windows. -/
theorem windowed_attempts [IsOrderedAddMonoid Moment] {limit : Nat} {length : Moment} {through queue : List Moment} {now : Moment} {moments : List Moment}
    (windowed : Windowed limit length through queue now) (clock : (now :: moments).Pairwise (· ≤ ·)) :
    ∃ last, (∀ later, (∀ one ∈ now :: moments, one ≤ later) → last ≤ later) ∧
      Windowed limit length (through ++ (attempts limit length queue moments).2) (attempts limit length queue moments).1 last := by
  induction moments generalizing through queue now with
  | nil => exact ⟨now, fun later all => all now List.mem_cons_self, by simpa [attempts] using windowed⟩
  | cons moment moments ih =>
    obtain ⟨first, rest⟩ := List.pairwise_cons.mp clock
    have next := windowed_attempt windowed (first moment List.mem_cons_self)
    obtain ⟨last, latest, held⟩ := ih next rest
    rw [attempts]
    refine ⟨last, fun later all => latest later fun one member => all one (List.mem_cons_of_mem _ member), ?_⟩
    rwa [← List.append_assoc]

end RedDock.SlidingWindows
