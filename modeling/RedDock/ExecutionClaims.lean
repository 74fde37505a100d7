import RedDock.Executions
import RedDock.ScopeRevocation

/-!
# One execution owns a run

However many calls execute a run, one of them claims it, and the adapter is
contacted by that one, once. The end of a run is final as long as no other call
fails the run while its owner is at work.
-/
set_option autoImplicit false
namespace RedDock.ExecutionClaims
open Text Targets DockGuard Nmap Executions Runs Fallible
open Discovery hiding World Phase Action step

variable {Result Row : Type} {config : Config Result Row}

/-! ### What one act does -/

/-- A single worker decides the same. -/
theorem decide_execution_eq (w : Discovery.World Result Row) (resolver : Resolver) (lab_policy : PolicyDecision) :
    decide_execution config w resolver lab_policy = (decision config w.entries w.run resolver lab_policy).map fun
      | .inl (decision, reason) => deny w decision reason
      | .inr (evaluation, target) => { w with worker := .approved evaluation target } := by
  unfold decide_execution decision
  cases evaluate config.u w.run.requested_target (scope_rules config w.entries) (some resolver) with
  | error raised => rfl
  | ok evaluation =>
    rw [ok_bind, ok_bind]
    by_cases allowed : (!evaluation.allowed) = true
    · simp [allowed, Except.map]
    simp only [allowed, Bool.false_eq_true, if_false]
    cases normalize_target config.u w.run.requested_target with
    | error raised => rfl
    | ok target =>
      rw [ok_bind, ok_bind]
      cases single_host_denial config config.profile target evaluation with
      | some reason => rfl
      | none =>
        simp only
        split <;> rfl

/-- The call claimed the run and is not done with it. -/
def owner : Phase Result → Bool
  | .idle | .started | .read | .beaten | .unclaimed | .closing | .abandoned | .finished => false
  | _ => true

def Event.contacts : Event → Bool
  | .contacted _ _ => true
  | _ => false

/-- A target that DockGuard allowed under the scope of its decision. -/
def Allowed (worker : Nat) (evaluation : Evaluation) (target : Target) (events : List Event) : Prop :=
  ∃ entries, .allowed worker entries evaluation target ∈ events

/-- What the events tell of a call that stands at a phase. -/
def Standing (worker : Nat) (events : List Event) : Phase Result → Prop
  | .claimed | .authorized => .claimed worker ∈ events ∧ events.any Event.contacts = false
  | .approved evaluation target | .refreshed evaluation target =>
    .claimed worker ∈ events ∧ events.any Event.contacts = false ∧ Allowed worker evaluation target events
  | .admitted evaluation target =>
    .claimed worker ∈ events ∧ events.any Event.contacts = false ∧ Allowed worker evaluation target events ∧
      .admitted worker evaluation target ∈ events
  | .denying _ _ | .contacting _ | .returned _ _ | .publishing _ _ | .failing _ => .claimed worker ∈ events
  | _ => True

theorem Standing.claimed {worker : Nat} {events : List Event} {phase : Phase Result} (standing : Standing worker events phase)
    (owns : owner phase = true) : .claimed worker ∈ events := by
  cases phase with
  | claimed | authorized | approved | refreshed | admitted => exact standing.1
  | denying | contacting | returned | publishing | failing => exact standing
  | _ => simp [owner] at owns

theorem standing_outside {worker : Nat} {events : List Event} {phase : Phase Result} (outside : owner phase = false) :
    Standing worker events phase := by
  cases phase <;> simp_all [owner, Standing]

/-- Everything an act of a call can do. -/
inductive Moves (config : Config Result Row) (entries : List ScopeEntry) (run : DiscoveryRun) (worker : Nat) :
    Phase Result → Moved Result → Prop
  | outside {phase phase' : Phase Result} : owner phase = false → owner phase' = false →
    Moves config entries run worker phase { phase := phase', run := run }
  | claim : run.status = .pending → Moves config entries run worker .read
    { phase := .claimed, run := { run with status := .running }, events := [.claimed worker] }
  | stay {phase phase' : Phase Result} : owner phase = true → owner phase' = true →
    (∀ events, Standing worker events phase → Standing worker events phase') →
    Moves config entries run worker phase { phase := phase', run := run }
  | allow {evaluation : Evaluation} {target : Target} {resolver : Resolver} {lab_policy : PolicyDecision} :
    decision config entries run resolver lab_policy = .ok (.inr (evaluation, target)) →
    Moves config entries run worker .authorized
      { phase := .approved evaluation target, run := run, events := [.allowed worker entries evaluation target] }
  | admission {evaluation : Evaluation} {target : Target} : Moves config entries run worker (.refreshed evaluation target) {
      phase := .admitted evaluation target
      run := { run with decision := evaluation.decision, decision_reason := evaluation.reason.take 500 }
      events := [.admitted worker evaluation target] }
  | contact {evaluation : Evaluation} {target : Target} : Moves config entries run worker (.admitted evaluation target)
    { phase := .contacting evaluation, run := run, events := [.contacted worker (request config evaluation target)] }
  | leave {phase phase' : Phase Result} {run' : DiscoveryRun} : owner phase = true → owner phase' = false →
    run'.requested_target = run.requested_target → (run'.status = run.status ∨ run'.status ∉ ACTIVE_STATUSES) →
    Moves config entries run worker phase { phase := phase', run := run' }
  | detach : Moves config entries run worker .abandoned { phase := .finished, run := fail_detached run }

theorem raised_moves {entries : List ScopeEntry} {run : DiscoveryRun} {worker : Nat} {phase phase' : Phase Result}
    {raised : Raised} (handled : raised_from raised phase = some phase') :
    Moves config entries run worker phase { phase := phase', run := run } := by
  cases phase with
  | idle | finished => simp [raised_from] at handled
  | started | unclaimed | closing | read | beaten | abandoned =>
    cases handled
    exact .outside rfl rfl
  | failing message =>
    cases handled
    exact .leave rfl rfl rfl (Or.inl rfl)
  | _ =>
    cases handled
    exact .stay rfl rfl fun _ standing => standing.claimed rfl

theorem denied_moves {entries : List ScopeEntry} {run : DiscoveryRun} {worker : Nat} {phase : Phase Result}
    {decision : Decision} {reason : Text} (owns : owner phase = true) :
    Moves config entries run worker phase { phase := .closing, run := denied run decision reason } :=
  .leave owns rfl rfl (Or.inr (by simp [denied, ACTIVE_STATUSES]))

theorem move_moves {entries : List ScopeEntry} {run : DiscoveryRun} {worker : Nat} {phase : Phase Result} {act : Act Result}
    {moved : Moved Result} (ran : move config entries run worker phase act = some moved) :
    Moves config entries run worker phase moved := by
  unfold move at ran
  split at ran
  · cases ran
    exact .outside rfl rfl
  · cases ran
    exact .outside rfl (by split <;> rfl)
  · split at ran
    · rename_i pending
      cases ran
      exact .claim pending
    · cases ran
      exact .outside rfl rfl
  · cases ran
    exact .outside rfl rfl
  · cases ran
    exact .outside rfl rfl
  · split at ran
    · cases ran
      exact .stay rfl rfl fun _ standing => standing
    · cases ran
      exact denied_moves rfl
  · split at ran
    · cases ran
      exact .stay rfl rfl fun _ standing => standing.1
    · cases ran
      exact .stay rfl rfl fun _ standing => standing.1
    · rename_i decided
      cases ran
      exact .allow decided
  · cases ran
    exact denied_moves rfl
  · split at ran
    · cases ran
      exact .stay rfl rfl fun _ standing => standing
    · cases ran
      exact .leave rfl rfl rfl (Or.inl rfl)
  · split at ran
    · cases ran
      exact .admission
    · cases ran
      exact denied_moves rfl
  · cases ran
    exact .contact
  · cases ran
    exact .stay rfl rfl fun _ standing => standing
  · split at ran
    · cases ran
      exact .stay rfl rfl fun _ standing => standing
    · cases ran
      exact .stay rfl rfl fun _ standing => standing
    · cases ran
      exact .stay rfl rfl fun _ standing => standing
  · cases ran
    exact .leave rfl rfl rfl (Or.inr (by simp [ACTIVE_STATUSES]))
  · cases ran
    exact .leave rfl rfl rfl (Or.inr (by simp [ACTIVE_STATUSES]))
  · cases ran
    exact .outside rfl rfl
  · cases ran
    exact .detach
  · obtain ⟨phase', handled, rfl⟩ := Option.map_eq_some_iff.mp ran
    exact raised_moves handled
  · simp at ran

/-! ### One owner, one contact -/

/-- DockGuard allows a run's target under the scope of an event. -/
def DockGuardAllowed (config : Config Result Row) (requested : Text) : Event → Prop
  | .allowed _ entries evaluation target => normalize_target config.u requested = .ok target ∧
    ∃ resolver, evaluate config.u requested (scope_rules config entries) (some resolver) = .ok evaluation ∧
      evaluation.allowed = true
  | _ => True

/-- What is committed before a call contacts the adapter: its claim, and its
    final authorization of a target that DockGuard allowed. -/
def Justified (config : Config Result Row) (requested : Text) (worker : Nat) (request : AdapterRequest)
    (earlier : List Event) : Prop :=
  .claimed worker ∈ earlier ∧ ∃ entries evaluation target, request = Executions.request config evaluation target ∧
    .admitted worker evaluation target ∈ earlier ∧ .allowed worker entries evaluation target ∈ earlier ∧
      DockGuardAllowed config requested (.allowed worker entries evaluation target)

structure Inv (config : Config Result Row) (requested : Text) (w : World Result) : Prop where
  target : w.run.requested_target = requested
  pending : w.run.status = .pending → ∀ worker, .claimed worker ∉ w.events
  one_claim : ∀ first second, .claimed first ∈ w.events → .claimed second ∈ w.events → first = second
  standing : ∀ worker, Standing worker w.events (w.workers worker)
  allowed : ∀ event ∈ w.events, DockGuardAllowed config requested event
  one_contact : w.events.countP Event.contacts ≤ 1
  justified : ∀ later worker request earlier, w.events = later ++ .contacted worker request :: earlier →
    Justified config requested worker request earlier

theorem decision_inr {entries : List ScopeEntry} {run : DiscoveryRun} {resolver : Resolver} {lab_policy : PolicyDecision}
    {evaluation : Evaluation} {target : Target}
    (decided : decision config entries run resolver lab_policy = .ok (.inr (evaluation, target))) (worker : Nat) :
    DockGuardAllowed config run.requested_target (.allowed worker entries evaluation target) := by
  unfold decision at decided
  obtain ⟨made, evaluated, decided⟩ := bind_eq_ok.mp decided
  split at decided
  · simp [pure, Except.pure] at decided
  rename_i allowed
  obtain ⟨read, normalized, decided⟩ := bind_eq_ok.mp decided
  split at decided
  · simp [pure, Except.pure] at decided
  split at decided
  · simp [pure, Except.pure] at decided
  · cases decided
    exact ⟨normalized, resolver, evaluated, by simpa using allowed⟩

theorem Inv.uncontacted {requested : Text} {w : World Result} (inv : Inv config requested w)
    (unclaimed : ∀ worker, .claimed worker ∉ w.events) : w.events.any Event.contacts = false := by
  rw [List.any_eq_false]
  intro event member contacts
  cases event with
  | contacted worker request =>
    obtain ⟨later, earlier, split⟩ := List.append_of_mem member
    refine unclaimed worker ?_
    rw [split]
    exact List.mem_append_right _ (List.mem_cons_of_mem _ (inv.justified later worker request earlier split).1)
  | _ => simp [Event.contacts] at contacts

/-- Events that contact nobody leave a call where it stands. -/
theorem Standing.later {worker : Nat} {events new : List Event} {phase : Phase Result} (standing : Standing worker events phase)
    (quiet : new.any Event.contacts = false) : Standing worker (new ++ events) phase := by
  cases phase with
  | claimed | authorized =>
    exact ⟨List.mem_append_right _ standing.1, by rw [List.any_append, quiet, standing.2]; rfl⟩
  | approved | refreshed =>
    obtain ⟨claimed, uncontacted, entries, allowed⟩ := standing
    exact ⟨List.mem_append_right _ claimed, by rw [List.any_append, quiet, uncontacted]; rfl, entries,
      List.mem_append_right _ allowed⟩
  | admitted =>
    obtain ⟨claimed, uncontacted, ⟨entries, allowed⟩, admitted⟩ := standing
    exact ⟨List.mem_append_right _ claimed, by rw [List.any_append, quiet, uncontacted]; rfl,
      ⟨entries, List.mem_append_right _ allowed⟩, List.mem_append_right _ admitted⟩
  | denying | contacting | returned | publishing | failing => exact List.mem_append_right _ standing
  | _ => trivial

/-- A split at an event is a split of the events before the new ones. -/
theorem split_before {Item : Type} {new old later earlier : List Item} {event : Item} (absent : event ∉ new)
    (split : new ++ old = later ++ event :: earlier) : ∃ later', old = later' ++ event :: earlier := by
  rcases List.append_eq_append_iff.mp split with ⟨between, _, old⟩ | ⟨between, new, rest⟩
  · exact ⟨between, old⟩
  · cases between with
    | nil => exact ⟨[], rest.symm⟩
    | cons first between =>
      rw [List.cons_append, List.cons.injEq] at rest
      exact absurd (by simp [new, rest.1]) absent

/-- The world after an act. -/
def after (w : World Result) (worker : Nat) (moved : Moved Result) : World Result :=
  { w with
    run := moved.run
    workers := Function.update w.workers worker moved.phase
    events := moved.events ++ w.events }

/-- An act without a claim or a contact. -/
theorem inv_quiet {requested : Text} {w : World Result} {worker : Nat} {moved : Moved Result} (inv : Inv config requested w)
    (target : moved.run.requested_target = w.run.requested_target)
    (status : moved.run.status = .pending → w.run.status = .pending)
    (unclaimed : ∀ other, .claimed other ∉ moved.events) (uncontacted : moved.events.any Event.contacts = false)
    (allowed : ∀ event ∈ moved.events, DockGuardAllowed config requested event)
    (standing : Standing worker (moved.events ++ w.events) moved.phase) : Inv config requested (after w worker moved) where
  target := target.trans inv.target
  pending pending other claimed := by
    rcases List.mem_append.mp claimed with new | old
    · exact unclaimed other new
    · exact inv.pending (status pending) other old
  one_claim first second one two := by
    rcases List.mem_append.mp one with new | one
    · exact absurd new (unclaimed first)
    rcases List.mem_append.mp two with new | two
    · exact absurd new (unclaimed second)
    exact inv.one_claim first second one two
  standing other := by
    by_cases own : other = worker
    · subst own
      simpa [after] using standing
    · simp only [after, Function.update_of_ne own]
      exact (inv.standing other).later uncontacted
  allowed event member := by
    rcases List.mem_append.mp member with new | old
    · exact allowed event new
    · exact inv.allowed event old
  one_contact := by
    have none : moved.events.countP Event.contacts = 0 := by
      rw [List.countP_eq_zero]
      intro event member
      simpa using List.any_eq_false.mp uncontacted event member
    simp only [after, List.countP_append, none, Nat.zero_add]
    exact inv.one_contact
  justified later other request earlier split := by
    have absent : .contacted other request ∉ moved.events := by
      intro member
      simpa [Event.contacts] using List.any_eq_false.mp uncontacted _ member
    obtain ⟨later', split⟩ := split_before absent split
    exact inv.justified later' other request earlier split

theorem inv_claim {requested : Text} {w : World Result} {worker : Nat} (inv : Inv config requested w)
    (pending : w.run.status = .pending) : Inv config requested
      (after w worker { phase := .claimed, run := { w.run with status := .running }, events := [.claimed worker] }) where
  target := inv.target
  pending running := by simp [after] at running
  one_claim first second one two := by
    have only : ∀ other, .claimed other ∈ .claimed worker :: w.events → other = worker := by
      intro other member
      rcases List.mem_cons.mp member with same | old
      · exact Event.claimed.inj same
      · exact absurd old (inv.pending pending other)
    exact (only first one).trans (only second two).symm
  standing other := by
    by_cases own : other = worker
    · subst own
      simpa [after, Standing, Event.contacts] using inv.uncontacted (inv.pending pending)
    · simp only [after, Function.update_of_ne own]
      exact (inv.standing other).later (by simp [Event.contacts])
  allowed event member := by
    rcases List.mem_cons.mp member with rfl | old
    · trivial
    · exact inv.allowed event old
  one_contact := by
    simpa [after, Event.contacts] using inv.one_contact
  justified later other request earlier split := by
    have absent : Event.contacted other request ∉ [Event.claimed worker] := by simp
    obtain ⟨later', split⟩ := split_before absent split
    exact inv.justified later' other request earlier split

theorem inv_contact {requested : Text} {w : World Result} {worker : Nat} {evaluation : Evaluation} {target : Target}
    (inv : Inv config requested w) (admitted : w.workers worker = .admitted evaluation target) :
    Inv config requested (after w worker {
      phase := .contacting evaluation
      run := w.run
      events := [.contacted worker (request config evaluation target)] }) := by
  have standing := inv.standing worker
  rw [admitted] at standing
  obtain ⟨claimed, uncontacted, ⟨entries, allowed⟩, approved⟩ := standing
  refine ⟨inv.target, ?_, ?_, ?_, ?_, ?_, ?_⟩
  · intro pending other
    exact absurd claimed (inv.pending pending worker)
  · intro first second one two
    simp only [after, List.singleton_append, List.mem_cons, reduceCtorEq, false_or] at one two
    exact inv.one_claim first second one two
  · intro other
    by_cases own : other = worker
    · subst own
      simpa [after, Standing] using claimed
    · simp only [after, Function.update_of_ne own]
      -- nobody else has claimed the run
      refine standing_outside ?_
      by_contra owns
      rw [Bool.not_eq_false] at owns
      exact own (inv.one_claim other worker ((inv.standing other).claimed owns) claimed)
  · intro event member
    rcases List.mem_cons.mp member with rfl | old
    · trivial
    · exact inv.allowed event old
  · have none : w.events.countP Event.contacts = 0 := by
      rw [List.countP_eq_zero]
      intro event member
      simpa using List.any_eq_false.mp uncontacted event member
    simp only [after, List.singleton_append]
    rw [List.countP_cons_of_pos rfl, none]
  · intro later other sent earlier split
    cases later with
    | nil =>
      simp only [after, List.singleton_append, List.nil_append, List.cons.injEq, Event.contacted.injEq] at split
      obtain ⟨⟨rfl, rfl⟩, rfl⟩ := split
      exact ⟨claimed, entries, evaluation, target, rfl, approved, allowed, inv.allowed _ allowed⟩
    | cons first later =>
      simp only [after, List.cons_append, List.cons.injEq] at split
      exact inv.justified later other sent earlier split.2

theorem inv_moves {requested : Text} {w : World Result} {worker : Nat} {moved : Moved Result} (inv : Inv config requested w)
    (moves : Moves config w.entries w.run worker (w.workers worker) moved) : Inv config requested (after w worker moved) := by
  have standing := inv.standing worker
  generalize phase_of : w.workers worker = phase at moves standing
  cases moves with
  | outside _ outside =>
    exact inv_quiet inv rfl id (by simp) rfl (by simp) (standing_outside outside)
  | claim pending => exact inv_claim inv pending
  | stay _ _ stands => exact inv_quiet inv rfl id (by simp) rfl (by simp) (stands _ standing)
  | @allow evaluation target _ _ decided =>
    have allowed := decision_inr decided worker
    rw [inv.target] at allowed
    refine inv_quiet inv rfl id (by simp) rfl (by simpa using allowed) ?_
    exact ⟨List.mem_cons_of_mem _ standing.1, by simpa [Event.contacts] using standing.2, w.entries, List.mem_cons_self⟩
  | admission =>
    refine inv_quiet inv rfl id (by simp) rfl (by simp [DockGuardAllowed]) ?_
    obtain ⟨claimed, uncontacted, entries, allowed⟩ := standing
    exact ⟨List.mem_cons_of_mem _ claimed, by simpa [Event.contacts] using uncontacted,
      ⟨entries, List.mem_cons_of_mem _ allowed⟩, List.mem_cons_self⟩
  | contact => exact inv_contact inv phase_of
  | leave _ outside target status =>
    refine inv_quiet inv target (fun pending => ?_) (by simp) rfl (by simp) (standing_outside outside)
    rcases status with same | ended
    · exact same.symm.trans pending
    · exact absurd (by rw [show _ = RunStatus.pending from pending]; simp [ACTIVE_STATUSES]) ended
  | detach =>
    refine inv_quiet inv ?_ (fun pending => ?_) (by simp) rfl (by simp) trivial
    · simp only [fail_detached]
      split <;> rfl
    · simp only [fail_detached] at pending
      split at pending
      · simp at pending
      · exact pending

theorem step_cases {w w' : World Result} {action : Action Result} (stepped : step config w action = some w') :
    (∃ entries, action = .edit entries ∧ w' = { w with entries := entries }) ∨
      ∃ worker act moved, action = .act worker act ∧ move config w.entries w.run worker (w.workers worker) act = some moved ∧
        Moves config w.entries w.run worker (w.workers worker) moved ∧ w' = after w worker moved := by
  cases action with
  | edit entries =>
    cases stepped
    exact Or.inl ⟨entries, rfl, rfl⟩
  | act worker act =>
    obtain ⟨moved, ran, rfl⟩ := Option.map_eq_some_iff.mp stepped
    exact Or.inr ⟨worker, act, moved, rfl, ran, move_moves ran, rfl⟩

theorem inv_step {requested : Text} (w : World Result) (action : Action Result) (w' : World Result)
    (inv : Inv config requested w) (stepped : step config w action = some w') : Inv config requested w' := by
  rcases step_cases stepped with ⟨entries, _, rfl⟩ | ⟨worker, act, moved, _, _, moves, rfl⟩
  · exact ⟨inv.target, inv.pending, inv.one_claim, inv.standing, inv.allowed, inv.one_contact, inv.justified⟩
  · exact inv_moves inv moves

/-! ### The end of a run is final -/

def Ended (run : DiscoveryRun) : Prop := run.status ∉ ACTIVE_STATUSES

/-- A run is failed from another session while nobody that has claimed it is
    still at work. -/
def Released (w : World Result) : Action Result → Prop
  | .act _ .detach => w.run.status = .running → ∀ worker, owner (w.workers worker) = false
  | _ => True

/-- A run whose owner is at work is running. -/
structure Final (config : Config Result Row) (requested : Text) (w : World Result) : Prop where
  inv : Inv config requested w
  running : ∀ worker, owner (w.workers worker) = true → w.run.status = .running

theorem Final.alone {requested : Text} {w : World Result} (final : Final config requested w) {worker other : Nat}
    (owns : owner (w.workers worker) = true) (different : other ≠ worker) : owner (w.workers other) = false := by
  by_contra still
  rw [Bool.not_eq_false] at still
  exact different (final.inv.one_claim other worker ((final.inv.standing other).claimed still)
    ((final.inv.standing worker).claimed owns))

/-- A call that is no owner after its act leaves the other owners as they were. -/
theorem owner_after {w : World Result} {worker other : Nat} {moved : Moved Result} (outside : owner moved.phase = false)
    (owns : owner ((after w worker moved).workers other) = true) : other ≠ worker ∧ owner (w.workers other) = true := by
  by_cases own : other = worker
  · subst own
    simp [after, outside] at owns
  · exact ⟨own, by simpa [after, Function.update_of_ne own] using owns⟩

theorem move_abandoned {entries : List ScopeEntry} {run : DiscoveryRun} {worker : Nat} {act : Act Result} {moved : Moved Result}
    (ran : move config entries run worker .abandoned act = some moved) (changed : moved.run ≠ run) : act = .detach := by
  cases act with
  | detach => rfl
  | raise raised =>
    cases ran
    exact absurd rfl changed
  | _ => simp [move] at ran

theorem final_moves {requested : Text} {w : World Result} {worker : Nat} {moved : Moved Result}
    (final : Final config requested w) (released : w.workers worker = .abandoned → moved.run ≠ w.run →
      w.run.status = .running → ∀ other, owner (w.workers other) = false)
    (moves : Moves config w.entries w.run worker (w.workers worker) moved) :
    (∀ other, owner ((after w worker moved).workers other) = true → moved.run.status = .running) ∧
      (Ended w.run → moved.run.status = w.run.status) := by
  generalize phase_of : w.workers worker = phase at moves released
  have here : owner phase = true → w.run.status = .running := fun owns => final.running worker (phase_of ▸ owns)
  cases moves with
  | outside _ outside =>
    refine ⟨fun other owns => ?_, fun _ => rfl⟩
    exact final.running other (owner_after outside owns).2
  | claim pending => exact ⟨fun _ _ => rfl, fun ended => absurd (by simp [pending, ACTIVE_STATUSES]) ended⟩
  | stay owns => exact ⟨fun _ _ => here owns, fun _ => rfl⟩
  | allow => exact ⟨fun _ _ => here rfl, fun _ => rfl⟩
  | admission => exact ⟨fun _ _ => here rfl, fun _ => rfl⟩
  | contact => exact ⟨fun _ _ => here rfl, fun _ => rfl⟩
  | leave owns outside =>
    refine ⟨fun other later => ?_, fun ended => absurd (by simp [here owns, ACTIVE_STATUSES]) ended⟩
    obtain ⟨different, still⟩ := owner_after outside later
    have alone := final.alone (phase_of ▸ owns) different
    rw [still] at alone
    cases alone
  | detach =>
    refine ⟨fun other later => ?_, fun ended => by rw [fail_detached, if_neg ended]⟩
    obtain ⟨_, still⟩ := owner_after rfl later
    have running := final.running other still
    have changed : fail_detached w.run ≠ w.run := by
      intro same
      have status := congrArg DiscoveryRun.status same
      simp [fail_detached, running, ACTIVE_STATUSES] at status
    have nobody := released rfl changed running other
    rw [still] at nobody
    cases nobody

theorem final_step {requested : Text} (w : World Result) (action : Action Result) (w' : World Result)
    (final : Final config requested w) (released : Released w action) (stepped : step config w action = some w') :
    Final config requested w' ∧ (Ended w.run → w'.run.status = w.run.status) := by
  have inv := inv_step w action w' final.inv stepped
  rcases step_cases stepped with ⟨entries, _, rfl⟩ | ⟨worker, act, moved, rfl, ran, moves, rfl⟩
  · exact ⟨⟨inv, final.running⟩, fun _ => rfl⟩
  · have kept := final_moves final (fun phase changed => ?_) moves
    · exact ⟨⟨inv, kept.1⟩, kept.2⟩
    · rw [phase] at ran
      rw [move_abandoned ran changed] at released
      exact released

/-- Calls that have not begun. -/
structure Begins (w : World Result) : Prop where
  idle : ∀ worker, w.workers worker = .idle
  events : w.events = []

theorem Begins.final {w : World Result} (begins : Begins w) : Final config w.run.requested_target w where
  inv := by
    refine ⟨rfl, ?_, ?_, fun worker => ?_, ?_, ?_, ?_⟩
    · simp [begins.events]
    · simp [begins.events]
    · rw [begins.idle worker]
      trivial
    · simp [begins.events]
    · simp [begins.events]
    · simp [begins.events]
  running worker owns := by
    rw [begins.idle worker] at owns
    cases owns

/-- In every run of any number of calls the adapter is contacted at most once,
    by a call that claimed the run and was admitted; and where no run is failed
    under its owner, its end is final. -/
theorem claimed_once {start w w' : World Result} {first second : List (Action Result)} (begins : Begins start)
    (ran : run (step config) start first = some w) (ran' : run (step config) w second = some w') :
    (w.events.countP Event.contacts ≤ 1 ∧
      ∀ later worker request earlier, w.events = later ++ .contacted worker request :: earlier →
        Justified config start.run.requested_target worker request earlier) ∧
    (Along (step config) Released start (first ++ second) → Ended w.run → w'.run.status = w.run.status) := by
  have inv := invariant_run (Inv config _) inv_step begins.final.inv ran
  refine ⟨⟨inv.one_contact, inv.justified⟩, fun met ended => ?_⟩
  obtain ⟨before, after⟩ := along_append met ran
  have final : Final config start.run.requested_target w :=
    invariant_along _ (fun s a s' held released stepped => (final_step s a s' held released stepped).1) before begins.final ran
  have kept : Final config start.run.requested_target w' ∧ w'.run.status = w.run.status := by
    refine invariant_along (fun s => Final config start.run.requested_target s ∧ s.run.status = w.run.status) ?_ after
      ⟨final, rfl⟩ ran'
    rintro s a s' ⟨held, same⟩ released stepped
    obtain ⟨next, kept⟩ := final_step s a s' held released stepped
    refine ⟨next, (kept ?_).trans same⟩
    rw [Ended, same]
    exact ended
  exact kept.2

/-! ### Two calls on one run -/

open ScopeRevocation in
def pendingWorld : World Unit where
  entries := [hostEntry]
  run := { requested_target := "10.0.0.1".toList, status := .pending, decision := .allowed, decision_reason := [] }

theorem pendingWorld_begins : Begins pendingWorld := ⟨fun _ => rfl, rfl⟩

/-- A call up to the tool's answer, and another one that stops after its first
    acts. -/
def twoCalls (other : List (Act Unit)) : List (Action Unit) :=
  ([.call, .read, .claim, .authorize true, .decide (fun _ => .ok []) ⟨true, []⟩, .refresh, .admission true, .contact].map
    fun act => .act 0 act) ++ other.map fun act => .act 1 act

def publishing : List (Action Unit) := [.answer (), .recheck, .publish].map fun act => .act 0 act

open ScopeRevocation in
/-- A second call that finds the run claimed leaves it to its owner. -/
theorem claimed_once_completed : ∃ w w', run (step plainConfig) pendingWorld (twoCalls [.call, .read, .close] ++ publishing) = some w ∧
    run (step plainConfig) w [.act 2 .call, .act 2 .read] = some w' ∧ w.run.status = .completed ∧
      w.events.countP Event.contacts = 1 ∧ w'.run.status = .completed := by
  have reached : (run (step plainConfig) pendingWorld (twoCalls [.call, .read, .close] ++ publishing)).map
      (fun w => (w.run.status, w.events.countP Event.contacts,
        (run (step plainConfig) w [.act 2 .call, .act 2 .read]).isSome)) = some (.completed, 1, true) := by decide +kernel
  obtain ⟨w, ran, facts⟩ := Option.map_eq_some_iff.mp reached
  rw [Prod.mk.injEq, Prod.mk.injEq] at facts
  obtain ⟨completed, one, possible⟩ := facts
  obtain ⟨w', ran'⟩ := Option.isSome_iff_exists.mp possible
  have quiet : ∀ action ∈ (twoCalls [.call, .read, .close] ++ publishing) ++ [.act 2 .call, .act 2 .read],
      ∀ s : World Unit, Released s action := by
    simp [twoCalls, publishing, Released]
  have final := (claimed_once pendingWorld_begins ran ran').2 (along_of_forall quiet)
  refine ⟨w, w', ran, ran', completed, one, (final ?_).trans completed⟩
  simp [Ended, completed, ACTIVE_STATUSES]

open ScopeRevocation in
/-- A second call whose first read raises fails the run under its owner, who
    then completes it. -/
theorem failed_then_completed : ∃ w w',
    run (step plainConfig) pendingWorld (twoCalls [.call, .raise .unexpected, .detach]) = some w ∧
      run (step plainConfig) w publishing = some w' ∧ w.run.status = .failed ∧ w'.run.status = .completed := by
  have reached : (run (step plainConfig) pendingWorld (twoCalls [.call, .raise .unexpected, .detach])).map
      (fun w => (w.run.status, (run (step plainConfig) w publishing).map (·.run.status))) =
        some (.failed, some .completed) := by decide +kernel
  obtain ⟨w, ran, facts⟩ := Option.map_eq_some_iff.mp reached
  rw [Prod.mk.injEq] at facts
  obtain ⟨w', ran', completed⟩ := Option.map_eq_some_iff.mp facts.2
  exact ⟨w, w', ran, ran', facts.1, completed⟩

end RedDock.ExecutionClaims
