import RedDock.Approvals

/-!
# One approval rechecks a run

However many calls approve a validation run, one of them claims it after
DockGuard allowed its origin, and the origin is contacted by that one, once.
-/
set_option autoImplicit false
namespace RedDock.ApprovalClaims
open Text Targets DockGuard Nmap Inventory Validation Approvals Claims
open ServiceRules (Casing)
open Approvals (World Left step)

def standing (run : ValidationRun) : Standing :=
  match run.status with
  | .pending_approval => .free
  | .running => .taken
  | .completed | .denied | .failed => .closed

def stage : Phase → Stage
  | .updated _ _ _ | .admission _ _ _ => .claiming
  | .admitted _ _ | .refreshed _ _ => .owning
  | .contacting _ | .validated _ | .stored _ | .failing _ => .acted
  | _ => .outside

def Event.rechecks : Event → Bool
  | .rechecked _ _ => true
  | _ => false

section
variable (u : Unicode)

/-- DockGuard allowed the origin in the call. -/
def Allowed (call : Nat) (target : Target) (evaluation : Evaluation) (events : List Event) : Prop :=
  .allowed call target evaluation ∈ events ∧ evaluation.allowed = true ∧
    ∃ rules resolver, evaluate u target.value rules (some resolver) = .ok evaluation

/-- The call committed its claim after DockGuard allowed the origin in it. -/
def Committed (call : Nat) (target : Target) (evaluation : Evaluation) (events : List Event) : Prop :=
  ∃ later earlier, events = later ++ .claimed call :: earlier ∧ Allowed u call target evaluation earlier

def Tells (call : Nat) (phase : Phase) (events : List Event) : Prop :=
  match phase with
  | .evaluated _ target evaluation => evaluation.allowed = true → Allowed u call target evaluation events
  | .updated row target evaluation | .admission row target evaluation =>
    row.status = (if evaluation.allowed then .running else .denied) ∧ (evaluation.allowed = true → Allowed u call target evaluation events)
  | .admitted target evaluation | .refreshed target evaluation => Committed u call target evaluation events
  | _ => True

/-- A recheck is of an origin that its call claimed the run for. -/
def Justified (event : Event) (earlier : List Event) : Prop :=
  ∀ call request, event = .rechecked call request →
    ∃ target evaluation, request = recheck_request target evaluation ∧ Committed u call target evaluation earlier

variable {u}

theorem Allowed.later {call : Nat} {target : Target} {evaluation : Evaluation} {events : List Event} (new : List Event)
    (allowed : Allowed u call target evaluation events) : Allowed u call target evaluation (new ++ events) :=
  ⟨List.mem_append_right _ allowed.1, allowed.2⟩

theorem Committed.later {call : Nat} {target : Target} {evaluation : Evaluation} {events : List Event} (new : List Event)
    (committed : Committed u call target evaluation events) : Committed u call target evaluation (new ++ events) := by
  obtain ⟨later, earlier, rfl, allowed⟩ := committed
  exact ⟨new ++ later, earlier, (List.append_assoc _ _ _).symm, allowed⟩

theorem Tells.later {call : Nat} {phase : Phase} {events : List Event} (new : List Event) (tells : Tells u call phase events) :
    Tells u call phase (new ++ events) := by
  cases phase with
  | evaluated note target evaluation => exact fun allows => (tells allows).later new
  | updated row target evaluation => exact ⟨tells.1, fun allows => (tells.2 allows).later new⟩
  | admission row target evaluation => exact ⟨tells.1, fun allows => (tells.2 allows).later new⟩
  | admitted target evaluation => exact Committed.later new tells
  | refreshed target evaluation => exact Committed.later new tells
  | _ => trivial

variable (u)

def kind : Kind ValidationRun Phase Event where
  standing := standing
  stage := stage
  acts := Event.rechecks
  tells := Tells u
  good := Justified u
  later := Tells.later

end

section
variable {u : Unicode} {casing : Casing} {w : World} {call : Nat}

/-- A call outside the claim goes on outside it. -/
theorem stays_outside {phase phase' : Phase} {new : List Event} (here : w.claim.parties call = phase) (before : stage phase = .outside)
    (after : stage phase' = .outside) (quiet : Quiet (kind u) new)
    (tells : Tells u call phase w.claim.events → Tells u call phase' (new ++ w.claim.events)) :
    Step (kind u) w.claim (w.claim.after call ⟨w.claim.record, w.claim.lock, phase', new⟩) := by
  subst here
  exact .move (.outside before after quiet) tells

theorem move_claims {act : Act} {left : Left} (inv : Inv (kind u) w.claim)
    (moved : move u casing w call (w.claim.parties call) act = some left) : Step (kind u) w.claim (w.claim.after call left) := by
  have told : Tells u call (w.claim.parties call) w.claim.events := inv.told call
  have stands := inv.stands call
  have outside : ∀ {phase phase' : Phase}, w.claim.parties call = phase → stage phase = .outside → stage phase' = .outside →
      (Tells u call phase w.claim.events → Tells u call phase' w.claim.events) →
      Step (kind u) w.claim (w.claim.after call ⟨w.claim.record, w.claim.lock, phase', []⟩) :=
    fun here before after tells => stays_outside here before after rfl tells
  cases here : w.claim.parties call with
  | idle =>
    rw [here] at moved
    cases act with
    | call dockyard_id note =>
      cases moved
      exact outside here rfl rfl fun _ => trivial
    | _ => cases moved
  | called dockyard_id note =>
    rw [here] at moved
    cases act with
    | authorize admitted =>
      cases moved
      cases admitted with
      | true => exact outside here rfl rfl fun _ => trivial
      | false => exact outside here rfl rfl fun _ => trivial
    | raise name =>
      cases moved
      exact outside here rfl rfl fun _ => trivial
    | _ => cases moved
  | authorized dockyard_id note =>
    rw [here] at moved
    cases act with
    | read =>
      cases moved
      refine outside here rfl ?_ fun _ => ?_
      · split
        · rfl
        · rfl
      · split
        · trivial
        · trivial
    | raise name =>
      cases moved
      exact outside here rfl rfl fun _ => trivial
    | _ => cases moved
  | pending dockyard_id note =>
    rw [here] at moved
    cases act with
    | find =>
      cases moved
      cases w.finding with
      | none => exact outside here rfl rfl fun _ => trivial
      | some finding =>
        by_cases own : finding.dockyard_id = dockyard_id
        · simp only [if_pos own]
          exact outside here rfl rfl fun _ => trivial
        · simp only [if_neg own]
          exact outside here rfl rfl fun _ => trivial
    | raise name =>
      cases moved
      exact outside here rfl rfl fun _ => trivial
    | _ => cases moved
  | found note finding =>
    rw [here] at moved
    cases act with
    | target =>
      cases moved
      cases validation_target u finding w.assets with
      | error refused => exact outside here rfl rfl fun _ => trivial
      | ok target => exact outside here rfl rfl fun _ => trivial
    | raise name =>
      cases moved
      exact outside here rfl rfl fun _ => trivial
    | _ => cases moved
  | targeted note target =>
    rw [here] at moved
    cases act with
    | evaluate resolver =>
      simp only [move] at moved
      cases decided : evaluate u target.value w.rules (some resolver) with
      | error raised =>
        rw [decided] at moved
        cases moved
        exact outside here rfl rfl fun _ => trivial
      | ok evaluation =>
        rw [decided] at moved
        cases moved
        refine stays_outside here rfl rfl ?_ fun _ allows => ⟨?_, allows, w.rules, resolver, decided⟩
        · split
          · rfl
          · rfl
        · rw [if_pos allows]
          exact List.mem_cons_self
    | raise name =>
      cases moved
      exact outside here rfl rfl fun _ => trivial
    | _ => cases moved
  | evaluated note target evaluation =>
    rw [here] at moved told
    cases act with
    | claim now =>
      simp only [move] at moved
      by_cases unlocked : w.claim.lock = none
      · rw [if_pos unlocked] at moved
        by_cases free : w.claim.record.status = .pending_approval
        · rw [if_pos free] at moved
          cases moved
          refine .move (.lock ?_ rfl unlocked ?_ (rfl : Quiet _ [])) fun _ => ⟨rfl, told⟩
          · rw [here]
            rfl
          · show standing w.claim.record = .free
            rw [standing, free]
        · rw [if_neg free] at moved
          cases moved
          exact outside here rfl rfl fun _ => trivial
      · rw [if_neg unlocked] at moved
        cases moved
    | raise name =>
      cases moved
      exact outside here rfl rfl fun _ => trivial
    | _ => cases moved
  | beaten =>
    rw [here] at moved
    cases act with
    | rollback =>
      cases moved
      exact outside here rfl rfl fun _ => trivial
    | raise name =>
      cases moved
      exact outside here rfl rfl fun _ => trivial
    | _ => cases moved
  | updated row target evaluation =>
    rw [here] at moved told
    have claiming : stage (w.claim.parties call) = .claiming := by
      rw [here]
      rfl
    cases act with
    | authorize admitted =>
      cases admitted with
      | true =>
        cases moved
        exact .move (.hold claiming rfl) fun _ => told
      | false =>
        cases moved
        exact .move (.release claiming rfl) fun _ => trivial
    | raise name =>
      cases moved
      exact .move (.release claiming rfl) fun _ => trivial
    | _ => cases moved
  | admission row target evaluation =>
    rw [here] at moved told
    have claiming : stage (w.claim.parties call) = .claiming := by
      rw [here]
      rfl
    cases act with
    | commit =>
      simp only [move] at moved
      obtain ⟨status, allowed⟩ := told
      by_cases allows : evaluation.allowed = true
      · rw [if_pos allows] at moved status
        cases moved
        refine .move (.take claiming rfl ?_ rfl) fun _ => ⟨[], w.claim.events, rfl, allowed allows⟩
        show standing row = .taken
        rw [standing, status]
      · rw [if_neg allows] at moved status
        cases moved
        refine .move (.refuse claiming rfl ?_) fun _ => trivial
        show standing row = .closed
        rw [standing, status]
    | raise name =>
      cases moved
      exact .move (.release claiming rfl) fun _ => trivial
    | _ => cases moved
  | admitted target evaluation =>
    rw [here] at moved told
    have owning : stage (w.claim.parties call) = .owning := by
      rw [here]
      rfl
    cases act with
    | refresh =>
      cases moved
      exact .move (.own owning (Or.inl rfl)) fun _ => told
    | raise name =>
      cases moved
      refine .move (.leave (Or.inl owning) rfl ?_) fun _ => trivial
      rw [(stands.owning owning).1]
      exact nofun
    | _ => cases moved
  | refreshed target evaluation =>
    rw [here] at moved told
    have owning : stage (w.claim.parties call) = .owning := by
      rw [here]
      rfl
    cases act with
    | contact =>
      cases moved
      refine .move (.act owning rfl rfl fun _ => ?_) fun _ => trivial
      rintro _ _ ⟨⟩
      exact ⟨target, evaluation, rfl, told⟩
    | raise name =>
      cases moved
      exact .move (.own owning (Or.inr rfl)) fun _ => trivial
    | _ => cases moved
  | contacting target =>
    rw [here] at moved
    have acted : stage (w.claim.parties call) = .acted := by
      rw [here]
      rfl
    have taken : standing w.claim.record = .taken := stands.acted acted
    cases act with
    | answer observations artifacts =>
      cases moved
      cases w.finding with
      | none => exact .move (.work acted rfl taken) fun _ => trivial
      | some finding =>
        cases judged : validate casing finding.rule_id target observations artifacts with
        | error message =>
          simp only [judged]
          exact .move (.work acted rfl taken) fun _ => trivial
        | ok result =>
          simp only [judged]
          exact .move (.work acted rfl taken) fun _ => trivial
    | raise name =>
      cases moved
      exact .move (.work acted rfl taken) fun _ => trivial
    | _ => cases moved
  | validated result =>
    rw [here] at moved
    have acted : stage (w.claim.parties call) = .acted := by
      rw [here]
      rfl
    have taken : standing w.claim.record = .taken := stands.acted acted
    cases act with
    | store evidence =>
      cases moved
      exact .move (.work acted rfl taken) fun _ => trivial
    | raise name =>
      cases moved
      exact .move (.work acted rfl taken) fun _ => trivial
    | _ => cases moved
  | stored result =>
    rw [here] at moved
    have acted : stage (w.claim.parties call) = .acted := by
      rw [here]
      rfl
    cases act with
    | complete now =>
      cases moved
      exact .move (.leave (Or.inr acted) rfl nofun) fun _ => trivial
    | raise name =>
      cases moved
      refine .move (.leave (Or.inr acted) rfl ?_) fun _ => trivial
      rw [stands.acted acted]
      exact nofun
    | _ => cases moved
  | failing error =>
    rw [here] at moved
    have acted : stage (w.claim.parties call) = .acted := by
      rw [here]
      rfl
    cases act with
    | fail now =>
      cases moved
      exact .move (.leave (Or.inr acted) rfl nofun) fun _ => trivial
    | raise name =>
      cases moved
      refine .move (.leave (Or.inr acted) rfl ?_) fun _ => trivial
      rw [stands.acted acted]
      exact nofun
    | _ => cases moved
  | finished =>
    rw [here] at moved
    cases act with
    | _ => cases moved

/-- A restart ends every call and fails a run that was running. -/
theorem restart_claims (w : World) (now : Nat) :
    Step (kind u) w.claim ⟨recovered_row w.claim.record now, none, ended w.claim.parties, w.claim.events⟩ := by
  refine .restart (fun call => ?_) (fun call _ => ?_) ?_
  · show stage (ended w.claim.parties call) = .outside
    unfold ended
    split
    · rfl
    · rfl
  · show Tells u call (ended w.claim.parties call) w.claim.events
    unfold ended
    split
    · trivial
    · trivial
  · unfold recovered_row
    by_cases running : w.claim.record.status = .running
    · rw [if_pos running]
      refine Or.inr ⟨?_, rfl⟩
      show standing w.claim.record = .taken
      rw [standing, running]
    · rw [if_neg running]
      exact Or.inl rfl

theorem step_claims (w : World) (action : Action) (w' : World) (inv : Inv (kind u) w.claim ∧ True)
    (stepped : step u casing w action = some w') : Step (kind u) w.claim w'.claim ∧ True := by
  refine ⟨?_, trivial⟩
  cases action with
  | edit rules finding assets =>
    cases stepped
    exact .elsewhere
  | act call act =>
    obtain ⟨left, moved, rfl⟩ := Option.map_eq_some_iff.mp stepped
    exact move_claims inv.1 moved
  | restart now =>
    cases stepped
    exact restart_claims w now

end

/-- A pending run that no call has touched. -/
structure Begins (w : World) : Prop where
  pending : w.claim.record.status = .pending_approval
  idle : ∀ call, w.claim.parties call = .idle
  silent : w.claim.events = []

theorem Begins.inv {u : Unicode} {w : World} (begins : Begins w) : Inv (kind u) w.claim := by
  refine Inv.begins (fun call => ?_) begins.silent fun call => ?_
  · rw [begins.idle]
    rfl
  · rw [begins.idle]
    trivial

/-- A run that no operation changes any more. -/
def Terminal (run : ValidationRun) : Prop := run.status = .completed ∨ run.status = .denied ∨ run.status = .failed

theorem Terminal.closed {run : ValidationRun} (terminal : Terminal run) : standing run = .closed := by
  rcases terminal with status | status | status
  · rw [standing, status]
  · rw [standing, status]
  · rw [standing, status]

/-- In every run of any number of approvals, scope edits and restarts the
    origin is contacted at most once, by a call that claimed the run after
    DockGuard allowed the origin in it, and never for a run that is pending; a
    run that has ended stays as it is. -/
theorem rechecked_once (u : Unicode) (casing : Casing) (start w w' : World) (first second : List Action) (begins : Begins start)
    (ran : Runs.run (step u casing) start first = some w) (ran' : Runs.run (step u casing) w second = some w') :
    w.claim.events.countP Event.rechecks ≤ 1 ∧
    (∀ later call request earlier, w.claim.events = later ++ .rechecked call request :: earlier →
      ∃ target evaluation, request = recheck_request target evaluation ∧ Committed u call target evaluation earlier) ∧
    (w.claim.record.status = .pending_approval → w.claim.events.countP Event.rechecks = 0) ∧
    (Terminal w.claim.record → w'.claim.record = w.claim.record) := by
  have held : Inv (kind u) w.claim ∧ _ := inv_run step_claims ⟨begins.inv, trivial⟩ ran
  have inv := held.1
  refine ⟨inv.once, ?_, ?_, fun terminal => closed_run step_claims held terminal.closed ran'⟩
  · intro later call request earlier split
    exact inv.justified later _ earlier split rfl call request rfl
  · intro pending
    refine inv.free ?_
    show standing w.claim.record = .free
    rw [standing, pending]

/-! ### Two calls on one run -/

def origin : Text := "https://10.0.0.1".toList

def pendingWorld : World where
  claim := {
    record := { dockyard_id := 1, target := origin, status := .pending_approval }
    parties := fun _ => .idle }
  rules := [⟨.include, origin⟩]
  finding := some {
    dockyard_id := 1
    detector := VALIDATOR_DETECTOR
    rule_id := HttpHeaders.frame_protection_not_set.rule_id
    asset_id := some 1 }
  assets := fun id => if id = 1 then some ⟨1, origin⟩ else none

theorem pendingWorld_begins : Begins pendingWorld := ⟨rfl, fun _ => rfl, rfl⟩

/-- A call up to DockGuard's answer. -/
def evaluated_call (call : Nat) : List Action :=
  [.call 1 "Recheck".toList, .authorize true, .read, .find, .target, .evaluate fun _ => .ok []].map fun act => .act call act

/-- Two calls that both find the run pending; the first one claims it. -/
def two_calls : List Action :=
  evaluated_call 0 ++ evaluated_call 1 ++
    [.act 0 (.claim 5), .act 0 (.authorize true), .act 0 .commit, .act 1 (.claim 6), .act 1 .rollback, .act 0 .refresh, .act 0 .contact,
      .act 0 (.answer (HttpProbe.normalize .plain probed_target "10.0.0.1".toList probed).2 []),
      .act 0 (.store ⟨"1/validation/1".toList, [], [], []⟩), .act 0 (.complete 9)]

/-- A third call, and a restart. -/
def afterwards : List Action := [.act 2 (.call 1 []), .act 2 (.authorize true), .act 2 .read, .restart 20]

theorem rechecked_once_completed : ∃ w w', Runs.run (step .plain ExaminedHeaders.ascii.toCasing) pendingWorld two_calls = some w ∧
    Runs.run (step .plain ExaminedHeaders.ascii.toCasing) w afterwards = some w' ∧
      w.claim.events.countP Event.rechecks ≤ 1 ∧ w'.claim.record.status = .completed ∧ w'.claim.record.outcome = some .not_reproduced := by
  have reached : (Runs.run (step .plain ExaminedHeaders.ascii.toCasing) pendingWorld two_calls).map
      (fun w => (w.claim.record.status, w.claim.record.outcome,
        (Runs.run (step .plain ExaminedHeaders.ascii.toCasing) w afterwards).isSome)) = some (.completed, some .not_reproduced, true) := by
    decide +kernel
  obtain ⟨w, ran, facts⟩ := Option.map_eq_some_iff.mp reached
  rw [Prod.mk.injEq, Prod.mk.injEq] at facts
  obtain ⟨completed, outcome, possible⟩ := facts
  obtain ⟨w', ran'⟩ := Option.isSome_iff_exists.mp possible
  have kept := rechecked_once .plain ExaminedHeaders.ascii.toCasing pendingWorld w w' two_calls afterwards pendingWorld_begins ran ran'
  have same := kept.2.2.2 (Or.inl completed)
  refine ⟨w, w', ran, ran', kept.1, ?_, ?_⟩
  · rw [same, completed]
  · rw [same, outcome]

end RedDock.ApprovalClaims
