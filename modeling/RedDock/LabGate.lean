import RedDock.DiscoveryAdmission

/-!
# The lab gate

At most one grant of a capability is active, the adapter is run for a lab profile
only after a check that found the switch on and a grant in force, and the audit
has one event for every decision, with its outcome.
-/
set_option autoImplicit false
namespace RedDock.LabGate
open Text Targets DockGuard Lab DiscoveryRequests Fallible Runs
open Discovery (Config ScopeEntry DiscoveryRun single_host_denial scope_rules)
open Executions (Moved Act)

variable {Result Row : Type} {config : Config Result Row} {limits : Limits}

/-! ### Events and decisions -/

/-- The decision that an audit event tells of. -/
def event_decision (event : LabAuditEvent) : LabDecision where
  dockyard_id := event.dockyard_id
  capability := event.capability
  action := event.action
  allowed := event.allowed
  subject := match event.action with
    | .authorize | .revoke => event.authorization_id
    | .request | .execute => event.discovery_run_id

theorem create_authorization_event {settings : Lab.Settings} {now : Nat} {grants grants' : Grants} {dockyard_id : Nat}
    {capability_id acknowledgement note : Text} {duration_minutes : Int} {event : LabAuditEvent} {decision : Lab.PolicyDecision}
    (created : create_authorization settings now grants dockyard_id capability_id acknowledgement note duration_minutes =
      .ok (grants', event, decision)) :
    event_decision event = ⟨dockyard_id, capability_id, .authorize, decision.allowed, some grants.next_id⟩ := by
  unfold create_authorization at created
  split at created
  · cases created
  · cases created
    rfl

theorem revoke_authorization_event {now : Nat} {grants grants' : Grants} {dockyard_id authorization_id : Nat} {event : LabAuditEvent}
    (done : revoke_authorization now grants dockyard_id authorization_id = some (grants', event)) :
    event_decision event = ⟨dockyard_id, event.capability, .revoke, true, some authorization_id⟩ := by
  obtain ⟨grant, found, left⟩ := Option.map_eq_some_iff.mp done
  cases left
  have same := List.find?_some found
  simp only [Bool.and_eq_true, decide_eq_true_eq] at same
  simp [event_decision, same.1]

theorem request_policy_event (lab : Lab.Settings) (now : Nat) (grants : List LabAuthorization) (profile : Profile) (run : Run)
    (evaluation : Evaluation) :
    let policy := request_policy lab now grants profile run evaluation
    event_decision policy.2 = ⟨run.dockyard_id, profile.capability_id, .request, policy.1.allowed, some run.id⟩ ∧
      (evaluation.allowed = false → policy.1.allowed = false) := by
  unfold request_policy
  split
  · next allowed => exact ⟨rfl, fun denied => by rw [denied] at allowed; cases allowed⟩
  · exact ⟨rfl, fun _ => rfl⟩

/-- The request of a lab profile adds one event, with the outcome that is
    returned; any other request adds none. -/
theorem lab_request_event (lab : Lab.Settings) (now : Nat) (grants : List LabAuthorization) (profile : Profile) (run : Run)
    (evaluation : Evaluation) :
    let left := lab_request lab now grants profile run evaluation
    left.2.1.map event_decision = request_decision profile left.1 left.2.2 := by
  unfold lab_request request_decision
  by_cases lab_profile : profile.requires_lab_authorization = true
  · obtain ⟨told, denial⟩ := request_policy_event lab now grants profile run evaluation
    simp only [if_pos lab_profile]
    generalize request_policy lab now grants profile run evaluation = policy at told denial
    by_cases refused : (!policy.1.allowed && evaluation.allowed) = true
    · have denied : policy.1.allowed = false := by simpa using (Bool.and_eq_true_iff.mp refused).1
      rw [denied] at told
      simp only [refused, if_true, Option.map_some, told]
      rfl
    · have same : policy.1.allowed = evaluation.allowed := by
        cases allowed : evaluation.allowed with
        | false => exact denial allowed
        | true => simpa [allowed] using refused
      simp only [refused, Bool.false_eq_true, if_false, Option.map_some, told]
      rw [same]
  · simp only [if_neg lab_profile, Option.map_none]

/-! ### The registry -/

theorem run_profile_mem {run : Run} {profile : Profile} (found : run_profile run = .ok profile) :
    ∃ adapter ∈ ADAPTERS, profile ∈ adapter.profiles := by
  unfold run_profile at found
  split at found
  · cases found
  next adapter known =>
  split at found
  · cases found
  next inside =>
  cases found
  exact ⟨adapter, List.mem_of_find?_eq_some known, List.mem_of_find?_eq_some inside⟩

/-- The profiles of one host are the lab profiles. -/
theorem single_host_lab {run : Run} {profile : Profile} (found : run_profile run = .ok profile) :
    profile.single_host_only = profile.requires_lab_authorization := by
  obtain ⟨adapter, listed, inside⟩ := run_profile_mem found
  have all : ∀ adapter ∈ ADAPTERS, ∀ profile ∈ adapter.profiles, profile.single_host_only = profile.requires_lab_authorization := by
    decide
  exact all adapter listed profile inside

/-- One host: no network, and no name with several addresses. -/
def SingleHost (u : Unicode) (target : Target) (evaluation : Evaluation) : Prop :=
  target.kind ≠ .ipv4_network ∧ target.kind ≠ .ipv6_network ∧ (target.is_named u = true → evaluation.resolved_addresses.length = 1)

theorem single_host_of_denial {profile : Discovery.Profile} {target : Target} {evaluation : Evaluation}
    (single : profile.single_host_only = true) (passes : single_host_denial config profile target evaluation = none) :
    SingleHost config.u target evaluation := by
  unfold single_host_denial at passes
  rw [single] at passes
  simp only [Bool.not_true, Bool.false_eq_true, if_false] at passes
  split at passes
  · cases passes
  next plain =>
  split at passes
  · cases passes
  next one =>
  rw [not_or] at plain
  refine ⟨plain.1, plain.2, fun named => ?_⟩
  by_contra several
  exact one ⟨named, several⟩

theorem single_host_free {profile : Discovery.Profile} {target : Target} {evaluation : Evaluation}
    (any : profile.single_host_only = false) : single_host_denial config profile target evaluation = none := by
  simp [single_host_denial, any]

/-! ### The decision of an execution -/

@[simp] theorem with_profile_u {profile : Profile} : (with_profile config profile).u = config.u := rfl

@[simp] theorem with_profile_profile {profile : Profile} : (with_profile config profile).profile = profile.toProfile := rfl

@[simp] theorem scope_rules_with_profile {profile : Profile} {entries : List ScopeEntry} :
    scope_rules (with_profile config profile) entries = scope_rules config entries := rfl

@[simp] theorem single_host_denial_with_profile {profile : Profile} {other : Discovery.Profile} {target : Target} {evaluation : Evaluation} :
    single_host_denial (with_profile config profile) other target evaluation = single_host_denial config other target evaluation := rfl

/-- The phase that a decision leads to. -/
def decided_phase : Except PyError ((Decision × Text) ⊕ (Evaluation × Target)) → Executions.Phase Result
  | .error _ => .failing Executions.Raised.unexpected.message
  | .ok (.inl denial) => .denying denial.1 denial.2
  | .ok (.inr approval) => .approved approval.1 approval.2

section
variable {w : World Result} {run : Run} {profile : Profile} {resolver : Resolver}

/-- A decision adds one event, with its outcome, for a lab profile, and none for
    another one. -/
theorem execution_event_verdict (found : run_profile run = .ok profile) :
    (execution_event config w profile run resolver).map event_decision =
      verdict profile run (decided_phase (Executions.decision (with_profile config profile) (w.entries run.dockyard_id) run.row resolver
        (capability_decision w.lab w.now w.grants.rows run.dockyard_id profile.capability_id).toPolicyDecision) :
          Executions.Phase Result) := by
  have single := single_host_lab found
  unfold execution_event Executions.decision
  rw [with_profile_u, scope_rules_with_profile]
  cases evaluate config.u run.row.requested_target (scope_rules config (w.entries run.dockyard_id)) (some resolver) with
  | error raised => rfl
  | ok evaluation =>
    rw [ok_bind]
    by_cases denied : (!evaluation.allowed) = true
    · simp only [denied, if_true]
      by_cases lab_profile : profile.requires_lab_authorization = true
      · simp only [lab_profile, if_true]
        simp [decided_phase, verdict, lab_profile, pure, Except.pure, event_decision, record_denial, record, execution_decision]
      · simp [decided_phase, verdict, lab_profile, pure, Except.pure]
    simp only [denied, Bool.false_eq_true, if_false]
    cases normalize_target config.u run.row.requested_target with
    | error raised => rfl
    | ok target =>
      rw [ok_bind, with_profile_profile, single_host_denial_with_profile]
      dsimp only
      by_cases lab_profile : profile.requires_lab_authorization = true
      · cases single_host_denial config profile.toProfile target evaluation with
        | some reason =>
          simp [decided_phase, verdict, lab_profile, pure, Except.pure, event_decision, record_denial, record, execution_decision]
        | none =>
          by_cases granted : (capability_decision w.lab w.now w.grants.rows run.dockyard_id profile.capability_id).allowed = true
          · simp [decided_phase, verdict, lab_profile, granted, pure, Except.pure, event_decision, check_capability, record, execution_decision]
          · simp only [Bool.not_eq_true] at granted
            simp [decided_phase, verdict, lab_profile, granted, pure, Except.pure, event_decision, check_capability, record, execution_decision]
      · rw [single_host_free (by rw [single]; simpa using lab_profile)]
        simp [decided_phase, verdict, lab_profile, pure, Except.pure]

/-- A run of a lab profile goes ahead on a check that found the switch on and a
    grant in force, for one host. -/
theorem decision_cleared {entries : List ScopeEntry} {evaluation : Evaluation} {target : Target} (found : run_profile run = .ok profile)
    (lab_profile : profile.requires_lab_authorization = true)
    (decided : Executions.decision (with_profile config profile) entries run.row resolver
      (capability_decision w.lab w.now w.grants.rows run.dockyard_id profile.capability_id).toPolicyDecision = .ok (.inr (evaluation, target))) :
    (capability_decision w.lab w.now w.grants.rows run.dockyard_id profile.capability_id).allowed = true ∧
      SingleHost config.u target evaluation := by
  unfold Executions.decision at decided
  obtain ⟨made, -, decided⟩ := bind_eq_ok.mp decided
  split at decided
  · simp [pure, Except.pure] at decided
  obtain ⟨read, -, decided⟩ := bind_eq_ok.mp decided
  split at decided
  · simp [pure, Except.pure] at decided
  next passes =>
  split at decided
  · simp [pure, Except.pure] at decided
  next granted =>
  cases decided
  refine ⟨?_, single_host_of_denial ((single_host_lab found).trans lab_profile) passes⟩
  by_contra refused
  refine granted ?_
  rw [with_profile_profile, lab_profile, Bool.true_and, Bool.not_eq_true']
  exact Bool.not_eq_true _ ▸ refused

/-! ### What an execution carries to the contact -/

/-- The evaluation and the target that an execution goes ahead with. -/
def held : Executions.Phase Result → Option (Evaluation × Target)
  | .approved evaluation target | .refreshed evaluation target | .admitted evaluation target => some (evaluation, target)
  | _ => none

/-- An act keeps what is held, or makes the decision to go ahead. -/
theorem move_held {entries : List ScopeEntry} {row : DiscoveryRun} {worker : Nat} {phase : Executions.Phase Result} {act : Act Result}
    {moved : Moved Result} {going : Evaluation × Target} (ran : Executions.move config entries row worker phase act = some moved)
    (after : held moved.phase = some going) :
    held phase = some going ∨ ∃ resolver policy, act = .decide resolver policy ∧
      Executions.decision config entries row resolver policy = .ok (.inr going) := by
  unfold Executions.move at ran
  split at ran
  case h_7 resolver policy =>
    split at ran
    · cases ran
      cases after
    · cases ran
      cases after
    · next decided =>
      cases ran
      cases after
      exact Or.inr ⟨resolver, policy, rfl, decided⟩
  case h_9 =>
    cases ran
    dsimp only at after
    split at after
    · exact Or.inl after
    · cases after
  case h_18 =>
    obtain ⟨phase', handled, rfl⟩ := Option.map_eq_some_iff.mp ran
    cases phase <;> cases handled <;> cases after
  case h_2 =>
    cases ran
    dsimp only at after
    split at after <;> cases after
  case h_10 =>
    split at ran
    · cases ran
      exact Or.inl after
    · cases ran
      cases after
  case h_3 | h_6 | h_13 =>
    split at ran <;> cases ran <;> cases after
  all_goals cases ran <;> cases after

/-- The adapter is contacted with what is held. -/
theorem move_contacts {entries : List ScopeEntry} {row : DiscoveryRun} {worker number : Nat} {phase : Executions.Phase Result} {act : Act Result}
    {moved : Moved Result} {request : Nmap.AdapterRequest} (ran : Executions.move config entries row worker phase act = some moved)
    (contacts : .contacted number request ∈ moved.events) :
    number = worker ∧ ∃ evaluation target, phase = .admitted evaluation target ∧ request = Executions.request config evaluation target ∧
      moved.events = [.contacted number request] := by
  have moves := ExecutionClaims.move_moves ran
  cases moves with
  | contact =>
    rw [List.mem_singleton, Executions.Event.contacted.injEq] at contacts
    obtain ⟨rfl, rfl⟩ := contacts
    exact ⟨rfl, _, _, rfl, rfl, rfl⟩
  | _ => simp at contacts

theorem move_decides {entries : List ScopeEntry} {row : DiscoveryRun} {worker : Nat} {phase : Executions.Phase Result} {resolver : Resolver}
    {policy : Discovery.PolicyDecision} {moved : Moved Result}
    (ran : Executions.move config entries row worker phase (.decide resolver policy) = some moved) :
    moved.phase = decided_phase (Executions.decision config entries row resolver policy) := by
  cases phase with
  | authorized =>
    simp only [Executions.move] at ran
    split at ran
    · next decided =>
      cases ran
      rw [decided]
      rfl
    · next decided =>
      cases ran
      rw [decided]
      rfl
    · next decided =>
      cases ran
      rw [decided]
      rfl
  | _ => cases ran

/-- What an act of an execution leaves: its worker moved as `execute_run` does,
    its open transaction kept, dropped or committed, and its check on record. -/
theorem work_spec {w' : World Result} {number : Nat} {worker : Worker Result} {act : Act Result} (found : run_profile run = .ok profile)
    (audited : w.audit.map event_decision = w.decisions) (told : worker.event.map event_decision = worker.verdict)
    (worked : work config w number worker run profile act = some w') :
    ∃ act' moved, ∃ worker' : Worker Result,
      Executions.move (with_profile config profile) (w.entries run.dockyard_id) run.row number worker.phase act' = some moved ∧
      w'.workers = w.workers.set number worker' ∧ worker'.run_id = worker.run_id ∧ worker'.phase = moved.phase ∧
      w'.runs = set_row w.runs worker.run_id moved.run ∧ w'.requests = w.requests ∧ w'.grants = w.grants ∧
      w'.audit.map event_decision = w'.decisions ∧ worker'.event.map event_decision = worker'.verdict ∧
      ((∃ resolver, act' = .decide resolver (capability_decision w.lab w.now w.grants.rows run.dockyard_id profile.capability_id).toPolicyDecision ∧
          w'.history = moved.events.map (.event run.id run.dockyard_id profile) ++ (checked w number run profile moved.phase ++ w.history)) ∨
        ((∀ resolver policy, act' ≠ .decide resolver policy) ∧
          w'.history = moved.events.map (.event run.id run.dockyard_id profile) ++ w.history)) := by
  unfold work at worked
  split at worked
  · next resolver policy =>
    obtain ⟨moved, ran, rfl⟩ := Option.map_eq_some_iff.mp worked
    refine ⟨_, moved, _, ran, rfl, rfl, rfl, rfl, rfl, rfl, audited, ?_, Or.inl ⟨resolver, rfl, rfl⟩⟩
    show (execution_event config w profile run resolver).map event_decision = verdict profile run moved.phase
    rw [move_decides ran]
    exact execution_event_verdict found
  · next other =>
    obtain ⟨moved, ran, rfl⟩ := Option.map_eq_some_iff.mp worked
    refine ⟨act, moved, ?_⟩
    have commits : (w.audit ++ worker.event.toList).map event_decision = w.decisions ++ worker.verdict.toList := by
      rw [List.map_append, audited, ← told]
      cases worker.event <;> rfl
    split
    · exact ⟨_, ran, rfl, rfl, rfl, rfl, rfl, rfl, commits, rfl, Or.inr ⟨other, rfl⟩⟩
    · exact ⟨_, ran, rfl, rfl, rfl, rfl, rfl, rfl, commits, rfl, Or.inr ⟨other, rfl⟩⟩
    · exact ⟨_, ran, rfl, rfl, rfl, rfl, rfl, rfl, audited, told, Or.inr ⟨other, rfl⟩⟩
    · exact ⟨_, ran, rfl, rfl, rfl, rfl, rfl, rfl, audited, rfl, Or.inr ⟨other, rfl⟩⟩

end

/-! ### The invariant -/

/-- The check of a run of a lab profile: the switch was on, a grant was in force
    for the Dockyard and the capability, and the target was one host. -/
structure Cleared (u : Unicode) (run_id dockyard : Nat) (profile : Profile) (check : Check) : Prop where
  run : check.run_id = run_id
  dockyard_id : check.dockyard_id = dockyard
  capability : check.capability = profile.capability_id
  enabled : check.enabled = true
  granted : ∃ grant ∈ check.grants, grant.dockyard_id = dockyard ∧ grant.capability = profile.capability_id ∧ grant.status = .active ∧
    check.now < grant.expires_at
  single_host : SingleHost u check.target check.evaluation

/-- What a worker holds for a lab profile was cleared by a check of its own. -/
def Carried (config : Config Result Row) (runs : List Run) (history : List History) (number : Nat) (worker : Worker Result) : Prop :=
  ∀ going, held worker.phase = some going → ∃ run, runs.find? (fun run => run.id = worker.run_id) = some run ∧
    ∀ profile, run_profile run = .ok profile → profile.requires_lab_authorization = true → ∃ check, .checked number check ∈ history ∧
      Cleared config.u run.id run.dockyard_id profile check ∧ going = (check.evaluation, check.target)

/-- A contact for a lab profile was cleared by a check before it. -/
def Justified (config : Config Result Row) (run_id dockyard_id : Nat) (profile : Profile) (number : Nat) (request : Nmap.AdapterRequest)
    (earlier : List History) : Prop :=
  profile.requires_lab_authorization = true → ∃ check, .checked number check ∈ earlier ∧ Cleared config.u run_id dockyard_id profile check ∧
    request = Executions.request (with_profile config profile) check.evaluation check.target

def Contacts (config : Config Result Row) (history : List History) : Prop :=
  ∀ later run_id dockyard_id profile number request earlier,
    history = later ++ .event run_id dockyard_id profile (.contacted number request) :: earlier →
      Justified config run_id dockyard_id profile number request earlier

structure Inv (config : Config Result Row) (w : World Result) : Prop where
  one : OneActive w.grants.rows
  audited : w.audit.map event_decision = w.decisions
  requests : ∀ call ∈ w.requests, ∀ profile run event evaluation, call.stage = .flushed profile run event evaluation →
    event.map event_decision = request_decision profile run evaluation
  workers : ∀ worker ∈ w.workers, worker.event.map event_decision = worker.verdict
  carried : ∀ number, ∀ worker : Worker Result, w.workers[number]? = some worker → Carried config w.runs w.history number worker
  contacts : Contacts config w.history

/-! ### Rows and history -/

/-- The identity of a run stays where its row changes. -/
theorem find_set_row {runs : List Run} {run : Run} {id run_id : Nat} {row : DiscoveryRun}
    (found : runs.find? (fun run => run.id = id) = some run) :
    ∃ row', (set_row runs run_id row).find? (fun run => run.id = id) = some { run with row := row' } := by
  induction runs with
  | nil => cases found
  | cons first runs ih =>
    simp only [set_row, List.map_cons] at ih ⊢
    by_cases here : first.id = id
    · rw [List.find?_cons_of_pos (by simpa using here), Option.some.injEq] at found
      subst found
      rw [List.find?_cons_of_pos (by split <;> simpa using here)]
      split
      · exact ⟨row, rfl⟩
      · exact ⟨first.row, rfl⟩
    · rw [List.find?_cons_of_neg (by simpa using here)] at found
      rw [List.find?_cons_of_neg (by split <;> simpa using here)]
      exact ih found

theorem find_recovered {runs : List Run} {run : Run} {id : Nat} (found : runs.find? (fun run => run.id = id) = some run) :
    ∃ row', (runs.map recovered).find? (fun run => run.id = id) = some { run with row := row' } := by
  have keeps : ∀ run : Run, (recovered run).id = run.id ∧ ∃ row', recovered run = { run with row := row' } := by
    intro run
    unfold recovered
    split
    · exact ⟨rfl, _, rfl⟩
    · exact ⟨rfl, run.row, rfl⟩
  have same : (fun run : Run => decide (run.id = id)) ∘ recovered = fun run => decide (run.id = id) := by
    funext run
    simp [(keeps run).1]
  rw [List.find?_map, same, found]
  obtain ⟨row', is⟩ := (keeps run).2
  exact ⟨row', congrArg some is⟩

theorem Carried.later {runs runs' : List Run} {history : List History} {number : Nat} {worker : Worker Result} (new : List History)
    (carried : Carried config runs history number worker)
    (stable : ∀ run, runs.find? (fun run => run.id = worker.run_id) = some run →
      ∃ row, runs'.find? (fun run => run.id = worker.run_id) = some { run with row := row }) :
    Carried config runs' (new ++ history) number worker := by
  intro going holds
  obtain ⟨run, found, cleared⟩ := carried going holds
  obtain ⟨row, found'⟩ := stable run found
  refine ⟨_, found', fun profile known lab_profile => ?_⟩
  obtain ⟨check, member, clear, same⟩ := cleared profile known lab_profile
  exact ⟨check, List.mem_append_right _ member, clear, same⟩

theorem carried_idle {runs : List Run} {history : List History} {number : Nat} {worker : Worker Result} (idle : held worker.phase = none) :
    Carried config runs history number worker := by
  intro going holds
  rw [idle] at holds
  cases holds

/-- History without a contact leaves the contacts as they are. -/
theorem Contacts.later {history new : List History} (contacts : Contacts config history)
    (quiet : ∀ run_id dockyard_id profile number request, History.event run_id dockyard_id profile (.contacted number request) ∉ new) :
    Contacts config (new ++ history) := by
  intro later run_id dockyard_id profile number request earlier split
  obtain ⟨later', split⟩ := ExecutionClaims.split_before (quiet run_id dockyard_id profile number request) split
  exact contacts later' run_id dockyard_id profile number request earlier split

/-- A contact that is justified by what came before. -/
theorem Contacts.contact {history : List History} {run_id dockyard_id number : Nat} {profile : Profile} {request : Nmap.AdapterRequest}
    (contacts : Contacts config history) (justified : Justified config run_id dockyard_id profile number request history) :
    Contacts config (.event run_id dockyard_id profile (.contacted number request) :: history) := by
  intro later run_id' dockyard_id' profile' number' request' earlier split
  cases later with
  | nil =>
    rw [List.nil_append, List.cons.injEq] at split
    obtain ⟨same, rfl⟩ := split
    cases same
    exact justified
  | cons first later =>
    rw [List.cons_append, List.cons.injEq] at split
    exact contacts later run_id' dockyard_id' profile' number' request' earlier split.2

theorem checked_quiet {w : World Result} {number : Nat} {run : Run} {profile : Profile} {phase : Executions.Phase Result}
    (run_id dockyard_id : Nat) (profile' : Profile) (number' : Nat) (request : Nmap.AdapterRequest) :
    History.event run_id dockyard_id profile' (.contacted number' request) ∉ checked w number run profile phase := by
  cases phase <;> simp [checked]

/-- A decision to go ahead for a lab profile is on record with what it read. -/
theorem decision_checked {w : World Result} {number : Nat} {run : Run} {profile : Profile} {resolver : Resolver} {moved : Moved Result}
    {evaluation : Evaluation} {target : Target} (found : run_profile run = .ok profile) (lab_profile : profile.requires_lab_authorization = true)
    (phase : moved.phase = .approved evaluation target)
    (decided : Executions.decision (with_profile config profile) (w.entries run.dockyard_id) run.row resolver
      (capability_decision w.lab w.now w.grants.rows run.dockyard_id profile.capability_id).toPolicyDecision = .ok (.inr (evaluation, target))) :
    ∃ check, History.checked number check ∈ checked w number run profile moved.phase ∧ Cleared config.u run.id run.dockyard_id profile check ∧
      (evaluation, target) = (check.evaluation, check.target) := by
  obtain ⟨allowed, single⟩ := decision_cleared found lab_profile decided
  obtain ⟨enabled, granted⟩ := capability_decision_allowed allowed
  rw [phase]
  exact ⟨_, List.mem_singleton.mpr rfl, ⟨rfl, rfl, rfl, enabled, granted, single⟩, rfl⟩

theorem inv_work {w w' : World Result} {number : Nat} {worker : Worker Result} {run : Run} {profile : Profile} {act : Act Result}
    (inv : Inv config w) (here : w.workers[number]? = some worker) (found : w.runs.find? (fun run => run.id = worker.run_id) = some run)
    (known : run_profile run = .ok profile) (worked : work config w number worker run profile act = some w') : Inv config w' := by
  obtain ⟨act', moved, worker', ran, workers, same_run, phase, runs, requests, grants, audited, told, history⟩ :=
    work_spec known inv.audited (inv.workers worker (List.mem_of_getElem? here)) worked
  obtain ⟨inside, -⟩ := List.getElem?_eq_some_iff.mp here
  have extended : ∃ extra, w'.history = moved.events.map (.event run.id run.dockyard_id profile) ++ (extra ++ w.history) ∧
      (∀ run_id dockyard_id profile number request, History.event run_id dockyard_id profile (.contacted number request) ∉ extra) := by
    rcases history with ⟨resolver, -, is⟩ | ⟨-, is⟩
    · exact ⟨_, is, checked_quiet⟩
    · exact ⟨[], is, fun _ _ _ _ _ => List.not_mem_nil⟩
  refine ⟨grants ▸ inv.one, audited, requests ▸ inv.requests, fun other member => ?_, fun other_number other there => ?_, ?_⟩
  · rw [workers] at member
    rcases List.mem_or_eq_of_mem_set member with old | rfl
    · exact inv.workers other old
    · exact told
  · rw [workers] at there
    by_cases same : other_number = number
    · subst same
      rw [List.getElem?_set_self inside, Option.some.injEq] at there
      subst there
      intro going holds
      rw [phase] at holds
      rcases move_held ran holds with before | ⟨resolver, policy, decides, decided⟩
      · obtain ⟨extra, is, -⟩ := extended
        rw [is, runs, ← List.append_assoc]
        have later : Carried config (set_row w.runs worker.run_id moved.run)
            (moved.events.map (.event run.id run.dockyard_id profile) ++ extra ++ w.history) other_number worker :=
          (inv.carried other_number worker here).later _ fun run found => find_set_row found
        obtain ⟨run', found', cleared⟩ := later going before
        exact ⟨run', by rw [same_run]; exact found', cleared⟩
      · rcases history with ⟨resolver', is, history⟩ | ⟨never, -⟩
        · rw [decides] at is
          cases is
          subst decides
          have approved : moved.phase = .approved going.1 going.2 := by
            rw [move_decides ran, decided]
            rfl
          obtain ⟨row, found'⟩ := find_set_row found
          refine ⟨_, by rw [runs, same_run]; exact found', fun profile' known' lab_profile => ?_⟩
          have same : profile' = profile := Except.ok.inj (known'.symm.trans known)
          subst same
          obtain ⟨check, member, clear, is⟩ := decision_checked known lab_profile approved decided
          rw [history]
          exact ⟨check, List.mem_append_right _ (List.mem_append_left _ member), clear, is⟩
        · exact absurd decides (never resolver policy)
    · rw [List.getElem?_set_ne (Ne.symm same)] at there
      obtain ⟨extra, is, -⟩ := extended
      rw [is, runs, ← List.append_assoc]
      exact (inv.carried other_number other there).later _ fun run found => find_set_row found
  · obtain ⟨extra, is, quiet⟩ := extended
    rw [is]
    by_cases contacts : ∃ other request, .contacted other request ∈ moved.events
    · obtain ⟨other, request, contacts⟩ := contacts
      obtain ⟨rfl, evaluation, target, admitted, rfl, events⟩ := move_contacts ran contacts
      rw [events]
      refine ((inv.contacts.later quiet).contact fun lab_profile => ?_)
      obtain ⟨run', found', cleared⟩ := inv.carried other worker here (evaluation, target) (by rw [admitted]; rfl)
      rw [found, Option.some.injEq] at found'
      subst found'
      obtain ⟨check, member, clear, same⟩ := cleared profile known lab_profile
      rw [Prod.mk.injEq] at same
      obtain ⟨rfl, rfl⟩ := same
      exact ⟨check, List.mem_append_right _ member, clear, rfl⟩
    · rw [← List.append_assoc]
      refine inv.contacts.later fun run_id dockyard_id profile number request member => ?_
      rcases List.mem_append.mp member with event | old
      · obtain ⟨event, inside, is⟩ := List.mem_map.mp event
        cases is
        exact contacts ⟨_, _, inside⟩
      · exact quiet run_id dockyard_id profile number request old

/-! ### Steps -/

/-- A creation that flushes its run has the event of what it will return. -/
theorem create_event {w w' : World Result} {number : Nat} {call : Request} {creating : Creating}
    (requests : ∀ call ∈ w.requests, ∀ profile run event evaluation, call.stage = .flushed profile run event evaluation →
      event.map event_decision = request_decision profile run evaluation)
    (audited : w.audit.map event_decision = w.decisions) (here : w.requests[number]? = some call)
    (created : create config limits w number call call.stage creating = some w') :
    (∀ call ∈ w'.requests, ∀ profile run event evaluation, call.stage = .flushed profile run event evaluation →
      event.map event_decision = request_decision profile run evaluation) ∧
    w'.audit.map event_decision = w'.decisions ∧ w'.grants = w.grants ∧ w'.workers = w.workers ∧ w'.history = w.history ∧
      ∃ added, w'.runs = w.runs ++ added := by
  have others : ∀ stage, (∀ profile run event evaluation, stage = Stage.flushed profile run event evaluation →
      event.map event_decision = request_decision profile run evaluation) →
      ∀ other ∈ w.requests.set number { call with stage := stage }, ∀ profile run event evaluation,
        other.stage = .flushed profile run event evaluation → event.map event_decision = request_decision profile run evaluation := by
    intro stage flushed other member
    rcases List.mem_or_eq_of_mem_set member with old | rfl
    · exact requests other old
    · exact flushed
  have member := List.mem_of_getElem? here
  have creates := DiscoveryAdmission.create_creates created
  generalize stage_of : call.stage = stage at creates
  cases creates with
  | @insert profile evaluation evaluation' run event decided =>
    refine ⟨others _ fun profile' run' event' evaluation'' flushed => ?_, audited, rfl, rfl, rfl, [], (List.append_nil _).symm⟩
    cases flushed
    have told := lab_request_event w.lab w.now w.grants.rows profile (created_run w.next_run_id call evaluation) evaluation
    rw [decided] at told
    exact told
  | @commit profile run event evaluation =>
    refine ⟨others (.returned run.id evaluation) (fun _ _ _ _ flushed => by cases flushed), ?_, rfl, rfl, rfl, [run], rfl⟩
    show (w.audit ++ event.toList).map event_decision = w.decisions ++ (request_decision profile run evaluation).toList
    rw [List.map_append, audited, ← requests call member profile run event evaluation stage_of]
    cases event <;> rfl
  | @stop stage stage' locked ended =>
    refine ⟨others stage' ?_, audited, rfl, rfl, rfl, [], (List.append_nil _).symm⟩
    rcases ended with ⟨message, rfl⟩ | rfl <;> exact fun _ _ _ _ flushed => by cases flushed
  | acquire => exact ⟨others .locked (fun _ _ _ _ flushed => by cases flushed), audited, rfl, rfl, rfl, [], (List.append_nil _).symm⟩
  | give_up => exact ⟨others .aborted (fun _ _ _ _ flushed => by cases flushed), audited, rfl, rfl, rfl, [], (List.append_nil _).symm⟩
  | permit => exact ⟨others .authorized (fun _ _ _ _ flushed => by cases flushed), audited, rfl, rfl, rfl, [], (List.append_nil _).symm⟩
  | @count adapter profile => exact ⟨others (.counted adapter profile) (fun _ _ _ _ flushed => by cases flushed), audited, rfl, rfl, rfl, [], (List.append_nil _).symm⟩
  | @evaluate adapter profile evaluation =>
    exact ⟨others (.evaluated profile evaluation) (fun _ _ _ _ flushed => by cases flushed), audited, rfl, rfl, rfl, [], (List.append_nil _).symm⟩
  | @limit profile evaluation evaluation' =>
    exact ⟨others (.passed profile evaluation') (fun _ _ _ _ flushed => by cases flushed), audited, rfl, rfl, rfl, [], (List.append_nil _).symm⟩

theorem inv_step {w w' : World Result} {a : Action Result} (inv : Inv config w) (stepped : step config limits w a = some w') :
    Inv config w' := by
  cases a with
  | create_authorization dockyard_id capability_id acknowledgement note duration_minutes =>
    simp only [step] at stepped
    split at stepped
    · cases stepped
      exact inv
    · next created =>
      cases stepped
      refine ⟨one_active_create inv.one created, ?_, inv.requests, inv.workers, inv.carried, inv.contacts⟩
      rw [List.map_append, inv.audited, List.map_singleton, create_authorization_event created]
  | revoke_authorization dockyard_id authorization_id =>
    simp only [step] at stepped
    split at stepped
    · cases stepped
      exact inv
    · next done =>
      cases stepped
      refine ⟨one_active_revoke inv.one done, ?_, inv.requests, inv.workers, inv.carried, inv.contacts⟩
      rw [List.map_append, inv.audited, List.map_singleton, revoke_authorization_event done]
  | request dockyard_id requested_target adapter_name profile_name =>
    cases stepped
    refine ⟨inv.one, inv.audited, fun call member => ?_, inv.workers, inv.carried, inv.contacts⟩
    rcases List.mem_append.mp member with old | new
    · exact inv.requests call old
    · rw [List.mem_singleton.mp new]
      exact fun _ _ _ _ flushed => by cases flushed
  | create number creating =>
    obtain ⟨call, here, created⟩ := Option.bind_eq_some_iff.mp stepped
    obtain ⟨requests, audited, grants, workers, history, added, runs⟩ := create_event inv.requests inv.audited here created
    refine ⟨grants ▸ inv.one, audited, requests, workers ▸ inv.workers, fun other worker there => ?_, history ▸ inv.contacts⟩
    rw [workers] at there
    rw [runs, history]
    refine (inv.carried other worker there).later [] fun run found => ⟨run.row, ?_⟩
    rw [List.find?_append, found]
    rfl
  | execute run_id =>
    cases stepped
    refine ⟨inv.one, inv.audited, inv.requests, fun worker member => ?_, fun number worker there => ?_, inv.contacts⟩
    · rcases List.mem_append.mp member with old | new
      · exact inv.workers worker old
      · rw [List.mem_singleton.mp new]
        rfl
    · rcases Admissions.getElem?_arrive there with old | rfl
      · exact inv.carried number worker old
      · exact carried_idle rfl
  | work number act =>
    obtain ⟨worker, here, rest⟩ := Option.bind_eq_some_iff.mp stepped
    obtain ⟨run, found, worked⟩ := Option.bind_eq_some_iff.mp rest
    split at worked
    · split at worked
      · cases worked
        obtain ⟨inside, -⟩ := List.getElem?_eq_some_iff.mp here
        refine ⟨inv.one, inv.audited, inv.requests, fun other member => ?_, fun other_number other there => ?_, inv.contacts⟩
        · rcases List.mem_or_eq_of_mem_set member with old | rfl
          · exact inv.workers other old
          · exact inv.workers worker (List.mem_of_getElem? here)
        · by_cases same : other_number = number
          · subst same
            rw [List.getElem?_set_self inside, Option.some.injEq] at there
            subst there
            exact carried_idle rfl
          · rw [List.getElem?_set_ne (Ne.symm same)] at there
            exact inv.carried other_number other there
      · cases worked
    · next profile known => exact inv_work inv here found known worked
  | restart =>
    cases stepped
    refine ⟨inv.one, inv.audited, fun call member profile run event evaluation flushed => ?_, fun worker member => ?_,
      fun number worker there => ?_, inv.contacts⟩
    · obtain ⟨before, -, rfl⟩ := List.mem_map.mp member
      have idle : DiscoveryAdmission.Stage.locked before.stage.cut = false := DiscoveryAdmission.cut_idle
      rw [show before.stage.cut = .flushed profile run event evaluation from flushed] at idle
      cases idle
    · obtain ⟨before, -, rfl⟩ := List.mem_map.mp member
      rfl
    · obtain ⟨before, -, rfl⟩ := List.mem_map.mp (List.mem_of_getElem? there)
      exact carried_idle rfl
  | _ =>
    cases stepped
    exact ⟨inv.one, inv.audited, inv.requests, inv.workers, inv.carried, inv.contacts⟩

def creation : List Creating := [.acquire, .authorize true, .count, .evaluate fun _ => .ok [], .limit, .insert, .commit]

def execution : List (Act Unit) :=
  [.call, .read, .claim, .authorize true, .decide (fun _ => .ok []) ⟨false, []⟩, .refresh, .admission true, .contact]

/-- A grant, a request of the lab profile, and its execution up to the contact. -/
def lab_run : List (Action Unit) :=
  .switch true :: .edit 1 [ScopeRevocation.hostEntry] :: .create_authorization 1 EXTENDED_SERVICE_DISCOVERY LAB_ACKNOWLEDGEMENT [] 5 ::
    .request 1 "10.0.0.1".toList "nmap".toList Nmap.LAB_EXTENDED_SERVICE_DISCOVERY ::
    (creation.map (Action.create 0) ++ .tick :: .execute 1 :: execution.map (Action.work 0))

/-- The decision that allows the lab run. -/
def allowed_once (action : LabAction) : LabDecision := ⟨1, EXTENDED_SERVICE_DISCOVERY, action, true, some 1⟩

/-- The newest entry of the history is a contact. -/
def contacted (history : List History) : Bool :=
  match history with
  | .event _ _ profile (.contacted _ _) :: _ => profile.requires_lab_authorization
  | _ => false

end RedDock.LabGate
