import RedDock.AuditPages
import RedDock.Discovery

/-!
# Who a discovery is executed for

A discovery is requested by one process and executed later by another. All that
passes between them is the key of a security event, the receipt of the request.
Any number of workers are submitted here with any keys, while the rest of the
server changes the team, the workspaces and the rows of the runs. An
authorization is one transaction, from what it reads to its commit.
-/
set_option autoImplicit false
namespace RedDock.ExecutionAuthority
open Text Transactions Team
open AuditPages (AuditEvent)
open Discovery (RunStatus)
open TeamAudit (Holds)
open TeamInvariants (opened)

/-! ### The tables -/

/-- A workspace, and the organization that it belongs to. -/
structure Dockyard where
  id : Nat
  organization_id : Nat
  deriving DecidableEq

structure DiscoveryRun where
  id : Nat
  dockyard_id : Nat
  status : RunStatus
  decision : Decision
  decision_reason : Text
  deriving DecidableEq

def DISCOVERY_REQUEST : Text := "discovery.request".toList
def DISCOVERY_EXECUTE : Text := "discovery.execute".toList
def SUCCESS : Text := "success".toList
def DENIED : Text := "denied".toList
def DISCOVERY_RUN : Text := "discovery_run".toList

/-- An event about a row. -/
def security_event (organization_id : Nat) (actor : Option AuthorizationContext) (action outcome target_type : Text) (target_id : Nat)
    (reason_code : Text) (id : Nat) : AuditEvent where
  id := id
  organization_id := organization_id
  actor_user_id := actor.map (·.user_id)
  actor_membership_id := actor.map (·.membership_id)
  actor_role := actor.map (·.role)
  action := action
  outcome := outcome
  target_type := some target_type
  target_id := some (dec target_id)
  reason_code := some reason_code
  request_id := none
  created_at := 0

/-! ### The functions -/

section
variable (store : Store) (policy : WorkflowExecutionPolicy)

/-- `append_security_event` for a row. -/
def append_security_event (organization_id : Nat) (actor : Option AuthorizationContext) (action outcome target_type : Text) (target_id : Nat)
    (reason_code : Text) (id : Nat) : Tx AuditEvent :=
  if actor.any (·.organization_id ≠ organization_id) || !BOUNDED_IDENTIFIER (dec target_id) then raise .valueError
  else read store.fails fun _ => security_event organization_id actor action outcome target_type target_id reason_code id

/-- Who may do something in a workspace. -/
def workspace_actor (dockyards : List Dockyard) (dockyard_id : Nat) (authorization : AuthorizationContext) (permission : Permission) :
    Tx (Option AuthorizationContext) := do
  let listed ← read store.fails fun _ => dockyards.any fun dockyard =>
    decide (dockyard.id = dockyard_id ∧ dockyard.organization_id = authorization.organization_id)
  if listed then
    current_workflow_actor store policy authorization.organization_id (some authorization.user_id) (some authorization.membership_id)
      permission
  else return none

/-- `_create_run`, of a run whose decision was made: the receipt of the request. -/
def create_run (dockyards : List Dockyard) (dockyard_id : Nat) (authorization : AuthorizationContext) (decision : Decision)
    (run_id id : Nat) : Tx AuditEvent := do
  let actor ← workspace_actor store policy dockyards dockyard_id authorization .workflow_run
  actor.elim (raise .denied) fun actor => do
    let event ← append_security_event store actor.organization_id (some actor) DISCOVERY_REQUEST
      (if decision = .allowed then SUCCESS else DENIED) DISCOVERY_RUN run_id
      (if decision = .allowed then "discovery_admitted".toList else "scope_or_policy_denied".toList) id
    commit store.fails
    return event

/-- The receipt of a run in an organization. -/
def receipt (log : List AuditEvent) (request_event_id run_id organization_id : Nat) : Option AuditEvent :=
  log.find? fun event => event.id = request_event_id ∧ event.organization_id = organization_id ∧ event.action = DISCOVERY_REQUEST ∧
    event.outcome = SUCCESS ∧ event.target_type = some DISCOVERY_RUN ∧ event.target_id = some (dec run_id)

def discovery_execution_actor (log : List AuditEvent) (request_event_id run_id organization_id : Nat) : Tx (Option AuthorizationContext) := do
  let event ← read store.fails fun _ => receipt log request_event_id run_id organization_id
  event.elim (pure none) fun event =>
    current_workflow_actor store policy organization_id event.actor_user_id event.actor_membership_id .workflow_run

/-- What `_authorize_execution` leaves to commit. -/
structure Answer where
  actor : Option AuthorizationContext
  events : List AuditEvent

/-- `_authorize_execution`, and the commit after it. -/
def authorize_execution (dockyards : List Dockyard) (log : List AuditEvent) (run : DiscoveryRun) (request_event_id : Nat) (final : Bool)
    (id : Nat) : Tx Answer := do
  let organization_id ← read store.fails fun _ => (dockyards.find? (·.id = run.dockyard_id)).map (·.organization_id)
  let answer ← organization_id.elim (pure { actor := none, events := [] }) fun organization_id => do
    let actor ← discovery_execution_actor store policy log request_event_id run.id organization_id
    if actor.isNone || final then
      let event ← append_security_event store organization_id actor DISCOVERY_EXECUTE (if actor.isSome then SUCCESS else DENIED)
        DISCOVERY_RUN run.id (if actor.isSome then "execution_admitted".toList else "execution_authorization_denied".toList) id
      return { actor := actor, events := [event] }
    else return { actor := actor, events := [] }
  commit store.fails
  return answer

end

def DiscoveryRun.denied (run : DiscoveryRun) : DiscoveryRun :=
  { run with status := .denied, decision := .denied_policy, decision_reason := "Execution authorization denied".toList }

/-! ### The system -/

/-- Where a worker stands: with its run and the key it was submitted with, or
    with the actor of its final authorization. -/
inductive Phase
  | idle
  | submitted (run_id request_event_id : Nat)
  | claimed (run_id request_event_id : Nat)
  | authorized (run_id request_event_id : Nat)
  | approved (run_id request_event_id : Nat)
  | admitted (run_id : Nat) (actor : AuthorizationContext)
  | finished

/-- An adapter that was run, and who for. -/
structure Contact where
  run_id : Nat
  actor : AuthorizationContext

structure State where
  tables : Database
  dockyards : List Dockyard
  runs : List DiscoveryRun := []
  log : List AuditEvent := []
  workers : Nat → Phase := fun _ => .idle
  contacts : List Contact := []

/-- What happens; a worker that raises, and one whose run is denied or ends, is
    finished, and what it writes to its run then is among the changes of the others. -/
inductive Action
  | others (tables : Database) (dockyards : List Dockyard) (runs : List DiscoveryRun) (events : List AuditEvent)
  | request (store : Store) (authorization : AuthorizationContext) (dockyard_id : Nat) (decision : Decision) (decision_reason : Text)
      (run_id event_id : Nat)
  | submit (worker run_id request_event_id : Nat)
  | claim (worker : Nat)
  | authorize (worker : Nat) (store : Store) (event_id : Nat)
  | approve (worker : Nat)
  | admission (worker : Nat) (store : Store) (event_id : Nat)
  | contact (worker : Nat)
  | finish (worker : Nat)

def State.standing (s : State) (worker : Nat) (phase : Phase) : State := { s with workers := Function.update s.workers worker phase }

/-- A run and its receipt. -/
def State.requested (s : State) (dockyard_id : Nat) (decision : Decision) (decision_reason : Text) (run_id : Nat) (event : AuditEvent) : State :=
  { s with
    runs := s.runs ++ [{
      id := run_id
      dockyard_id := dockyard_id
      status := if decision = .allowed then .pending else .denied
      decision := decision
      decision_reason := decision_reason.take 500 }]
    log := s.log ++ [event] }

/-- What an answer does to the run and its worker. -/
def State.answered (s : State) (worker : Nat) (run_id : Nat) (answer : Answer) (next : AuthorizationContext → Phase) : State :=
  answer.actor.elim
    { s.standing worker .finished with
      runs := KeyedRows.update DiscoveryRun.id run_id DiscoveryRun.denied s.runs
      log := s.log ++ answer.events }
    fun actor => { s.standing worker (next actor) with log := s.log ++ answer.events }

/-- A worker asks for the authority of its run, and is finished when that raises. -/
def State.ask (policy : WorkflowExecutionPolicy) (s : State) (worker run_id request_event_id : Nat) (store : Store) (final : Bool)
    (event_id : Nat) (next : AuthorizationContext → Phase) : Option State :=
  (s.runs.find? (·.id = run_id)).bind fun run =>
    if final = true ∧ run.status ≠ .running then some (s.standing worker .finished)
    else some ((authorize_execution store policy s.dockyards s.log run request_event_id final event_id (opened s.tables)).1.toOption.elim
      (s.standing worker .finished) fun answer => s.answered worker run.id answer next)

def step (policy : WorkflowExecutionPolicy) (s : State) : Action → Option State
  | .others tables dockyards runs events =>
    if runs.map DiscoveryRun.id = s.runs.map DiscoveryRun.id ∧
        ∀ event ∈ events, event.action ≠ DISCOVERY_REQUEST ∧ event.action ≠ DISCOVERY_EXECUTE then
      some { s with tables := tables, dockyards := dockyards, runs := runs, log := s.log ++ events }
    else none
  | .request store authorization dockyard_id decision decision_reason run_id event_id =>
    if run_id ∉ s.runs.map DiscoveryRun.id then
      (create_run store policy s.dockyards dockyard_id authorization decision run_id event_id (opened s.tables)).1.toOption.map
        (s.requested dockyard_id decision decision_reason run_id)
    else none
  | .submit worker run_id request_event_id =>
    match s.workers worker with
    | .idle => some (s.standing worker (.submitted run_id request_event_id))
    | _ => none
  | .claim worker =>
    match s.workers worker with
    | .submitted run_id request_event_id =>
      if s.runs.any fun run => decide (run.id = run_id ∧ run.status = .pending) then
        some { s.standing worker (.claimed run_id request_event_id) with
          runs := KeyedRows.update DiscoveryRun.id run_id (fun run => { run with status := .running }) s.runs }
      else some (s.standing worker .finished)
    | _ => none
  | .authorize worker store event_id =>
    match s.workers worker with
    | .claimed run_id request_event_id =>
      s.ask policy worker run_id request_event_id store false event_id fun _ => .authorized run_id request_event_id
    | _ => none
  | .approve worker =>
    match s.workers worker with
    | .authorized run_id request_event_id => some (s.standing worker (.approved run_id request_event_id))
    | _ => none
  | .admission worker store event_id =>
    match s.workers worker with
    | .approved run_id request_event_id => s.ask policy worker run_id request_event_id store true event_id (.admitted run_id)
    | _ => none
  | .contact worker =>
    match s.workers worker with
    | .admitted run_id actor => some { s.standing worker .finished with contacts := s.contacts ++ [{ run_id := run_id, actor := actor }] }
    | _ => none
  | .finish worker => some (s.standing worker .finished)

/-! ### What an authorization answers -/

/-- The receipt of a run is its requester's. -/
structure Receipt (run_id : Nat) (actor : AuthorizationContext) (event : AuditEvent) : Prop where
  action : event.action = DISCOVERY_REQUEST
  outcome : event.outcome = SUCCESS
  target_id : event.target_id = some (dec run_id)
  organization_id : event.organization_id = actor.organization_id
  actor_user_id : event.actor_user_id = some actor.user_id
  actor_membership_id : event.actor_membership_id = some actor.membership_id

/-- An event that a member with the permission is the actor of. -/
structure Authorized (tables : Database) (event : AuditEvent) : Prop where
  held : ∃ actor, Holds actor .workflow_run tables ∧ event.organization_id = actor.organization_id ∧
    event.actor_user_id = some actor.user_id ∧ event.actor_membership_id = some actor.membership_id ∧ event.actor_role = some actor.role

/-- The event of a final authorization. -/
def admission_event (run_id : Nat) (actor : AuthorizationContext) (id : Nat) : AuditEvent :=
  security_event actor.organization_id (some actor) DISCOVERY_EXECUTE SUCCESS DISCOVERY_RUN run_id "execution_admitted".toList id

section Answers
variable {store : Store} {policy : WorkflowExecutionPolicy} {s t : Session Database} {actor : AuthorizationContext}

theorem event_authorized {tables : Database} {action outcome target_type reason_code : Text} {target_id id : Nat}
    (holds : Holds actor .workflow_run tables) :
    Authorized tables (security_event actor.organization_id (some actor) action outcome target_type target_id reason_code id) :=
  ⟨actor, holds, rfl, rfl, rfl, rfl⟩

theorem actor_named {organization_id : Nat} {user_id membership_id : Option Nat} {permission : Permission}
    (ran : current_workflow_actor store policy organization_id user_id membership_id permission s = (.ok (some actor), t)) :
    Holds actor permission s.working ∧ actor.organization_id = organization_id ∧ user_id = some actor.user_id ∧
      membership_id = some actor.membership_id := by
  cases user_id with
  | none => cases ran
  | some user_id =>
    cases membership_id with
    | none => cases ran
    | some membership_id =>
      obtain ⟨holds, inside⟩ := TeamAudit.actor_holds ran
      refine ⟨holds, inside, ?_⟩
      simp only [current_workflow_actor] at ran
      split at ran
      · cases ran
      · obtain ⟨found, s₁, _, rest⟩ := bind_ok.mp ran
        cases found with
        | none => cases rest
        | some found =>
          simp only at rest
          split at rest
          · cases rest
            exact ⟨rfl, rfl⟩
          · cases rest

theorem workspace_actor_holds {dockyards : List Dockyard} {dockyard_id : Nat} {authorization : AuthorizationContext} {permission : Permission}
    (ran : workspace_actor store policy dockyards dockyard_id authorization permission s = (.ok (some actor), t)) :
    Holds actor permission s.working ∧ ∃ dockyard ∈ dockyards, dockyard.id = dockyard_id ∧ dockyard.organization_id = actor.organization_id := by
  obtain ⟨listed, s₁, looked, rest⟩ := bind_ok.mp ran
  obtain ⟨found, same, _⟩ := read_ok looked
  split at rest
  · rename_i owned
    obtain ⟨dockyard, inside, is⟩ := List.any_eq_true.mp (found ▸ owned)
    obtain ⟨holds, here, _⟩ := actor_named rest
    have both := of_decide_eq_true is
    exact ⟨same ▸ holds, dockyard, inside, both.1, both.2.trans here.symm⟩
  · cases rest

theorem receipt_found {log : List AuditEvent} {request_event_id run_id organization_id : Nat} {event : AuditEvent}
    (found : receipt log request_event_id run_id organization_id = some event) :
    event ∈ log ∧ event.organization_id = organization_id ∧ event.action = DISCOVERY_REQUEST ∧ event.outcome = SUCCESS ∧
      event.target_id = some (dec run_id) := by
  have is := List.find?_some found
  simp only [decide_eq_true_eq] at is
  exact ⟨List.mem_of_find?_eq_some found, is.2.1, is.2.2.1, is.2.2.2.1, is.2.2.2.2.2⟩

theorem execution_actor_holds {log : List AuditEvent} {request_event_id run_id organization_id : Nat}
    (ran : discovery_execution_actor store policy log request_event_id run_id organization_id s = (.ok (some actor), t)) :
    Holds actor .workflow_run s.working ∧ actor.organization_id = organization_id ∧ ∃ event ∈ log, Receipt run_id actor event := by
  obtain ⟨found, s₁, looked, rest⟩ := bind_ok.mp ran
  obtain ⟨is, same, _⟩ := read_ok looked
  cases found with
  | none => cases rest
  | some event =>
    obtain ⟨holds, inside, user_id, membership_id⟩ := actor_named rest
    obtain ⟨listed, organization, action, outcome, target⟩ := receipt_found is.symm
    exact ⟨same ▸ holds, inside, event, listed, action, outcome, target, organization.trans inside.symm, user_id, membership_id⟩

theorem append_event_ok {organization_id target_id id : Nat} {by_whom : Option AuthorizationContext}
    {action outcome target_type reason_code : Text} {event : AuditEvent}
    (ran : append_security_event store organization_id by_whom action outcome target_type target_id reason_code id s = (.ok event, t)) :
    event = security_event organization_id by_whom action outcome target_type target_id reason_code id := by
  unfold append_security_event at ran
  split at ran
  · cases ran
  · exact (read_ok ran).1

/-- A receipt is of a member who may request the run. -/
theorem create_run_ok {dockyards : List Dockyard} {dockyard_id run_id id : Nat} {authorization : AuthorizationContext} {decision : Decision}
    {event : AuditEvent} (ran : create_run store policy dockyards dockyard_id authorization decision run_id id s = (.ok event, t)) :
    event.target_id = some (dec run_id) ∧ Authorized s.working event := by
  obtain ⟨found, s₁, resolved, rest⟩ := bind_ok.mp ran
  cases found with
  | none => cases rest
  | some actor =>
    obtain ⟨appended, s₂, appending, rest⟩ := bind_ok.mp rest
    obtain ⟨_, s₃, _, rest⟩ := bind_ok.mp rest
    cases rest
    rw [append_event_ok appending]
    exact ⟨rfl, event_authorized (workspace_actor_holds resolved).1⟩

/-- An answer with an actor is that of a receipt, and an admission is recorded
    when it is final; an answer without one admits nothing. -/
theorem authorize_execution_ok {dockyards : List Dockyard} {log : List AuditEvent} {run : DiscoveryRun} {request_event_id id : Nat}
    {final : Bool} {answer : Answer}
    (ran : authorize_execution store policy dockyards log run request_event_id final id s = (.ok answer, t)) :
    (∀ event ∈ answer.events, event.action = DISCOVERY_EXECUTE ∧ (event.outcome = SUCCESS → Authorized s.working event)) ∧
      ∀ actor ∈ answer.actor, (∃ event ∈ log, Receipt run.id actor event) ∧ (final = true → answer.events = [admission_event run.id actor id]) := by
  obtain ⟨organization_id, s₁, looked, rest⟩ := bind_ok.mp ran
  obtain ⟨_, same, _⟩ := read_ok looked
  obtain ⟨found, s₂, answering, rest⟩ := bind_ok.mp rest
  obtain ⟨_, s₃, _, rest⟩ := bind_ok.mp rest
  cases rest
  cases organization_id with
  | none =>
    cases answering
    exact ⟨by simp, by simp⟩
  | some organization_id =>
    obtain ⟨resolved, s₄, resolving, recording⟩ := bind_ok.mp answering
    cases resolved with
    | none =>
      simp only [Option.isNone_none, Bool.true_or, if_true, Option.isSome_none, Bool.false_eq_true, if_false] at recording
      obtain ⟨event, s₅, appended, rest⟩ := bind_ok.mp recording
      cases rest
      rw [append_event_ok appended]
      refine ⟨fun event listed => ?_, by simp⟩
      rw [List.mem_singleton.mp listed]
      exact ⟨rfl, fun success => absurd success (show DENIED ≠ SUCCESS by decide)⟩
    | some actor =>
      obtain ⟨holds, inside, receipt⟩ := execution_actor_holds resolving
      rw [same] at holds
      simp only [Option.isNone_some, Bool.false_or, Option.isSome_some, if_true] at recording
      split at recording
      · obtain ⟨event, s₅, appended, rest⟩ := bind_ok.mp recording
        cases rest
        rw [append_event_ok appended, ← inside]
        refine ⟨fun event listed => ?_, fun other is => ?_⟩
        · rw [List.mem_singleton.mp listed]
          exact ⟨rfl, fun _ => event_authorized holds⟩
        · cases is
          exact ⟨receipt, fun _ => rfl⟩
      · rename_i early
        cases recording
        refine ⟨by simp, fun other is => ?_⟩
        cases is
        exact ⟨receipt, fun late => absurd late early⟩

end Answers

/-! ### What holds of the system -/

/-- The run was admitted for the actor, after a receipt of theirs. -/
def Admitted (log : List AuditEvent) (run_id : Nat) (actor : AuthorizationContext) : Prop :=
  ∃ before event_id after, log = before ++ admission_event run_id actor event_id :: after ∧ ∃ event ∈ before, Receipt run_id actor event

theorem Admitted.grow {log : List AuditEvent} {run_id : Nat} {actor : AuthorizationContext} (admitted : Admitted log run_id actor)
    (block : List AuditEvent) : Admitted (log ++ block) run_id actor := by
  obtain ⟨before, event_id, after, rfl, receipt⟩ := admitted
  exact ⟨before, event_id, after ++ block, by rw [List.append_assoc, List.cons_append], receipt⟩

/-- No two of the events are requests of one run. -/
def Apart (one other : AuditEvent) : Prop :=
  one.action = DISCOVERY_REQUEST → other.action = DISCOVERY_REQUEST → one.target_id ≠ other.target_id

structure Inv (s : State) : Prop where
  requests : ∀ event ∈ s.log, event.action = DISCOVERY_REQUEST → ∃ run_id ∈ s.runs.map DiscoveryRun.id, event.target_id = some (dec run_id)
  single : s.log.Pairwise Apart
  workers : ∀ worker run_id actor, s.workers worker = .admitted run_id actor → Admitted s.log run_id actor
  contacts : ∀ contact ∈ s.contacts, Admitted s.log contact.run_id contact.actor

/-- What a step adds to the log: requests and admissions of members who may. -/
def Grows (s next : State) : Prop :=
  ∃ block, next.log = s.log ++ block ∧ ∀ event ∈ block, event.outcome = SUCCESS →
    event.action = DISCOVERY_REQUEST ∨ event.action = DISCOVERY_EXECUTE → Authorized s.tables event

section Steps
variable {policy : WorkflowExecutionPolicy} {s next : State}

theorem Inv.quiet_log (inv : Inv s) {block : List AuditEvent} (quiet : ∀ event ∈ block, event.action ≠ DISCOVERY_REQUEST) :
    (∀ event ∈ s.log ++ block, event.action = DISCOVERY_REQUEST →
      ∃ run_id ∈ s.runs.map DiscoveryRun.id, event.target_id = some (dec run_id)) ∧ (s.log ++ block).Pairwise Apart := by
  refine ⟨fun event listed requests => ?_, List.pairwise_append.mpr ⟨inv.single, ?_, ?_⟩⟩
  · rcases List.mem_append.mp listed with before | new
    · exact inv.requests event before requests
    · exact absurd requests (quiet event new)
  · exact List.pairwise_of_forall_mem_list fun one listed _ _ requests => absurd requests (quiet one listed)
  · intro one _ other new _ requests
    exact absurd requests (quiet other new)

/-- A worker that moves without a receipt of its own. -/
theorem Inv.standing (inv : Inv s) {worker : Nat} {phase : Phase}
    (admits : ∀ run_id actor, phase = .admitted run_id actor → Admitted s.log run_id actor) : Inv (s.standing worker phase) where
  requests := inv.requests
  single := inv.single
  workers := fun other run_id actor stands => by
    by_cases here : other = worker
    · simp only [State.standing, here, Function.update_self] at stands
      exact admits run_id actor stands
    · simp only [State.standing, Function.update_of_ne here] at stands
      exact inv.workers other run_id actor stands
  contacts := inv.contacts

theorem grows_none (same : next.log = s.log) : Grows s next := ⟨[], by rw [same, List.append_nil], by simp⟩

theorem inv_runs (inv : Inv s) {runs : List DiscoveryRun} (ids : runs.map DiscoveryRun.id = s.runs.map DiscoveryRun.id) :
    Inv { s with runs := runs } where
  requests := ids.symm ▸ inv.requests
  single := inv.single
  workers := inv.workers
  contacts := inv.contacts

/-- Events that request nothing leave the invariant. -/
theorem inv_log (inv : Inv s) {block : List AuditEvent} (quiet : ∀ event ∈ block, event.action ≠ DISCOVERY_REQUEST) :
    Inv { s with log := s.log ++ block } where
  requests := (inv.quiet_log quiet).1
  single := (inv.quiet_log quiet).2
  workers := fun worker run_id actor stands => (inv.workers worker run_id actor stands).grow block
  contacts := fun contact listed => (inv.contacts contact listed).grow block

theorem denied_ids (run_id : Nat) (runs : List DiscoveryRun) :
    (KeyedRows.update DiscoveryRun.id run_id DiscoveryRun.denied runs).map DiscoveryRun.id = runs.map DiscoveryRun.id :=
  KeyedRows.update_keys fun _ => rfl

/-- An authorization of a worker keeps what holds. -/
theorem ask_step (inv : Inv s) {worker run_id request_event_id event_id : Nat} {store : Store} {final : Bool}
    {phase : AuthorizationContext → Phase}
    (admits : ∀ actor id who, phase actor = .admitted id who → final = true ∧ id = run_id ∧ who = actor)
    (stepped : s.ask policy worker run_id request_event_id store final event_id phase = some next) : Inv next ∧ Grows s next := by
  have stopped : Inv (s.standing worker .finished) ∧ Grows s (s.standing worker .finished) :=
    ⟨inv.standing (by simp), grows_none rfl⟩
  obtain ⟨run, found, rest⟩ := Option.bind_eq_some_iff.mp stepped
  have named : run.id = run_id := by simpa using List.find?_some found
  split at rest
  · cases rest
    exact stopped
  rcases ran : authorize_execution store policy s.dockyards s.log run request_event_id final event_id (opened s.tables) with ⟨raised | answer, t⟩
  · rw [ran] at rest
    cases rest
    exact stopped
  · rw [ran] at rest
    cases rest
    obtain ⟨events, actors⟩ := authorize_execution_ok ran
    have quiet : ∀ event ∈ answer.events, event.action ≠ DISCOVERY_REQUEST := fun event listed => by
      rw [(events event listed).1]
      decide
    have grown : ∀ event ∈ answer.events, event.outcome = SUCCESS →
        event.action = DISCOVERY_REQUEST ∨ event.action = DISCOVERY_EXECUTE → Authorized s.tables event :=
      fun event listed success _ => (events event listed).2 success
    simp only [Except.toOption, Option.elim_some, State.answered]
    cases answered : answer.actor with
    | none => exact ⟨inv_log (inv_runs stopped.1 (denied_ids run.id s.runs)) quiet, answer.events, rfl, grown⟩
    | some actor =>
      obtain ⟨receipt, recorded⟩ := actors actor answered
      refine ⟨⟨(inv.quiet_log quiet).1, (inv.quiet_log quiet).2, fun other id who stands => ?_,
        fun contact listed => (inv.contacts contact listed).grow _⟩, answer.events, rfl, grown⟩
      by_cases here : other = worker
      · simp only [Option.elim_some, State.standing, here, Function.update_self] at stands
        obtain ⟨last, rfl, rfl⟩ := admits actor id who stands
        exact ⟨s.log, event_id, [], by rw [← named, ← recorded last]; rfl, named ▸ receipt⟩
      · simp only [Option.elim_some, State.standing, Function.update_of_ne here] at stands
        exact (inv.workers other id who stands).grow _

/-- A request of a new run keeps what holds. -/
theorem request_step (inv : Inv s) {dockyard_id run_id : Nat} {decision : Decision} {decision_reason : Text} {event : AuditEvent}
    (fresh : run_id ∉ s.runs.map DiscoveryRun.id) (target : event.target_id = some (dec run_id)) (authorized : Authorized s.tables event) :
    Inv (s.requested dockyard_id decision decision_reason run_id event) ∧
      Grows s (s.requested dockyard_id decision decision_reason run_id event) := by
  refine ⟨⟨fun other listed requests => ?_, ?_, ?_, ?_⟩, _, rfl, fun other listed _ _ => ?_⟩
  · simp only [State.requested, List.map_append, List.map_singleton]
    rcases List.mem_append.mp listed with before | new
    · obtain ⟨earlier, inside, is⟩ := inv.requests other before requests
      exact ⟨earlier, List.mem_append_left _ inside, is⟩
    · rw [List.mem_singleton.mp new]
      exact ⟨run_id, List.mem_append_right _ (List.mem_singleton_self _), target⟩
  · refine List.pairwise_append.mpr ⟨inv.single, List.pairwise_singleton _ _, fun one before other new requests _ same => ?_⟩
    -- an earlier request of this run would be one of a run that exists
    obtain ⟨earlier, inside, is⟩ := inv.requests one before requests
    rw [List.mem_singleton.mp new, is, target] at same
    exact fresh (Function.LeftInverse.injective ofDec_dec (Option.some.inj same) ▸ inside)
  · exact fun worker id who stands => (inv.workers worker id who stands).grow _
  · exact fun contact listed => (inv.contacts contact listed).grow _
  · rw [List.mem_singleton.mp listed]
    exact authorized

theorem inv_step {action : Action} (inv : Inv s) (stepped : step policy s action = some next) : Inv next ∧ Grows s next := by
  cases action with
  | others tables dockyards runs events =>
    simp only [step] at stepped
    split at stepped
    · rename_i quiet
      cases stepped
      have kept := inv_log (inv_runs inv quiet.1) fun event listed => (quiet.2 event listed).1
      refine ⟨⟨kept.requests, kept.single, kept.workers, kept.contacts⟩, events, rfl, fun event listed _ which => ?_⟩
      exact absurd which (not_or.mpr (quiet.2 event listed))
    · cases stepped
  | request store authorization dockyard_id decision decision_reason run_id event_id =>
    simp only [step] at stepped
    split at stepped
    · rename_i fresh
      rcases ran : create_run store policy s.dockyards dockyard_id authorization decision run_id event_id (opened s.tables) with ⟨raised | event, t⟩
      · rw [ran] at stepped
        cases stepped
      · rw [ran] at stepped
        cases stepped
        obtain ⟨target, authorized⟩ := create_run_ok ran
        exact request_step inv fresh target authorized
    · cases stepped
  | submit worker run_id request_event_id =>
    simp only [step] at stepped
    split at stepped
    · cases stepped
      exact ⟨inv.standing (by simp), grows_none rfl⟩
    · cases stepped
  | claim worker =>
    simp only [step] at stepped
    split at stepped
    · split at stepped
      · cases stepped
        refine ⟨inv_runs (inv.standing (by simp)) ?_, grows_none rfl⟩
        exact KeyedRows.update_keys fun _ => rfl
      · cases stepped
        exact ⟨inv.standing (by simp), grows_none rfl⟩
    · cases stepped
  | authorize worker store event_id =>
    simp only [step] at stepped
    split at stepped
    · exact ask_step inv (fun _ _ _ is => by cases is) stepped
    · cases stepped
  | approve worker =>
    simp only [step] at stepped
    split at stepped
    · cases stepped
      exact ⟨inv.standing (by simp), grows_none rfl⟩
    · cases stepped
  | admission worker store event_id =>
    simp only [step] at stepped
    split at stepped
    · refine ask_step inv (fun actor id who is => ?_) stepped
      cases is
      exact ⟨rfl, rfl, rfl⟩
    · cases stepped
  | contact worker =>
    simp only [step] at stepped
    split at stepped
    · rename_i run_id actor stands
      cases stepped
      have kept : Inv (s.standing worker .finished) := inv.standing (by simp)
      refine ⟨⟨kept.requests, kept.single, kept.workers, fun contact listed => ?_⟩, grows_none rfl⟩
      rcases List.mem_append.mp listed with before | new
      · exact inv.contacts contact before
      · rw [List.mem_singleton.mp new]
        exact inv.workers worker run_id actor stands
    · cases stepped
  | finish worker =>
    cases stepped
    exact ⟨inv.standing (by simp), grows_none rfl⟩

/-- The only request of a run. -/
theorem Inv.only_request (inv : Inv s) {event other : AuditEvent} (listed : event ∈ s.log) (inside : other ∈ s.log)
    (requests : event.action = DISCOVERY_REQUEST) (asks : other.action = DISCOVERY_REQUEST) (same : other.target_id = event.target_id) :
    other = event := by
  by_contra apart
  have : Std.Symm Apart := ⟨fun _ _ apart first second => (apart second first).symm⟩
  exact inv.single.forall inside listed apart asks requests same

/-- Whatever keys the workers are submitted with, and whatever the server
    changes meanwhile: an adapter is run only for an actor whom an event before
    admits for that run, and who is the actor of the only request of it; and each
    request that is granted and each admission is recorded in a commit whose
    tables show its actor to hold the permission. -/
theorem contacts_authorized (tables : Database) (dockyards : List Dockyard) :
    Runs.Always (step policy) { tables := tables, dockyards := dockyards } fun s =>
      (∀ contact ∈ s.contacts, ∃ before event_id after,
        s.log = before ++ admission_event contact.run_id contact.actor event_id :: after ∧
          ∃ event ∈ before, Receipt contact.run_id contact.actor event ∧
            ∀ other ∈ s.log, other.action = DISCOVERY_REQUEST → other.target_id = event.target_id → other = event) ∧
      ∀ action next, step policy s action = some next → ∃ block, next.log = s.log ++ block ∧ ∀ event ∈ block, event.outcome = SUCCESS →
        event.action = DISCOVERY_REQUEST ∨ event.action = DISCOVERY_EXECUTE → Authorized s.tables event := by
  refine Runs.always_of_invariant Inv (fun _ _ _ inv stepped => (inv_step inv stepped).1) ?_ fun s inv =>
    ⟨fun contact listed => ?_, fun _ _ stepped => (inv_step inv stepped).2⟩
  · exact ⟨by simp, List.Pairwise.nil, fun _ _ _ is => (by cases is), by simp⟩
  · obtain ⟨before, event_id, after, is, event, earlier, receipt⟩ := inv.contacts contact listed
    refine ⟨before, event_id, after, is, event, earlier, receipt, fun other inside asks same => ?_⟩
    exact inv.only_request (is ▸ List.mem_append_left _ earlier) inside receipt.action asks same

end Steps

/-- The operator of the local installation. -/
def operator : AuthorizationContext := { organization_id := 1, user_id := 1, membership_id := 1, role := .owner }

example : ((Runs.run (step LOCAL_WORKFLOW_POLICY)
    { tables := TeamInvariants.localTables, dockyards := [{ id := 1, organization_id := 1 }] }
    [.request TeamInvariants.plainStore operator 1 .allowed [] 5 8, .submit 0 5 8, .claim 0, .authorize 0 TeamInvariants.plainStore 9,
      .approve 0, .admission 0 TeamInvariants.plainStore 9, .contact 0]).map
      fun s => (s.contacts.map Contact.run_id, s.log.map (·.reason_code))) =
    some ([5], [some "discovery_admitted".toList, some "execution_admitted".toList]) := by decide +kernel

end RedDock.ExecutionAuthority
