import RedDock.Lab

/-!
# Discovery requests

Any number of `create_run` and `execute_run` calls among lab grants, edits of
the scope, changes of the deployment switch and restarts. A creation holds the
admission lock from its first read to its commit; what a call adds to the lab
audit is committed with the rest of its transaction, or not at all.
-/
set_option autoImplicit false
namespace RedDock.DiscoveryRequests
open Text Targets DockGuard Lab Discovery
open Executions (Raised Event Moved Act denied)

/-! ### Adapters -/

structure Profile extends Discovery.Profile where
  capability : Option Text := none

structure Adapter where
  name : Text
  title : Text
  profiles : List Profile
  supported_kinds : List TargetKind

def NmapAdapter : Adapter where
  name := "nmap".toList
  title := "Nmap".toList
  profiles := [
    { name := Nmap.HOST_DISCOVERY, title := "Host discovery".toList },
    { name := Nmap.SERVICE_DISCOVERY, title := "Service discovery".toList },
    { name := Nmap.LAB_EXTENDED_SERVICE_DISCOVERY, title := "Extended service discovery".toList,
      capability := some EXTENDED_SERVICE_DISCOVERY, requires_lab_authorization := true, single_host_only := true }]
  supported_kinds := Nmap.supported_kinds

def HttpProbeAdapter : Adapter where
  name := "http".toList
  title := "HTTP probe".toList
  profiles := [{ name := "http_probe".toList, title := "HTTP probe".toList }]
  supported_kinds := [.url]

def ADAPTERS : List Adapter := [NmapAdapter, HttpProbeAdapter]

def get_adapter (name : Text) : Option Adapter := ADAPTERS.find? fun adapter => adapter.name = name

def Adapter.profile (adapter : Adapter) (name : Text) : Option Profile := adapter.profiles.find? fun profile => profile.name = name

def Adapter.supports (adapter : Adapter) (target : Target) : Bool := target.kind ∈ adapter.supported_kinds

/-- `profile.capability or ""` -/
def Profile.capability_id (profile : Profile) : Text := profile.capability.getD []

def kind_str : TargetKind → Text
  | .ipv4 => "ipv4".toList
  | .ipv4_network => "ipv4_network".toList
  | .ipv6 => "ipv6".toList
  | .ipv6_network => "ipv6_network".toList
  | .hostname => "hostname".toList
  | .url => "url".toList

/-! ### The system -/

structure Limits where
  max_concurrent_runs : Nat := 2
  max_discovery_runs_per_dockyard : Nat := 500

structure Run where
  id : Nat
  dockyard_id : Nat
  adapter : Text
  profile : Text
  row : DiscoveryRun

/-- Where a `create_run` call stands. -/
inductive Stage
  | called
  /-- It holds the admission lock. -/
  | locked
  | authorized
  | counted (adapter : Adapter) (profile : Profile)
  | evaluated (profile : Profile) (evaluation : Evaluation)
  | passed (profile : Profile) (evaluation : Evaluation)
  /-- The run and its lab event are not committed. -/
  | flushed (profile : Profile) (run : Run) (event : Option LabAuditEvent) (evaluation : Evaluation)
  | returned (run_id : Nat) (evaluation : Evaluation)
  /-- `RunRejected`, and any other end without a run. -/
  | rejected (message : Text)
  | aborted

structure Request where
  dockyard_id : Nat
  requested_target : Text
  adapter_name : Text
  profile_name : Text
  stage : Stage := .called

/-- A decision of the lab gate: on a grant, or on a run. -/
structure LabDecision where
  dockyard_id : Nat
  capability : Text
  action : LabAction
  allowed : Bool
  subject : Option Nat
  deriving DecidableEq

/-- An `execute_run` call: its phase, and the lab event and the decision of its
    open transaction. -/
structure Worker (Result : Type) where
  run_id : Nat
  phase : Executions.Phase Result := .idle
  event : Option LabAuditEvent := none
  verdict : Option LabDecision := none

/-- What an execution check that allowed its run had read. -/
structure Check where
  run_id : Nat
  dockyard_id : Nat
  capability : Text
  now : Nat
  enabled : Bool
  grants : List LabAuthorization
  evaluation : Evaluation
  target : Target

/-- What an execution did for its run, and the checks that allowed it. -/
inductive History
  | event (run_id dockyard_id : Nat) (profile : Profile) (event : Event)
  | checked (worker : Nat) (check : Check)

/-- What is committed, the calls, the decisions that were committed, and what
    the executions did, the latest first. -/
structure World (Result : Type) where
  now : Nat := 0
  lab : Lab.Settings := {}
  entries : Nat → List ScopeEntry := fun _ => []
  grants : Grants := {}
  audit : List LabAuditEvent := []
  decisions : List LabDecision := []
  runs : List Run := []
  next_run_id : Nat := 1
  lock : Option Nat := none
  requests : List Request := []
  workers : List (Worker Result) := []
  history : List History := []

/-- What a `create_run` call does next. -/
inductive Creating
  | acquire
  | authorize (permitted : Bool)
  | count
  | evaluate (resolver : Resolver)
  | limit
  | insert
  | commit
  | raise

inductive Action (Result : Type)
  | tick
  | switch (enabled : Bool)
  | edit (dockyard_id : Nat) (entries : List ScopeEntry)
  | create_authorization (dockyard_id : Nat) (capability_id acknowledgement note : Text) (duration_minutes : Int)
  | revoke_authorization (dockyard_id authorization_id : Nat)
  | request (dockyard_id : Nat) (requested_target adapter_name profile_name : Text)
  | create (number : Nat) (creating : Creating)
  | execute (run_id : Nat)
  | work (number : Nat) (act : Act Result)
  /-- The process ends, with its calls, and starts with `recover_interrupted_runs`. -/
  | restart

def of_dockyard (dockyard_id : Nat) (run : Run) : Bool := run.dockyard_id = dockyard_id

def is_active (run : Run) : Bool := run.row.status ∈ ACTIVE_STATUSES

section
variable {Result Row : Type} (config : Config Result Row) (limits : Limits)

/-- A denial of an evaluated request: a lab request is kept, as denied. -/
def refuse (profile : Profile) (evaluation : Evaluation) (reason : Text) : Except Text Evaluation :=
  if profile.requires_lab_authorization then .ok { evaluation with decision := .denied_policy, reason := reason } else .error reason

def cannot_act (adapter : Adapter) (evaluation : Evaluation) : Text :=
  adapter.title ++ " cannot act on a ".toList ++ ((evaluation.target_kind.map kind_str).getD "None".toList) ++ " target".toList

/-- What the adapter and the profile have against an allowed target. -/
def check_target (adapter : Adapter) (profile : Profile) (target : Target) (evaluation : Evaluation) : Except Text Evaluation := do
  let evaluation ← if adapter.supports target then .ok evaluation else refuse profile evaluation (cannot_act adapter evaluation)
  if evaluation.allowed then
    match single_host_denial config profile.toProfile target evaluation with
    | some reason => refuse profile evaluation reason
    | none => .ok evaluation
  else .ok evaluation

/-- The run of an evaluated request, before the lab decides. -/
def created_run (run_id : Nat) (call : Request) (evaluation : Evaluation) : Run where
  id := run_id
  dockyard_id := call.dockyard_id
  adapter := call.adapter_name
  profile := call.profile_name
  row := {
    requested_target := call.requested_target
    status := if evaluation.allowed then .pending else .denied
    decision := evaluation.decision
    decision_reason := evaluation.reason.take 500 }

/-- The lab policy of a request, and its event. -/
def request_policy (lab : Lab.Settings) (now : Nat) (grants : List LabAuthorization) (profile : Profile) (run : Run) (evaluation : Evaluation) :
    Lab.PolicyDecision × LabAuditEvent :=
  if evaluation.allowed then check_capability lab now grants run.dockyard_id profile.capability_id .request run.id
  else record_denial run.dockyard_id profile.capability_id .request evaluation.reason run.id

/-- The lab's part of a creation: the run, its event and the evaluation that is
    returned. -/
def lab_request (lab : Lab.Settings) (now : Nat) (grants : List LabAuthorization) (profile : Profile) (run : Run) (evaluation : Evaluation) :
    Run × Option LabAuditEvent × Evaluation :=
  if profile.requires_lab_authorization then
    let policy := request_policy lab now grants profile run evaluation
    if !policy.1.allowed && evaluation.allowed then
      ({ run with row := denied run.row .denied_policy policy.1.reason }, some policy.2,
        { evaluation with decision := .denied_policy, reason := policy.1.reason })
    else (run, some policy.2, evaluation)
  else (run, none, evaluation)

/-- The decision that a call of `create_run` returns for a lab profile. -/
def request_decision (profile : Profile) (run : Run) (evaluation : Evaluation) : Option LabDecision :=
  if profile.requires_lab_authorization then
    some ⟨run.dockyard_id, profile.capability_id, .request, evaluation.allowed, some run.id⟩
  else none

def retained_runs (w : World Result) (dockyard_id : Nat) : Nat := w.runs.countP (of_dockyard dockyard_id)

/-- `active_run_count` -/
def active_runs (w : World Result) : Nat := w.runs.countP is_active

/-- A request at another stage; a call that has ended has released the lock. -/
def World.at_stage (w : World Result) (number : Nat) (call : Request) (stage : Stage) : World Result :=
  { w with requests := w.requests.set number { call with stage := stage } }

def World.ended (w : World Result) (number : Nat) (call : Request) (stage : Stage) : World Result :=
  { w.at_stage number call stage with lock := none }

/-- The adapter and profile of a request that the history has room for. -/
def find_profile (w : World Result) (call : Request) : Except Text (Adapter × Profile) :=
  if limits.max_discovery_runs_per_dockyard ≤ retained_runs w call.dockyard_id then
    .error ("This Workspace has reached its fixed discovery history limit; ".toList ++
      "export what you need and create a new Workspace".toList)
  else match get_adapter call.adapter_name with
    | none => .error ("Unknown discovery adapter: ".toList ++ call.adapter_name)
    | some adapter => match adapter.profile call.profile_name with
      | none => .error (adapter.title ++ " has no ".toList ++ call.profile_name ++ " profile".toList)
      | some profile => .ok (adapter, profile)

/-- The evaluation of a request, with what the adapter and the profile have
    against its target. -/
def evaluate_request (w : World Result) (call : Request) (adapter : Adapter) (profile : Profile) (resolver : Resolver) :
    Except PyError (Except Text Evaluation) := do
  let evaluation ← evaluate config.u call.requested_target (scope_rules config (w.entries call.dockyard_id)) (some resolver)
  if evaluation.allowed then
    let target ← normalize_target config.u call.requested_target
    return check_target config adapter profile target evaluation
  else return .ok evaluation

/-- The evaluation with the bound on the runs in flight. -/
def admit_request (w : World Result) (profile : Profile) (evaluation : Evaluation) : Except Text Evaluation :=
  if evaluation.allowed ∧ limits.max_concurrent_runs ≤ active_runs w then
    refuse profile evaluation ("RedDock already has ".toList ++ dec limits.max_concurrent_runs ++ " discovery runs in flight".toList)
  else .ok evaluation

/-- One act of a `create_run` call, absent when it stands elsewhere or the lock
    is held. -/
def create (w : World Result) (number : Nat) (call : Request) : Stage → Creating → Option (World Result)
  | .called, .acquire => if w.lock = none then some { w.at_stage number call .locked with lock := some number } else none
  | .locked, .authorize permitted => some (if permitted then w.at_stage number call .authorized else w.ended number call .aborted)
  | .authorized, .count => some (match find_profile limits w call with
      | .error message => w.ended number call (.rejected message)
      | .ok (adapter, profile) => w.at_stage number call (.counted adapter profile))
  | .counted adapter profile, .evaluate resolver => some (match evaluate_request config w call adapter profile resolver with
      | .error _ => w.ended number call .aborted
      | .ok (.error message) => w.ended number call (.rejected message)
      | .ok (.ok evaluation) => w.at_stage number call (.evaluated profile evaluation))
  | .evaluated profile evaluation, .limit => some (match admit_request limits w profile evaluation with
      | .error message => w.ended number call (.rejected message)
      | .ok evaluation => w.at_stage number call (.passed profile evaluation))
  | .passed profile evaluation, .insert =>
    let left := lab_request w.lab w.now w.grants.rows profile (created_run w.next_run_id call evaluation) evaluation
    some { w.at_stage number call (.flushed profile left.1 left.2.1 left.2.2) with next_run_id := w.next_run_id + 1 }
  | .flushed profile run event evaluation, .commit => some { w.ended number call (.returned run.id evaluation) with
      runs := w.runs ++ [run]
      audit := w.audit ++ event.toList
      decisions := w.decisions ++ (request_decision profile run evaluation).toList }
  | .returned _ _, .raise | .rejected _, .raise | .aborted, .raise => none
  | .called, .raise => some (w.at_stage number call .aborted)
  | _, .raise => some (w.ended number call .aborted)
  | _, _ => none

/-! ### Executions -/

/-- The profile of a run, as `_perform` looks it up. -/
def run_profile (run : Run) : Except Text Profile :=
  match get_adapter run.adapter with
  | none => .error ("Adapter ".toList ++ run.adapter ++ " is no longer available".toList)
  | some adapter => match adapter.profile run.profile with
    | none => .error ("Adapter ".toList ++ run.adapter ++ " no longer provides profile ".toList ++ run.profile)
    | some profile => .ok profile

/-- The configuration that a run of a profile is executed with. -/
def with_profile (profile : Profile) : Config Result Row := { config with profile := profile.toProfile }

/-- The event that the decision of an execution adds. -/
def execution_event (w : World Result) (profile : Profile) (run : Run) (resolver : Resolver) : Option LabAuditEvent :=
  match evaluate config.u run.row.requested_target (scope_rules config (w.entries run.dockyard_id)) (some resolver) with
  | .error _ => none
  | .ok evaluation =>
    if !evaluation.allowed then
      if profile.requires_lab_authorization then
        some (record_denial run.dockyard_id profile.capability_id .execute evaluation.reason run.id).2
      else none
    else match normalize_target config.u run.row.requested_target with
      | .error _ => none
      | .ok target => match single_host_denial config profile.toProfile target evaluation with
        | some reason => some (record_denial run.dockyard_id profile.capability_id .execute reason run.id).2
        | none =>
          if profile.requires_lab_authorization then
            some (check_capability w.lab w.now w.grants.rows run.dockyard_id profile.capability_id .execute run.id).2
          else none

def execution_decision (profile : Profile) (run : Run) (allowed : Bool) : LabDecision :=
  ⟨run.dockyard_id, profile.capability_id, .execute, allowed, some run.id⟩

/-- What an execution of a lab profile goes by: to deny, or to go ahead. -/
def verdict (profile : Profile) (run : Run) : Executions.Phase Result → Option LabDecision
  | .denying _ _ => if profile.requires_lab_authorization then some (execution_decision profile run false) else none
  | .approved _ _ => if profile.requires_lab_authorization then some (execution_decision profile run true) else none
  | _ => none

/-- The row of a run, changed. -/
def set_row (runs : List Run) (run_id : Nat) (row : DiscoveryRun) : List Run :=
  runs.map fun run => if run.id = run_id then { run with row := row } else run

/-- The world after a move of a worker, which holds on to what its open
    transaction added. -/
def World.moved (w : World Result) (number : Nat) (worker : Worker Result) (run : Run) (profile : Profile) (moved : Moved Result) : World Result :=
  { w with
    runs := set_row w.runs worker.run_id moved.run
    workers := w.workers.set number { worker with phase := moved.phase }
    history := moved.events.map (.event run.id run.dockyard_id profile) ++ w.history }

/-- The check of a decision to go ahead. -/
def checked (w : World Result) (number : Nat) (run : Run) (profile : Profile) : Executions.Phase Result → List History
  | .approved evaluation target => [.checked number
      ⟨run.id, run.dockyard_id, profile.capability_id, w.now, w.lab.lab_mode_enabled, w.grants.rows, evaluation, target⟩]
  | _ => []

/-- One act of an `execute_run` call. -/
def work (w : World Result) (number : Nat) (worker : Worker Result) (run : Run) (profile : Profile) : Act Result → Option (World Result)
  | .decide resolver _ =>
    let policy := capability_decision w.lab w.now w.grants.rows run.dockyard_id profile.capability_id
    (Executions.move (with_profile config profile) (w.entries run.dockyard_id) run.row number worker.phase
      (.decide resolver policy.toPolicyDecision)).map fun moved =>
      let worker' := { worker with
        event := execution_event config w profile run resolver
        verdict := verdict profile run moved.phase }
      { w.moved number worker' run profile moved with
        history := moved.events.map (.event run.id run.dockyard_id profile) ++ (checked w number run profile moved.phase ++ w.history) }
  | act =>
    (Executions.move (with_profile config profile) (w.entries run.dockyard_id) run.row number worker.phase act).map fun moved =>
      match act, moved.phase with
      -- the commits of a denial and of the final authorization
      | .deny, _ | .admission _, _ => { w.moved number { worker with event := none, verdict := none } run profile moved with
          audit := w.audit ++ worker.event.toList
          decisions := w.decisions ++ worker.verdict.toList }
      | .refresh, .refreshed _ _ => w.moved number worker run profile moved
      | _, _ => w.moved number { worker with event := none, verdict := none } run profile moved

/-- `recover_interrupted_runs` -/
def recovered (run : Run) : Run :=
  if is_active run then
    { run with row := { run.row with status := .failed, error := some "Interrupted by a RedDock restart".toList } }
  else run

/-- A call that a restart cuts off. -/
def Stage.cut : Stage → Stage
  | .returned run_id evaluation => .returned run_id evaluation
  | .rejected message => .rejected message
  | _ => .aborted

/-- One action of the world. -/
def step (w : World Result) : Action Result → Option (World Result)
  | .tick => some { w with now := w.now + 1 }
  | .switch enabled => some { w with lab := { w.lab with lab_mode_enabled := enabled } }
  | .edit dockyard_id entries => some { w with entries := Function.update w.entries dockyard_id entries }
  | .create_authorization dockyard_id capability_id acknowledgement note duration_minutes =>
    match create_authorization w.lab w.now w.grants dockyard_id capability_id acknowledgement note duration_minutes with
    | .error _ => some w
    | .ok (grants, event, decision) => some { w with
        grants := grants
        audit := w.audit ++ [event]
        decisions := w.decisions ++ [⟨dockyard_id, capability_id, .authorize, decision.allowed, some w.grants.next_id⟩] }
  | .revoke_authorization dockyard_id authorization_id =>
    match revoke_authorization w.now w.grants dockyard_id authorization_id with
    | none => some w
    | some (grants, event) => some { w with
        grants := grants
        audit := w.audit ++ [event]
        decisions := w.decisions ++ [⟨dockyard_id, event.capability, .revoke, true, some authorization_id⟩] }
  | .request dockyard_id requested_target adapter_name profile_name =>
    some { w with requests := w.requests ++ [{ dockyard_id, requested_target, adapter_name, profile_name }] }
  | .create number creating => (w.requests[number]?).bind fun call => create config limits w number call call.stage creating
  | .execute run_id => some { w with workers := w.workers ++ [{ run_id }] }
  | .work number act => (w.workers[number]?).bind fun worker => (w.runs.find? fun run => run.id = worker.run_id).bind fun run =>
      match run_profile run with
      | .error message => if worker.phase matches .authorized then
            some { w with workers := w.workers.set number { worker with phase := .failing (message.take 500) } }
          else none
      | .ok profile => work config w number worker run profile act
  | .restart => some { w with
      runs := w.runs.map recovered
      lock := none
      requests := w.requests.map fun call => { call with stage := call.stage.cut }
      workers := w.workers.map fun worker => { worker with phase := .finished, event := none, verdict := none } }

end
end RedDock.DiscoveryRequests
