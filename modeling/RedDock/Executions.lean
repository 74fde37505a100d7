import RedDock.Discovery

/-!
# Several executions of one discovery run

Any number of `execute_run` calls on one run, each with its own session, among
edits of the scope. A call moves by one commit, read or tool call at a time, and
each of these can raise instead. Edits of the scope may land at any moment here,
also those that the scope mutation lock would hold back.
-/
set_option autoImplicit false
namespace RedDock.Executions
open Text Targets DockGuard Nmap Discovery

/-- An exception in a call: an `AdapterError`, or any other. -/
inductive Raised
  | adapter_error (message : Text)
  | unexpected
  deriving DecidableEq

/-- What `_execute_run` records of an exception. -/
def Raised.message : Raised → Text
  | adapter_error message => message
  | unexpected => "Discovery failed unexpectedly; see the RedDock container log".toList

/-- Where an `execute_run` call stands. -/
inductive Phase (Result : Type)
  | idle
  /-- `_execute_run` up to the claim, and a claim that was lost or raised. -/
  | started
  | read
  | beaten
  | unclaimed
  /-- The owner of the claim. -/
  | claimed
  | authorized
  | denying (decision : Decision) (reason : Text)
  | approved (evaluation : Evaluation) (target : Target)
  | refreshed (evaluation : Evaluation) (target : Target)
  | admitted (evaluation : Evaluation) (target : Target)
  | contacting (evaluation : Evaluation)
  | returned (evaluation : Evaluation) (result : Result)
  | publishing (evaluation : Evaluation) (result : Result)
  | failing (message : Text)
  /-- The session is closed; after an exception that left `_execute_run` the
      run is failed from another one. -/
  | closing
  | abandoned
  | finished

/-- What is committed or sent by a call. -/
inductive Event
  | claimed (worker : Nat)
  | allowed (worker : Nat) (entries : List ScopeEntry) (evaluation : Evaluation) (target : Target)
  | admitted (worker : Nat) (evaluation : Evaluation) (target : Target)
  | contacted (worker : Nat) (request : AdapterRequest)

/-- The committed scope and run, the calls, and their events, the latest first. -/
structure World (Result : Type) where
  entries : List ScopeEntry
  run : DiscoveryRun
  workers : Nat → Phase Result := fun _ => .idle
  events : List Event := []

/-- What a call does next. -/
inductive Act (Result : Type)
  | call
  | read
  | claim
  | release
  | authorize (admitted : Bool)
  | decide (resolver : Resolver) (lab_policy : PolicyDecision)
  | deny
  | refresh
  | admission (admitted : Bool)
  | contact
  | answer (result : Result)
  | recheck
  | publish
  | fail
  | close
  | detach
  | raise (raised : Raised)

inductive Action (Result : Type)
  | edit (entries : List ScopeEntry)
  | act (worker : Nat) (act : Act Result)

section
variable {Result Row : Type} (config : Config Result Row)

/-- What is decided with the tool about to be invoked: a denial, or the
    evaluation and the target to go ahead with. -/
def decision (entries : List ScopeEntry) (run : DiscoveryRun) (resolver : Resolver) (lab_policy : PolicyDecision) :
    Except PyError ((Decision × Text) ⊕ (Evaluation × Target)) := do
  let evaluation ← evaluate config.u run.requested_target (scope_rules config entries) (some resolver)
  if !evaluation.allowed then return .inl (evaluation.decision, evaluation.reason)
  else
    let target ← normalize_target config.u run.requested_target
    match single_host_denial config config.profile target evaluation with
    | some reason => return .inl (.denied_policy, reason)
    | none =>
      if config.profile.requires_lab_authorization && !lab_policy.allowed then
        return .inl (.denied_policy, lab_policy.reason)
      else return .inr (evaluation, target)

/-- The decision at the commit boundary; absent when the results may be saved. -/
def recheck (entries : List ScopeEntry) (run : DiscoveryRun) (evaluation : Evaluation) : Except PyError (Option Decision) := do
  let recheck ← evaluate config.u run.requested_target (scope_rules config entries)
    (some fun _ => .ok evaluation.resolved_addresses)
  if !recheck.allowed || !recheck.excluded_addresses.all (· ∈ evaluation.excluded_addresses) then
    return some (if !recheck.allowed then recheck.decision else run.decision)
  else return none

/-- The request of an evaluation. -/
def request (evaluation : Evaluation) (target : Target) : AdapterRequest where
  target := target
  profile := config.profile.name
  resolved_addresses := evaluation.resolved_addresses
  excluded_addresses := evaluation.excluded_addresses

/-- The run row of a denial. -/
def denied (run : DiscoveryRun) (decision : Decision) (reason : Text) : DiscoveryRun :=
  { run with status := .denied, decision := decision, decision_reason := reason.take 500 }

/-- `_fail_detached`: its update finds active runs only. -/
def fail_detached (run : DiscoveryRun) : DiscoveryRun :=
  if run.status ∈ ACTIVE_STATUSES then
    { run with status := .failed, error := some "Discovery failed unexpectedly; see the RedDock container log".toList }
  else run

/-- Where an exception takes a call: to the handlers of `_execute_run`, or out
    of it. -/
def raised_from (raised : Raised) : Phase Result → Option (Phase Result)
  | .idle | .finished => none
  | .started | .unclaimed | .failing _ | .closing => some .abandoned
  | .read | .beaten => some .unclaimed
  | .abandoned => some .finished
  | _ => some (.failing raised.message)

/-- The row, events and phase a call leaves. -/
structure Moved (Result : Type) where
  phase : Phase Result
  run : DiscoveryRun
  events : List Event := []

/-- One act of a call, absent when it stands elsewhere. -/
def move (entries : List ScopeEntry) (run : DiscoveryRun) (worker : Nat) : Phase Result → Act Result → Option (Moved Result)
  | .idle, .call => some { phase := .started, run }
  | .started, .read => some { phase := if run.status = .pending then .read else .closing, run }
  | .read, .claim =>
    if run.status = .pending then
      some { phase := .claimed, run := { run with status := .running }, events := [.claimed worker] }
    else some { phase := .beaten, run }
  | .beaten, .release => some { phase := .closing, run }
  | .unclaimed, .release => some { phase := .closing, run }
  | .claimed, .authorize admitted =>
    if admitted then some { phase := .authorized, run }
    else some { phase := .closing, run := denied run .denied_policy "Execution authorization denied".toList }
  | .authorized, .decide resolver lab_policy =>
    match decision config entries run resolver lab_policy with
    | .error _ => some { phase := .failing Raised.unexpected.message, run }
    | .ok (.inl (decision, reason)) => some { phase := .denying decision reason, run }
    | .ok (.inr (evaluation, target)) =>
      some { phase := .approved evaluation target, run, events := [.allowed worker entries evaluation target] }
  | .denying decision reason, .deny => some { phase := .closing, run := denied run decision reason }
  | .approved evaluation target, .refresh =>
    some { phase := if run.status = .running then .refreshed evaluation target else .closing, run }
  | .refreshed evaluation target, .admission admitted =>
    if admitted then
      some {
        phase := .admitted evaluation target
        run := { run with decision := evaluation.decision, decision_reason := evaluation.reason.take 500 }
        events := [.admitted worker evaluation target] }
    else some { phase := .closing, run := denied run .denied_policy "Execution authorization denied".toList }
  | .admitted evaluation target, .contact =>
    some { phase := .contacting evaluation, run, events := [.contacted worker (request config evaluation target)] }
  | .contacting evaluation, .answer result => some { phase := .returned evaluation result, run }
  | .returned evaluation result, .recheck =>
    match recheck config entries run evaluation with
    | .error _ => some { phase := .failing Raised.unexpected.message, run }
    | .ok (some decision) =>
      some { phase := .denying decision "Scope changed during execution; results were discarded".toList, run }
    | .ok none => some { phase := .publishing evaluation result, run }
  | .publishing _ _, .publish => some { phase := .closing, run := { run with status := .completed } }
  | .failing message, .fail =>
    some { phase := .closing, run := { run with status := .failed, error := some (message.take 500) } }
  | .closing, .close => some { phase := .finished, run }
  | .abandoned, .detach => some { phase := .finished, run := fail_detached run }
  | phase, .raise raised => (raised_from raised phase).map fun phase => { phase, run }
  | _, _ => none

/-- One action of the world. -/
def step (w : World Result) : Action Result → Option (World Result)
  | .edit entries => some { w with entries := entries }
  | .act worker act =>
    (move config w.entries w.run worker (w.workers worker) act).map fun moved =>
      { w with
        run := moved.run
        workers := Function.update w.workers worker moved.phase
        events := moved.events ++ w.events }

end
end RedDock.Executions
