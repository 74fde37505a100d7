import RedDock.Nmap
import RedDock.Runs

/-!
# A discovery run among scope edits

The committed scope and run row, the scope mutation lock, and one run executing
while other requests edit the scope. An action is what one party does up to its
next commit, lock operation or tool call.
-/
set_option autoImplicit false
namespace RedDock.Discovery
open Text Targets DockGuard Nmap

/-! ### Scope entries -/

structure ScopeEntry where
  id : Nat
  rule : ScopeRuleType
  kind : TargetKind
  value : Text
  deriving DecidableEq

def ScopeRuleType.str : ScopeRuleType → Text
  | .include => "include".toList
  | .exclude => "exclude".toList

/-- A request to change the scope. -/
inductive Edit
  | add (rule : ScopeRuleType) (target : Text)
  | remove (entry_id : Nat)
  deriving DecidableEq

inductive RunStatus
  | pending
  | running
  | completed
  | failed
  | denied
  deriving DecidableEq, Repr

def ACTIVE_STATUSES : List RunStatus := [.pending, .running]

structure Profile where
  name : Text
  title : Text
  requires_lab_authorization : Bool := false
  single_host_only : Bool := false

/-- `PolicyDecision` of the lab. -/
structure PolicyDecision where
  allowed : Bool
  reason : Text

/-- The settings of one deployment, and what its database and adapter supply:
    the order of a scope listing, and the rows written for a result. -/
structure Config (Result Row : Type) where
  u : Unicode
  max_scope_entries : Nat := 64
  max_network_addresses : Nat := 256
  listed_before : ScopeEntry → ScopeEntry → Bool
  profile : Profile
  rows : Evaluation → Result → List Row

section
variable {Result Row : Type} (config : Config Result Row)

def list_scope_entries (entries : List ScopeEntry) : List ScopeEntry := entries.insertionSort fun a b => config.listed_before a b

def scope_rules (entries : List ScopeEntry) : List ScopeRule :=
  (list_scope_entries config entries).map fun entry => { rule := entry.rule, value := entry.value }

/-- `_add_scope_entry`: the entry it stores under `id`. -/
def add_scope_entry (id : Nat) (rule : ScopeRuleType) (target : Text) (existing : List ScopeEntry) :
    Except ScopeError ScopeEntry := do
  let target ← normalize_scope_value config.u config.max_network_addresses target
  if config.max_scope_entries ≤ existing.length then
    throw (.rejected ("A Dockyard may hold at most ".toList ++ dec config.max_scope_entries ++ " scope entries".toList))
  else if existing.any fun entry => entry.rule = rule && entry.value = target.value then
    throw (.rejected (target.value ++ " is already a ".toList ++ ScopeRuleType.str rule ++ " entry".toList))
  else return { id, rule, kind := target.kind, value := target.value }

/-- `_single_host_denial` -/
def single_host_denial (profile : Profile) (target : Target) (evaluation : Evaluation) : Option Text :=
  if !profile.single_host_only then none
  else if target.kind = .ipv4_network ∨ target.kind = .ipv6_network then
    some (profile.title ++ " is limited to one host; network targets are refused".toList)
  else if target.is_named config.u ∧ evaluation.resolved_addresses.length ≠ 1 then
    some (profile.title ++ " is limited to one host; ".toList ++ target.host ++ " resolved to ".toList ++
      dec evaluation.resolved_addresses.length ++ " addresses".toList)
  else none

end

/-! ### The system -/

/-- The columns of a run the runner decides on. -/
structure DiscoveryRun where
  requested_target : Text
  status : RunStatus
  decision : Decision
  decision_reason : Text
  error : Option Text := none
  deriving DecidableEq

/-- Where the worker of the run stands. -/
inductive Phase (Result Row : Type)
  | submitted
  | claimed
  | authorized
  | approved (evaluation : Evaluation) (target : Target)
  | contacting (evaluation : Evaluation)
  | returned (evaluation : Evaluation) (result : Result)
  | locked (evaluation : Evaluation) (result : Result)
  | rechecked (evaluation : Evaluation) (result : Result)
  | persisted (rows : List Row)
  | finished

/-- Who holds the scope mutation lock. -/
inductive Holder
  | runner
  | editor (edit : Edit) (existing : Option (List ScopeEntry))

/-- Committed data, the lock, the worker's position and the request the
    adapter was run with. -/
structure World (Result Row : Type) where
  entries : List ScopeEntry
  next_id : Nat
  run : DiscoveryRun
  rows : List Row := []
  lock : Option Holder := none
  worker : Phase Result Row := .submitted
  contacted : Option AdapterRequest := none

inductive Action (Result : Type)
  /-- An editor takes the lock, lists the entries, and commits or gives up. -/
  | enter (edit : Edit)
  | list
  | settle (permitted : Bool)
  /-- The worker, in the order of `_execute_run` and `_perform`. -/
  | claim
  | authorize (admitted : Bool)
  | decide (resolver : Resolver) (lab_policy : PolicyDecision)
  | contact (admitted : Bool)
  | answer (result : Result)
  | acquire
  | recheck
  | persist
  | publish
  /-- `_fail` after an exception, and a restart of the process. -/
  | fail (message : Text)
  | restart

section
variable {Result Row : Type} (config : Config Result Row)

/-- The edit an editor commits once it has listed the entries. -/
def apply_edit (edit : Edit) (existing : List ScopeEntry) (w : World Result Row) : World Result Row :=
  match edit with
  | .add rule target =>
    match add_scope_entry config w.next_id rule target existing with
    | .ok entry => { w with entries := w.entries ++ [entry], next_id := w.next_id + 1 }
    | .error _ => w
  | .remove entry_id => { w with entries := w.entries.filter (·.id ≠ entry_id) }

/-- The run ends as `DENIED`, with a commit. -/
def deny (w : World Result Row) (decision : Decision) (reason : Text) : World Result Row :=
  { w with
    run := { w.run with status := .denied, decision := decision, decision_reason := reason.take 500 }
    worker := .finished }

/-- `_authorize_execution` without an actor. -/
def deny_execution (w : World Result Row) : World Result Row :=
  deny w .denied_policy "Execution authorization denied".toList

/-- The decision taken with the tool about to be invoked. -/
def decide_execution (w : World Result Row) (resolver : Resolver) (lab_policy : PolicyDecision) :
    Except PyError (World Result Row) := do
  let evaluation ← evaluate config.u w.run.requested_target (scope_rules config w.entries) (some resolver)
  if !evaluation.allowed then return deny w evaluation.decision evaluation.reason
  else
    let target ← normalize_target config.u w.run.requested_target
    match single_host_denial config config.profile target evaluation with
    | some reason => return deny w .denied_policy reason
    | none =>
      if config.profile.requires_lab_authorization && !lab_policy.allowed then
        return deny w .denied_policy lab_policy.reason
      else return { w with worker := .approved evaluation target }

/-- The final authorization, committed before contact. -/
def contact_target (w : World Result Row) (evaluation : Evaluation) (target : Target) : World Result Row :=
  { w with
    run := { w.run with decision := evaluation.decision, decision_reason := evaluation.reason.take 500 }
    worker := .contacting evaluation
    contacted := some {
      target := target
      profile := config.profile.name
      resolved_addresses := evaluation.resolved_addresses
      excluded_addresses := evaluation.excluded_addresses } }

/-- The decision at the commit boundary, at the addresses that were scanned. -/
def recheck_scope (w : World Result Row) (evaluation : Evaluation) (result : Result) :
    Except PyError (World Result Row) := do
  let recheck ← evaluate config.u w.run.requested_target (scope_rules config w.entries)
    (some fun _ => .ok evaluation.resolved_addresses)
  if !recheck.allowed || !recheck.excluded_addresses.all (· ∈ evaluation.excluded_addresses) then
    let decision := if !recheck.allowed then recheck.decision else w.run.decision
    return { deny w decision "Scope changed during execution; results were discarded".toList with lock := none }
  else return { w with worker := .rechecked evaluation result }

/-- `_fail`: the session is rolled back, and a held lock was released on the way. -/
def fail_run (w : World Result Row) (message : Text) : World Result Row :=
  { w with
    run := { w.run with status := .failed, error := some (message.take 500) }
    worker := .finished
    lock := match w.lock with
      | some .runner => none
      | lock => lock }

/-- `recover_interrupted_runs` in a new process. -/
def restart_process (w : World Result Row) : World Result Row :=
  { w with
    run := if w.run.status ∈ ACTIVE_STATUSES then
        { w.run with status := .failed, error := some "Interrupted by a RedDock restart".toList }
      else w.run
    worker := .finished
    lock := none }

/-- One action, absent when its party cannot take it. -/
def step (w : World Result Row) : Action Result → Option (World Result Row)
  | .enter edit =>
    match w.lock with
    | none => some { w with lock := some (.editor edit none) }
    | _ => none
  | .list =>
    match w.lock with
    | some (.editor edit none) => some { w with lock := some (.editor edit (some (list_scope_entries config w.entries))) }
    | _ => none
  | .settle permitted =>
    match w.lock with
    | some (.editor edit (some existing)) =>
      some { (if permitted then apply_edit config edit existing w else w) with lock := none }
    | _ => none
  | .claim =>
    match w.worker with
    | .submitted =>
      if w.run.status = .pending then some { w with run := { w.run with status := .running }, worker := .claimed }
      else some { w with worker := .finished }
    | _ => none
  | .authorize admitted =>
    match w.worker with
    | .claimed => some (if admitted then { w with worker := .authorized } else deny_execution w)
    | _ => none
  | .decide resolver lab_policy =>
    match w.worker with
    | .authorized => (decide_execution config w resolver lab_policy).toOption
    | _ => none
  | .contact admitted =>
    match w.worker with
    | .approved evaluation target =>
      if w.run.status ≠ .running then some { w with worker := .finished }
      else some (if admitted then contact_target config w evaluation target else deny_execution w)
    | _ => none
  | .answer result =>
    match w.worker with
    | .contacting evaluation => some { w with worker := .returned evaluation result }
    | _ => none
  | .acquire =>
    match w.worker, w.lock with
    | .returned evaluation result, none => some { w with worker := .locked evaluation result, lock := some .runner }
    | _, _ => none
  | .recheck =>
    match w.worker with
    | .locked evaluation result => (recheck_scope config w evaluation result).toOption
    | _ => none
  | .persist =>
    match w.worker with
    | .rechecked evaluation result => some { w with worker := .persisted (config.rows evaluation result) }
    | _ => none
  | .publish =>
    match w.worker with
    | .persisted rows =>
      some { w with rows := rows, run := { w.run with status := .completed }, lock := none, worker := .finished }
    | _ => none
  | .fail message =>
    match w.worker with
    | .submitted | .finished => none
    | _ => some (fail_run w message)
  | .restart => some (restart_process w)

end
end RedDock.Discovery
