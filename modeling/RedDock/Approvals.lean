import RedDock.Validation
import RedDock.Nmap
import RedDock.Claims

/-!
# Approvals of a validation run

Any number of `approve_run` calls on one validation run, each with its own
session, among edits of the scope and the inventory, and restarts. A call moves
by one read, commit or network contact at a time, and each of these can raise
instead. An update that is not committed holds the lock of its row.
-/
set_option autoImplicit false
namespace RedDock.Approvals
open Text Targets DockGuard Nmap Inventory Validation
open ServiceRules (Casing)

inductive Status
  | pending_approval
  | running
  | completed
  | denied
  | failed
  deriving DecidableEq, Repr

/-- The columns of a finding and of an asset that a validation reads. -/
structure Finding where
  dockyard_id : Nat
  detector : Text
  rule_id : Text
  asset_id : Option Nat := none

structure Asset where
  dockyard_id : Nat
  identity : Text

/-- One approval-gated recheck. -/
structure ValidationRun where
  dockyard_id : Nat
  target : Text
  status : Status
  decision : Option Decision := none
  decision_reason : Option Text := none
  approval_note : Option Text := none
  outcome : Option Outcome := none
  confidence : Option Text := none
  summary : Option Text := none
  detail : Option (List (Text × Detection.Json)) := none
  error : Option Text := none
  evidence_path : Option Text := none
  metadata_sha256 : Option Text := none
  result_sha256 : Option Text := none
  manifest_sha256 : Option Text := none
  approved_at : Option Nat := none
  started_at : Option Nat := none
  completed_at : Option Nat := none

/-- What the evidence store wrote: the path and the hashes of its documents. -/
structure StoredEvidence where
  path : Text
  metadata : Text
  normalized : Text
  manifest : Text

/-- Why `validation_target` refuses a finding. -/
inductive Refused
  | rejected (message : Text)
  | raised (error : PyError)

def VALIDATOR_DETECTOR : Text := "http.security_headers".toList

section
variable (u : Unicode)

/-- `validation_target` -/
def validation_target (finding : Finding) (assets : Nat → Option Asset) : Except Refused Target := do
  if finding.detector ≠ VALIDATOR_DETECTOR ∨ finding.rule_id ∉ HTTP_RULES then
    throw (.rejected "This finding has no Phase 3 non-destructive validation profile".toList)
  match finding.asset_id with
  | none => throw (.rejected "This finding is not linked to an HTTP origin".toList)
  | some asset_id =>
    match assets asset_id with
    | none => throw (.rejected "The HTTP origin recorded for this finding is unavailable".toList)
    | some asset =>
      if asset.dockyard_id ≠ finding.dockyard_id then
        throw (.rejected "The HTTP origin recorded for this finding is unavailable".toList)
      let target ← (normalize_target u asset.identity).mapError .raised
      if target.kind ≠ .url then throw (.rejected "This finding is not linked to an HTTP or HTTPS origin".toList)
      return target

end

/-- The request of a recheck. -/
def recheck_request (target : Target) (evaluation : Evaluation) : AdapterRequest where
  target := target
  profile := "http_probe".toList
  resolved_addresses := evaluation.resolved_addresses

/-- Where an `approve_run` call stands. -/
inductive Phase
  | idle
  | called (dockyard_id : Nat) (note : Text)
  | authorized (dockyard_id : Nat) (note : Text)
  | pending (dockyard_id : Nat) (note : Text)
  | found (note : Text) (finding : Finding)
  | targeted (note : Text) (target : Target)
  | evaluated (note : Text) (target : Target) (evaluation : Evaluation)
  /-- The update of the claim found no pending row. -/
  | beaten
  /-- The update of the claim is not committed. -/
  | updated (row : ValidationRun) (target : Target) (evaluation : Evaluation)
  | admission (row : ValidationRun) (target : Target) (evaluation : Evaluation)
  /-- The claim is committed. -/
  | admitted (target : Target) (evaluation : Evaluation)
  | refreshed (target : Target) (evaluation : Evaluation)
  | contacting (target : Target)
  | validated (result : ValidationResult)
  | stored (result : ValidationResult)
  | failing (error : Text)
  | finished

/-- What a call does next. -/
inductive Act
  | call (dockyard_id : Nat) (note : Text)
  | authorize (admitted : Bool)
  | read
  | find
  | target
  | evaluate (resolver : Resolver)
  | claim (now : Nat)
  | rollback
  | commit
  | refresh
  | contact
  | answer (observations : List DiscoveredObservation) (artifacts : List RawArtifact)
  | store (evidence : StoredEvidence)
  | complete (now : Nat)
  | fail (now : Nat)
  | raise (name : Text)

/-- What is committed or sent by a call. -/
inductive Event
  | allowed (call : Nat) (target : Target) (evaluation : Evaluation)
  | claimed (call : Nat)
  | rechecked (call : Nat) (request : AdapterRequest)

abbrev Claimed := Claims.World ValidationRun Phase Event
abbrev Left := Claims.Left ValidationRun Phase Event

/-- The run and its calls, and what they read: the scope, the finding and the
    assets. -/
structure World where
  claim : Claimed
  rules : List ScopeRule
  finding : Option Finding
  assets : Nat → Option Asset

inductive Action
  | edit (rules : List ScopeRule) (finding : Option Finding) (assets : Nat → Option Asset)
  | act (call : Nat) (act : Act)
  /-- The process ends, with its calls, and starts with `recover_interrupted_runs`. -/
  | restart (now : Nat)

/-- The values that the claim writes. -/
def claim_row (run : ValidationRun) (note : Text) (evaluation : Evaluation) (now : Nat) : ValidationRun :=
  { run with
    approval_note := some note
    approved_at := some now
    decision := some evaluation.decision
    decision_reason := some (evaluation.reason.take 500)
    status := if evaluation.allowed then .running else .denied
    started_at := if evaluation.allowed then some now else none
    completed_at := if evaluation.allowed then none else some now }

/-- The hashes that `_store_evidence` commits. -/
def evidence_row (run : ValidationRun) (evidence : StoredEvidence) : ValidationRun :=
  { run with
    evidence_path := some evidence.path
    metadata_sha256 := some evidence.metadata
    result_sha256 := some evidence.normalized
    manifest_sha256 := some evidence.manifest }

def completed_row (run : ValidationRun) (result : ValidationResult) (now : Nat) : ValidationRun :=
  { run with
    outcome := some result.judgement.outcome
    confidence := some result.judgement.confidence
    summary := some (result.judgement.summary.take 500)
    detail := some result.detail
    status := .completed
    completed_at := some now }

def failed_row (run : ValidationRun) (error : Text) (now : Nat) : ValidationRun :=
  { run with status := .failed, error := some error, completed_at := some now }

/-- `recover_interrupted_runs` -/
def recovered_row (run : ValidationRun) (now : Nat) : ValidationRun :=
  if run.status = .running then failed_row run "Interrupted by a RedDock restart".toList now else run

/-- The error that is recorded of an exception. -/
def failure (name : Text) : Text := ("Validation failed: ".toList ++ name).take 500

/-- Where an exception takes a call: to the handler of a failed check, or out
    of it. -/
def raised_from (name : Text) : Phase → Option Phase
  | .idle | .finished => none
  | .refreshed _ _ | .contacting _ | .validated _ => some (.failing (failure name))
  | _ => some .finished

section
variable (u : Unicode) (casing : Casing)

/-- One act of a call, absent when it stands elsewhere or a lock is held. -/
def move (w : World) (call : Nat) : Phase → Act → Option Left
  | .idle, .call dockyard_id note => some { record := w.claim.record, lock := w.claim.lock, phase := .called dockyard_id note }
  | .called dockyard_id note, .authorize admitted =>
    some { record := w.claim.record, lock := w.claim.lock, phase := if admitted then .authorized dockyard_id note else .finished }
  | .authorized dockyard_id note, .read =>
    some {
      record := w.claim.record
      lock := w.claim.lock
      phase := if w.claim.record.dockyard_id = dockyard_id ∧ w.claim.record.status = .pending_approval then .pending dockyard_id note
        else .finished }
  | .pending dockyard_id note, .find =>
    some {
      record := w.claim.record
      lock := w.claim.lock
      phase := match w.finding with
        | none => .finished
        | some finding => if finding.dockyard_id = dockyard_id then .found note finding else .finished }
  | .found note finding, .target =>
    some {
      record := w.claim.record
      lock := w.claim.lock
      phase := match validation_target u finding w.assets with
        | .error _ => .finished
        | .ok target => .targeted note target }
  | .targeted note target, .evaluate resolver =>
    match evaluate u target.value w.rules (some resolver) with
    | .error _ => some { record := w.claim.record, lock := w.claim.lock, phase := .finished }
    | .ok evaluation =>
      some {
        record := w.claim.record
        lock := w.claim.lock
        phase := .evaluated note target evaluation
        events := if evaluation.allowed then [.allowed call target evaluation] else [] }
  | .evaluated note target evaluation, .claim now =>
    if w.claim.lock = none then
      if w.claim.record.status = .pending_approval then
        some {
          record := w.claim.record
          lock := some call
          phase := .updated (claim_row w.claim.record note evaluation now) target evaluation }
      else some { record := w.claim.record, lock := w.claim.lock, phase := .beaten }
    else none
  | .beaten, .rollback => some { record := w.claim.record, lock := w.claim.lock, phase := .finished }
  | .updated row target evaluation, .authorize admitted =>
    if admitted then some { record := w.claim.record, lock := w.claim.lock, phase := .admission row target evaluation }
    else some { record := w.claim.record, lock := none, phase := .finished }
  | .admission row target evaluation, .commit =>
    if evaluation.allowed then some { record := row, lock := none, phase := .admitted target evaluation, events := [.claimed call] }
    else some { record := row, lock := none, phase := .finished }
  | .admitted target evaluation, .refresh =>
    some { record := w.claim.record, lock := w.claim.lock, phase := .refreshed target evaluation }
  | .refreshed target evaluation, .contact =>
    some {
      record := w.claim.record
      lock := w.claim.lock
      phase := .contacting target
      events := [.rechecked call (recheck_request target evaluation)] }
  | .contacting target, .answer observations artifacts =>
    some {
      record := w.claim.record
      lock := w.claim.lock
      phase := match w.finding with
        | none => .failing (failure "ObjectDeletedError".toList)
        | some finding => match validate casing finding.rule_id target observations artifacts with
          | .error _ => .failing (failure "ValidationRejected".toList)
          | .ok result => .validated result }
  | .validated result, .store evidence =>
    some { record := evidence_row w.claim.record evidence, lock := w.claim.lock, phase := .stored result }
  | .stored result, .complete now =>
    some { record := completed_row w.claim.record result now, lock := w.claim.lock, phase := .finished }
  | .failing error, .fail now =>
    some { record := failed_row w.claim.record error now, lock := w.claim.lock, phase := .finished }
  | .updated _ _ _, .raise _ | .admission _ _ _, .raise _ => some { record := w.claim.record, lock := none, phase := .finished }
  | phase, .raise name => (raised_from name phase).map fun phase => { record := w.claim.record, lock := w.claim.lock, phase := phase }
  | _, _ => none

/-- Calls after a restart. -/
def ended (calls : Nat → Phase) (call : Nat) : Phase :=
  match calls call with
  | .idle => .idle
  | _ => .finished

/-- One action of the world. -/
def step (w : World) : Action → Option World
  | .edit rules finding assets => some { w with rules := rules, finding := finding, assets := assets }
  | .act call act => (move u casing w call (w.claim.parties call) act).map fun left => { w with claim := w.claim.after call left }
  | .restart now => some { w with claim := ⟨recovered_row w.claim.record now, none, ended w.claim.parties, w.claim.events⟩ }

end
end RedDock.Approvals
