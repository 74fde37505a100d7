import RedDock.Publishing

/-!
# A failed run leaves no rows

Between the call of the adapter and the final commit nothing is committed, so a
failure at any call leaves the tables as they were and the run failed. A run
that completes has published all of its rows.
-/
set_option autoImplicit false
namespace RedDock.FailureAtomicity
open Text Targets DockGuard Inventory Transactions Publishing
open Discovery hiding World Phase Action step
open Executions (recheck)

variable {fails : Nat → Option Raised} {evidence : Evidence} {Row : Type} {config : Config AdapterResult Row} {contact : Contact}

/-! ### Nothing is committed before the end -/

theorem persist_service_uncommitted (identity : Text) (asset_id : Nat) (observed_at : Nat) (ids : Ids)
    (discovered : DiscoveredService) : Uncommitted (persist_service fails identity asset_id observed_at ids discovered) := by
  refine (Uncommitted.call fails _).bind fun service_id => ?_
  cases service_id with
  | none => exact .pure _
  | some service_id => exact .pure _

theorem persist_asset_uncommitted (dockyard_id : Nat) (observed_at : Nat) (ids : Ids) (discovered : DiscoveredAsset) :
    Uncommitted (persist_asset fails dockyard_id observed_at ids discovered) :=
  (Uncommitted.call fails _).bind fun asset_id =>
    Uncommitted.foldlM (persist_service_uncommitted discovered.identity asset_id observed_at) discovered.services _

theorem persist_uncommitted (run : RunRow) (result : AdapterResult) (observations : List DiscoveredObservation) (observed_at : Nat) :
    Uncommitted (persist fails run result observations observed_at) := by
  refine (Uncommitted.foldlM (persist_asset_uncommitted run.dockyard_id observed_at) result.assets _).bind fun ids => ?_
  refine (Uncommitted.foldlM (fun _ observation => ?_) observations ()).bind fun _ => ?_
  · exact .call fails _
  · exact (Uncommitted.read fails _).bind fun _ => .pure _

theorem write_raw_uncommitted (artifact : RawArtifact) : Uncommitted (write_raw fails evidence artifact) := by
  unfold write_raw
  split
  · exact .lift (.error _)
  · exact .read fails _

theorem write_document_uncommitted (kind relative_path : Text) (payload : List UInt8) :
    Uncommitted (write_document fails evidence kind relative_path payload) := .read fails _

theorem store_evidence_uncommitted (run : RunRow) (result : AdapterResult) (observations : List DiscoveredObservation)
    (evaluation : Evaluation) (counts : Counts) :
    Uncommitted (store_evidence fails evidence run result observations evaluation counts) := by
  refine (Uncommitted.mapM write_raw_uncommitted result.artifacts).bind fun raw => ?_
  refine (write_document_uncommitted _ _ _).bind fun normalized => ?_
  refine (write_document_uncommitted _ _ _).bind fun metadata => ?_
  exact .call fails _

theorem perform_atomic (run : RunRow) : Atomic (perform fails evidence config contact run) := by
  refine (Uncommitted.lift contact.answer).then fun result => (Uncommitted.read fails _).then fun entries => ?_
  cases recheck config entries run.toDiscoveryRun contact.evaluation with
  | error raised => exact .raise _
  | ok decision =>
    cases decision with
    | some decision => exact (Uncommitted.set _).then fun _ => .commit fails
    | none =>
      refine (persist_uncommitted run result _ contact.observed_at).then fun counts => ?_
      refine (store_evidence_uncommitted run result _ contact.evaluation counts).then fun _ => ?_
      exact (Uncommitted.set _).then fun _ => .commit fails

/-! ### A failure is recorded alone -/

theorem fail_atomic (message : Text) : Atomic (fail fails message) :=
  (Uncommitted.rollback fails).then fun _ => (Uncommitted.set _).then fun _ => .commit fails

theorem fail_ok {message : Text} {s t : Session State} (ran : fail fails message s = (.ok (), t)) :
    t.committed = { s.committed with
      run := { s.committed.run with status := .failed, error := some (message.take 500) } } := by
  obtain ⟨_, first, back, ran⟩ := bind_ok.mp ran
  obtain ⟨_, second, changed, ran⟩ := bind_ok.mp ran
  cases changed
  rw [commit_ok ran]
  simp only [(rollback_ok back).2]

theorem fail_detached_atomic : Atomic (fail_detached fails) :=
  (Uncommitted.rollback fails).then fun _ => (Uncommitted.call fails _).then fun _ => .commit fails

theorem fail_detached_ok {s t : Session State} (ran : fail_detached fails s = (.ok (), t)) :
    t.committed = { s.committed with
      run := { s.committed.run with toDiscoveryRun := Executions.fail_detached s.committed.run.toDiscoveryRun } } := by
  obtain ⟨_, first, back, ran⟩ := bind_ok.mp ran
  obtain ⟨_, second, updated, ran⟩ := bind_ok.mp ran
  have working := Computes.call fails _ first () second updated
  rw [commit_ok ran, (Prod.mk.inj working).2, (rollback_ok back).2]

/-- A failure of what was performed, and the session it left. -/
def Failed (fails : Nat → Option Raised) (evidence : Evidence) (config : Config AdapterResult Row) (contact : Contact)
    (s : Session State) (raised : Raised) (t : Session State) : Prop :=
  perform fails evidence config contact s.working.run s = (.error raised, t)

/-- The database accepts the update that records a failure: that of `_fail`, or
    else that of `_fail_detached`. -/
def Recorded (fails : Nat → Option Raised) (raised : Raised) (t : Session State) : Prop :=
  (fail fails raised.message t).1 = .ok () ∨ (fail_detached fails (fail fails raised.message t).2).1 = .ok ()

theorem execute_failed {s t : Session State} {raised : Raised} (failed : Failed fails evidence config contact s raised t) :
    (execute fails evidence config contact s).committed.tables = s.committed.tables := by
  have nothing := perform_atomic s.working.run s raised t failed
  unfold execute
  rw [show perform fails evidence config contact s.working.run s = (.error raised, t) from failed]
  simp only
  rcases recorded : fail fails raised.message t with ⟨_ | _, u⟩
  · have kept := fail_atomic raised.message t _ u recorded
    simp only
    rcases detached : fail_detached fails u with ⟨_ | _, v⟩
    · rw [fail_detached_atomic u _ v detached, kept, nothing]
    · rw [fail_detached_ok detached, kept, nothing]
  · rw [fail_ok recorded, nothing]

theorem execute_recorded {s t : Session State} {raised : Raised} (running : s.committed.run.status = .running)
    (failed : Failed fails evidence config contact s raised t) (recorded : Recorded fails raised t) :
    (execute fails evidence config contact s).committed.run.status = .failed ∧
      (execute fails evidence config contact s).committed.run.error.isSome = true := by
  have nothing := perform_atomic s.working.run s raised t failed
  unfold execute
  rw [show perform fails evidence config contact s.working.run s = (.error raised, t) from failed]
  simp only
  unfold Recorded at recorded
  rcases first : fail fails raised.message t with ⟨_ | _, u⟩
  · have kept := fail_atomic raised.message t _ u first
    rw [first] at recorded
    simp only
    rcases detached : fail_detached fails u with ⟨_ | _, v⟩
    · simp [detached] at recorded
    · rw [fail_detached_ok detached, kept, nothing]
      simp [Executions.fail_detached, running, ACTIVE_STATUSES]
  · rw [fail_ok first]
    exact ⟨rfl, rfl⟩

/-- A failure at any call leaves every table as it was, and the run failed with
    an error where its record is accepted. -/
theorem failure_atomic {s t : Session State} {raised : Raised} (running : s.committed.run.status = .running)
    (failed : Failed fails evidence config contact s raised t) :
    (execute fails evidence config contact s).committed.tables = s.committed.tables ∧
      (Recorded fails raised t → (execute fails evidence config contact s).committed.run.status = .failed ∧
        (execute fails evidence config contact s).committed.run.error.isSome = true) :=
  ⟨execute_failed failed, execute_recorded running failed⟩

def hostConfig : Config AdapterResult Nat where
  u := .plain
  listed_before := fun a b => a.id ≤ b.id
  profile := { name := "service-discovery".toList, title := "Service discovery".toList }
  rows := fun _ _ => []

def plainEvidence : Evidence where
  max_bytes := 1048576
  sha256 := fun _ => List.replicate 64 '0'
  normalized := fun _ _ => []
  metadata := fun _ _ _ _ _ => []

def sshService : DiscoveredService := { transport := "tcp".toList, port := 22, state := "open".toList }

def sshHost : DiscoveredAsset where
  asset_type := .host
  identity := "10.0.0.1".toList
  display_name := "10.0.0.1".toList
  ip_address := some "10.0.0.1".toList
  services := [sshService]

/-- A host with one open port. -/
def sshContact : Contact where
  evaluation := { decision := .allowed, target := "10.0.0.1".toList, reason := [] }
  answer := .ok { assets := [sshHost] }
  observed_at := 0
  entries := [{ id := 1, rule := .include, kind := .ipv4, value := "10.0.0.1".toList }]

def runningState : State where
  tables := {}
  run := {
    requested_target := "10.0.0.1".toList
    status := .running
    decision := .allowed
    decision_reason := []
    id := 1
    dockyard_id := 1
    adapter := "nmap".toList
    normalized_target := some "10.0.0.1".toList }

def runningSession : Session State := { committed := runningState, working := runningState }

/-- What a computation raised. -/
def refusal_of {ε α : Type} : Except ε α → Option ε
  | .error e => some e
  | .ok _ => none

/-- The call that stores the service raises, after the asset was flushed. -/
def serviceFails (n : Nat) : Option Raised := if n = 2 then some .unexpected else none

theorem failure_atomic_service : ∃ t, Failed serviceFails plainEvidence hostConfig sshContact runningSession .unexpected t ∧
    t.working.tables.assets.length = 1 ∧
      (execute serviceFails plainEvidence hostConfig sshContact runningSession).committed.tables = {} ∧
      (execute serviceFails plainEvidence hostConfig sshContact runningSession).committed.run.status = .failed := by
  have ran : (refusal_of (perform serviceFails plainEvidence hostConfig sshContact runningState.run runningSession).1,
      (perform serviceFails plainEvidence hostConfig sshContact runningState.run runningSession).2.working.tables.assets.length,
      decide ((fail serviceFails (Executions.Raised.message .unexpected)
        (perform serviceFails plainEvidence hostConfig sshContact runningState.run runningSession).2).1.toOption = some ())) =
      (some .unexpected, 1, true) := by decide +kernel
  rcases performed : perform serviceFails plainEvidence hostConfig sshContact runningState.run runningSession with ⟨raised, t⟩
  rw [performed] at ran
  simp only [Prod.mk.injEq, decide_eq_true_eq] at ran
  obtain ⟨is, flushed, accepted⟩ := ran
  cases raised with
  | ok done => cases is
  | error e =>
    cases is
    have kept := failure_atomic (rfl : runningSession.committed.run.status = .running) performed
    refine ⟨t, performed, flushed, kept.1, (kept.2 (Or.inl ?_)).1⟩
    cases recorded : (fail serviceFails (Executions.Raised.message .unexpected) t).1 with
    | error e => simp [recorded, Except.toOption] at accepted
    | ok done => rfl

end RedDock.FailureAtomicity
