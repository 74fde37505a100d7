import RedDock.Executions

/-!
# Lab capabilities

The lab tables of a deployment, and what one transaction of `lab` does to them:
grants are created and revoked, and every check leaves an audit event.
-/
set_option autoImplicit false
namespace RedDock.Lab
open Text

def EXTENDED_SERVICE_DISCOVERY : Text := "discovery.nmap.extended-service".toList

def LAB_ACKNOWLEDGEMENT : Text := "I confirm this Dockyard is an isolated lab that I am authorized to test.".toList

/-- The identifiers of `CAPABILITIES`. -/
def CAPABILITIES : List Text := [EXTENDED_SERVICE_DISCOVERY]

def capability (capability_id : Text) : Option Text := CAPABILITIES.find? fun item => item = capability_id

/-! ### Rows -/

inductive GrantStatus
  | active
  | denied
  | superseded
  | revoked
  deriving DecidableEq, Repr

structure LabAuthorization where
  id : Nat
  dockyard_id : Nat
  capability : Text
  status : GrantStatus
  acknowledgement : Text
  note : Text
  expires_at : Nat
  revoked_at : Option Nat := none
  deriving DecidableEq

inductive LabAction
  | authorize
  | request
  | execute
  | revoke
  deriving DecidableEq, Repr

structure LabAuditEvent where
  dockyard_id : Nat
  capability : Text
  action : LabAction
  /-- `"allowed"`, or `"denied"`. -/
  allowed : Bool
  reason : Text
  authorization_id : Option Nat := none
  discovery_run_id : Option Nat := none
  deriving DecidableEq

structure PolicyDecision extends Discovery.PolicyDecision where
  authorization_id : Option Nat := none

structure Settings where
  lab_mode_enabled : Bool := false
  max_lab_authorization_minutes : Nat := 120
  max_lab_authorizations_per_dockyard : Nat := 500

/-- The committed grants. -/
structure Grants where
  rows : List LabAuthorization := []
  next_id : Nat := 1

/-- An active grant of a capability in a Dockyard. -/
def LabAuthorization.grants (dockyard_id : Nat) (capability_id : Text) (grant : LabAuthorization) : Bool :=
  grant.dockyard_id = dockyard_id && grant.capability = capability_id && grant.status = .active

/-! ### Transactions -/

section
variable (settings : Settings) (now : Nat)

/-- `_active_authorization`: the newest of twenty active grants that has not
    expired. -/
def active_authorization (grants : List LabAuthorization) (dockyard_id : Nat) (capability_id : Text) : Option LabAuthorization :=
  (((grants.filter (LabAuthorization.grants dockyard_id capability_id)).insertionSort fun one other => other.id ≤ one.id).take 20).find?
    fun grant => now < grant.expires_at

def superseded (dockyard_id : Nat) (capability_id : Text) (grant : LabAuthorization) : LabAuthorization :=
  if grant.grants dockyard_id capability_id then { grant with status := .superseded, revoked_at := some now } else grant

/-- `_supersede_active_authorizations` -/
def supersede_active_authorizations (grants : List LabAuthorization) (dockyard_id : Nat) (capability_id : Text) : List LabAuthorization :=
  grants.map (superseded now dockyard_id capability_id)

/-- Why no decision is made on a new grant. -/
def grant_error (grants : Grants) (dockyard_id : Nat) (capability_id acknowledgement : Text) (duration_minutes : Int) : Option Text :=
  if capability capability_id = none then some "Unknown lab capability".toList
  else if acknowledgement ≠ LAB_ACKNOWLEDGEMENT then some "The exact lab acknowledgement is required".toList
  else if ¬(5 ≤ duration_minutes ∧ duration_minutes ≤ settings.max_lab_authorization_minutes) then
    some ("Lab authorization must last 5–".toList ++ dec settings.max_lab_authorization_minutes ++ " minutes".toList)
  else if settings.max_lab_authorizations_per_dockyard ≤ grants.rows.countP (fun grant => grant.dockyard_id = dockyard_id) then
    some "This Dockyard has reached its lab-authorization history limit".toList
  else none

/-- What `_create_authorization` commits: the grants, its event and its decision. -/
def create_authorization (grants : Grants) (dockyard_id : Nat) (capability_id acknowledgement note : Text) (duration_minutes : Int) :
    Except Text (Grants × LabAuditEvent × PolicyDecision) :=
  match grant_error settings grants dockyard_id capability_id acknowledgement duration_minutes with
  | some message => .error message
  | none =>
    let enabled := settings.lab_mode_enabled
    let reason := if enabled then
        "Authorized for ".toList ++ dec duration_minutes.toNat ++ " minutes by explicit Dockyard acknowledgement".toList
      else "Lab mode is disabled by the deployment owner".toList
    let rows := if enabled then supersede_active_authorizations now grants.rows dockyard_id capability_id else grants.rows
    let grant : LabAuthorization := {
      id := grants.next_id
      dockyard_id := dockyard_id
      capability := capability_id
      status := if enabled then .active else .denied
      acknowledgement := acknowledgement
      note := note
      expires_at := if enabled then now + duration_minutes.toNat else now }
    .ok (⟨rows ++ [grant], grants.next_id + 1⟩,
      { dockyard_id := dockyard_id, capability := capability_id, action := .authorize, allowed := enabled, reason := reason.take 500,
        authorization_id := some grant.id },
      { allowed := enabled, reason := reason, authorization_id := if enabled then some grant.id else none })

/-- The decision of `check_capability`. -/
def capability_decision (grants : List LabAuthorization) (dockyard_id : Nat) (capability_id : Text) : PolicyDecision :=
  if capability capability_id = none then { allowed := false, reason := "The requested lab capability is not registered".toList }
  else if !settings.lab_mode_enabled then { allowed := false, reason := "Lab mode is disabled by the deployment owner".toList }
  else match active_authorization now grants dockyard_id capability_id with
    | none => { allowed := false, reason := "No active, unexpired Dockyard authorization exists for this lab capability".toList }
    | some authorization => {
        allowed := true
        reason := "Allowed by lab authorization ".toList ++ dec authorization.id
        authorization_id := some authorization.id }

/-- `_record` of a decision on a run. -/
def record (dockyard_id : Nat) (capability_id : Text) (action : LabAction) (decision : PolicyDecision) (discovery_run_id : Nat) :
    LabAuditEvent where
  dockyard_id := dockyard_id
  capability := capability_id
  action := action
  allowed := decision.allowed
  reason := decision.reason.take 500
  authorization_id := decision.authorization_id
  discovery_run_id := some discovery_run_id

/-- `check_capability`: its decision and the event it adds. -/
def check_capability (grants : List LabAuthorization) (dockyard_id : Nat) (capability_id : Text) (action : LabAction)
    (discovery_run_id : Nat) : PolicyDecision × LabAuditEvent :=
  let decision := capability_decision settings now grants dockyard_id capability_id
  (decision, record dockyard_id capability_id action decision discovery_run_id)

/-- `record_denial` -/
def record_denial (dockyard_id : Nat) (capability_id : Text) (action : LabAction) (reason : Text) (discovery_run_id : Nat) :
    PolicyDecision × LabAuditEvent :=
  let decision : PolicyDecision := { allowed := false, reason := reason }
  (decision, record dockyard_id capability_id action decision discovery_run_id)

def revoked (authorization_id dockyard_id : Nat) (grant : LabAuthorization) : LabAuthorization :=
  if grant.id = authorization_id ∧ grant.dockyard_id = dockyard_id ∧ grant.status = .active then
    { grant with status := .revoked, revoked_at := some now }
  else grant

/-- What `_revoke_authorization` commits, absent when there is no such grant. -/
def revoke_authorization (grants : Grants) (dockyard_id authorization_id : Nat) : Option (Grants × LabAuditEvent) :=
  (grants.rows.find? fun grant => grant.id = authorization_id && grant.dockyard_id = dockyard_id).map fun grant =>
    ({ grants with rows := grants.rows.map (revoked now authorization_id dockyard_id) },
      { dockyard_id := dockyard_id, capability := grant.capability, action := .revoke, allowed := true,
        reason := ("Lab authorization ".toList ++ dec grant.id ++ " revoked".toList).take 500, authorization_id := some grant.id })

end

/-! ### One active grant -/

/-- At most one grant of each capability in each Dockyard is active. -/
def OneActive (grants : List LabAuthorization) : Prop :=
  ∀ dockyard_id capability_id, grants.countP (LabAuthorization.grants dockyard_id capability_id) ≤ 1

section
variable {settings : Settings} {now : Nat}

theorem superseded_grants {dockyard_id other : Nat} {capability_id another : Text} {grant : LabAuthorization}
    (active : (superseded now dockyard_id capability_id grant).grants other another = true) :
    grant.grants other another = true ∧ ¬(dockyard_id = other ∧ capability_id = another) := by
  unfold superseded at active
  split at active
  · simp [LabAuthorization.grants] at active
  · next kept =>
    refine ⟨active, ?_⟩
    rintro ⟨rfl, rfl⟩
    exact kept active

theorem countP_supersede_le {grants : List LabAuthorization} {dockyard_id other : Nat} {capability_id another : Text} :
    (supersede_active_authorizations now grants dockyard_id capability_id).countP (LabAuthorization.grants other another) ≤
      grants.countP (LabAuthorization.grants other another) := by
  rw [supersede_active_authorizations, List.countP_map]
  exact List.countP_mono_left fun grant _ active => (superseded_grants active).1

theorem countP_supersede {grants : List LabAuthorization} {dockyard_id : Nat} {capability_id : Text} :
    (supersede_active_authorizations now grants dockyard_id capability_id).countP (LabAuthorization.grants dockyard_id capability_id) = 0 := by
  rw [List.countP_eq_zero]
  intro grant member active
  obtain ⟨before, -, rfl⟩ := List.mem_map.mp member
  exact (superseded_grants active).2 ⟨rfl, rfl⟩

theorem one_active_create {grants grants' : Grants} {dockyard_id : Nat} {capability_id acknowledgement note : Text} {duration_minutes : Int}
    {event : LabAuditEvent} {decision : PolicyDecision} (one : OneActive grants.rows)
    (created : create_authorization settings now grants dockyard_id capability_id acknowledgement note duration_minutes =
      .ok (grants', event, decision)) : OneActive grants'.rows := by
  unfold create_authorization at created
  split at created
  · cases created
  cases created
  intro other another
  show (_ ++ [_]).countP _ ≤ 1
  rw [List.countP_append, List.countP_singleton]
  by_cases enabled : settings.lab_mode_enabled = true
  · simp only [enabled, if_true]
    by_cases same : dockyard_id = other ∧ capability_id = another
    · obtain ⟨rfl, rfl⟩ := same
      rw [countP_supersede]
      split <;> omega
    · have apart : LabAuthorization.grants other another
          { id := grants.next_id, dockyard_id, capability := capability_id, status := .active, acknowledgement, note,
            expires_at := now + duration_minutes.toNat } = false := by
        simp only [LabAuthorization.grants, Bool.and_eq_false_iff, decide_eq_false_iff_not]
        exact Or.inl (by tauto)
      rw [apart]
      exact Nat.le_trans countP_supersede_le (one other another)
  · simp only [enabled, Bool.false_eq_true, if_false]
    have apart : LabAuthorization.grants other another
        { id := grants.next_id, dockyard_id, capability := capability_id, status := .denied, acknowledgement, note, expires_at := now } =
          false := by simp [LabAuthorization.grants]
    rw [apart]
    exact one other another

theorem one_active_revoke {grants grants' : Grants} {dockyard_id authorization_id : Nat} {event : LabAuditEvent} (one : OneActive grants.rows)
    (done : revoke_authorization now grants dockyard_id authorization_id = some (grants', event)) : OneActive grants'.rows := by
  obtain ⟨grant, -, left⟩ := Option.map_eq_some_iff.mp done
  cases left
  intro other another
  refine Nat.le_trans ?_ (one other another)
  rw [List.countP_map]
  refine List.countP_mono_left fun grant _ active => ?_
  simp only [Function.comp_apply, revoked] at active
  split at active
  · simp [LabAuthorization.grants] at active
  · exact active

/-- A capability check that allows found the switch on and a grant in force. -/
theorem capability_decision_allowed {grants : List LabAuthorization} {dockyard_id : Nat} {capability_id : Text}
    (allowed : (capability_decision settings now grants dockyard_id capability_id).allowed = true) :
    settings.lab_mode_enabled = true ∧ ∃ grant ∈ grants, grant.dockyard_id = dockyard_id ∧ grant.capability = capability_id ∧
      grant.status = .active ∧ now < grant.expires_at := by
  unfold capability_decision at allowed
  split at allowed
  · cases allowed
  split at allowed
  · cases allowed
  next enabled =>
  split at allowed
  · cases allowed
  next grant found =>
  refine ⟨by simpa using enabled, grant, ?_⟩
  have member := (List.mem_insertionSort _).mp (List.mem_of_mem_take (List.mem_of_find?_eq_some found))
  obtain ⟨inside, active⟩ := List.mem_filter.mp member
  simp only [LabAuthorization.grants, Bool.and_eq_true, decide_eq_true_eq] at active
  exact ⟨inside, active.1.1, active.1.2, active.2, by simpa using List.find?_some found⟩

end
end RedDock.Lab
