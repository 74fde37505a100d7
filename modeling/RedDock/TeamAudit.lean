import RedDock.Ledgers
import RedDock.TeamInvariants

/-!
# The audit log of a team

The security events of an organization are a ledger of its memberships: over
every run they say what role and status each member has, and each change was
made by a member whom they show, up to then, to hold the permission for it.
-/
set_option autoImplicit false
namespace RedDock.TeamAudit
open Text Transactions Team
open Sessions (BrowserSession Role)
open TeamInvariants (Call perform opened)
open Ledgers (ledger ledger_silent ledger_entry)

variable {u : Unicode} {store : Store}

/-! ### What the events say -/

/-- A role and a status. -/
abbrev Access := Role × MemberStatus

def MEMBERSHIP_CHANGE : Text := "membership.change".toList

def provisioned (role : Role) : Text := "provisioned_".toList ++ role_value role
def member_access (role : Role) (status : MemberStatus) : Text := "member_".toList ++ role_value role ++ '_' :: status_value status
def RELINQUISHED : Text := "ownership_relinquished".toList
def RECEIVED : Text := "ownership_received".toList
def BOOTSTRAP : Text := "bootstrap_owner".toList

def PLAIN_ROLES : List Role := [.admin, .operator, .auditor, .viewer]

/-- What each reason code says of its membership. -/
def REASONS : List (Text × Access) :=
  [(BOOTSTRAP, .owner, .active), (RELINQUISHED, .admin, .active), (RECEIVED, .owner, .active)] ++
    PLAIN_ROLES.map (fun role => (provisioned role, role, .active)) ++
      PLAIN_ROLES.flatMap fun role => [(member_access role .active, role, .active), (member_access role .disabled, role, .disabled)]

/-- The membership that an event names, with its organization, and the access that it has from then on. -/
def reads (event : SecurityAuditEvent) : Option ((Nat × Text) × Access) :=
  if event.action = MEMBERSHIP_CHANGE then do
    let id ← event.target_id
    let reason_code ← event.reason_code
    let access ← REASONS.lookup reason_code
    return ((event.organization_id, id), access)
  else none

/-- The access of a membership of an organization. -/
def access (memberships : List Membership) (organization_id id : Nat) : Option Access :=
  (memberships.find? fun m => decide (m.id = id ∧ m.organization_id = organization_id)).map fun m => (m.role, m.status)

/-- The permission that a change needs. -/
def needed (reason_code : Text) : Permission :=
  if reason_code = RELINQUISHED ∨ reason_code = RECEIVED then .organization_transfer else .membership_manage

/-- A change is the first of its organization, or one that its actor may make
    with the access that a table shows. -/
def Warranted (table : Nat × Text → Option Access) (event : SecurityAuditEvent) : Prop :=
  (event.reason_code = some BOOTSTRAP ∧ event.actor_membership_id = none ∧ ∀ id, table (event.organization_id, dec id) = none) ∨
    ∃ id role reason_code, event.actor_membership_id = some id ∧ event.actor_role = some role ∧ event.reason_code = some reason_code ∧
      table (event.organization_id, dec id) = some (role, .active) ∧ permitted role (needed reason_code) = true

theorem provisioned_reads {role : Role} (plain : role ≠ .owner) : REASONS.lookup (provisioned role) = some (role, .active) := by
  cases role with
  | owner => exact absurd rfl plain
  | admin => decide
  | operator => decide
  | auditor => decide
  | viewer => decide

theorem member_reads {role : Role} (plain : role ≠ .owner) (status : MemberStatus) :
    REASONS.lookup (member_access role status) = some (role, status) := by
  cases role with
  | owner => exact absurd rfl plain
  | admin => cases status <;> decide
  | operator => cases status <;> decide
  | auditor => cases status <;> decide
  | viewer => cases status <;> decide

/-! ### Tables -/

section Tables
variable {rows : List Membership} {member : Membership} {organization_id id : Nat}

theorem access_found (keys : (rows.map Membership.id).Nodup) (listed : member ∈ rows) :
    access rows member.organization_id member.id = some (member.role, member.status) := by
  have found : rows.find? (fun m => decide (m.id = member.id ∧ m.organization_id = member.organization_id)) = some member := by
    cases first : rows.find? fun m => decide (m.id = member.id ∧ m.organization_id = member.organization_id) with
    | none => exact absurd (List.find?_eq_none.mp first member listed) (by simp)
    | some other =>
      have named := List.find?_some first
      simp only [decide_eq_true_eq] at named
      rw [KeyedRows.eq_of_key keys (List.mem_of_find?_eq_some first) listed named.1]
  rw [access, found]
  rfl

theorem access_none (absent : ∀ m ∈ rows, m.id = id → m.organization_id ≠ organization_id) : access rows organization_id id = none := by
  rw [access, List.find?_eq_none.mpr]
  · rfl
  · intro m listed both
    simp only [decide_eq_true_eq] at both
    exact absent m listed both.1 both.2

/-- The table of accesses, by the names in the events. -/
def Accounts (table : Nat × Text → Option Access) (rows : List Membership) : Prop :=
  ∀ organization_id id, organization_id ≠ 1 → table (organization_id, dec id) = access rows organization_id id

variable {table : Nat × Text → Option Access}

theorem accounts_insert (accounts : Accounts table rows) (fresh : member.id ∉ rows.map Membership.id) :
    Accounts (Function.update table (member.organization_id, dec member.id) (some (member.role, member.status))) (rows ++ [member]) := by
  intro organization_id id other
  by_cases named : (organization_id, dec id) = (member.organization_id, dec member.id)
  · have both : organization_id = member.organization_id ∧ dec id = dec member.id := Prod.mk.inj named
    rw [named, Function.update_self, both.1, Function.LeftInverse.injective ofDec_dec both.2, access, List.find?_append, List.find?_eq_none.mpr]
    · simp
    · intro m listed same
      simp only [decide_eq_true_eq] at same
      exact fresh (List.mem_map.mpr ⟨m, listed, same.1⟩)
  · rw [Function.update_of_ne named, accounts organization_id id other, access, access, List.find?_append]
    have apart : ¬(member.id = id ∧ member.organization_id = organization_id) := fun both => named (by rw [both.1, both.2])
    simp [apart]

theorem accounts_update (accounts : Accounts table rows) (keys : (rows.map Membership.id).Nodup) (listed : member ∈ rows)
    {f : Membership → Membership} (keeps : ∀ m, (f m).id = m.id) (stays : ∀ m, (f m).organization_id = m.organization_id) :
    Accounts (Function.update table (member.organization_id, dec member.id) (some ((f member).role, (f member).status)))
      (KeyedRows.update Membership.id member.id f rows) := by
  intro organization_id id other
  have updated : access (KeyedRows.update Membership.id member.id f rows) organization_id id =
      (rows.find? fun m => decide (m.id = id ∧ m.organization_id = organization_id)).map fun m =>
        if m.id = member.id then ((f m).role, (f m).status) else (m.role, m.status) := by
    rw [access, KeyedRows.update, List.find?_map, Option.map_map]
    have same : ((fun m : Membership => decide (m.id = id ∧ m.organization_id = organization_id)) ∘
        fun m => if m.id = member.id then f m else m) = fun m => decide (m.id = id ∧ m.organization_id = organization_id) := by
      funext m
      by_cases here : m.id = member.id
      · simp only [Function.comp_apply, if_pos here, keeps, stays]
      · simp only [Function.comp_apply, if_neg here]
    rw [same]
    refine congrArg (fun g => Option.map g _) (funext fun m => ?_)
    by_cases here : m.id = member.id
    · simp only [Function.comp_apply, if_pos here]
    · simp only [Function.comp_apply, if_neg here]
  rw [updated]
  by_cases named : (organization_id, dec id) = (member.organization_id, dec member.id)
  · have both : organization_id = member.organization_id ∧ dec id = dec member.id := Prod.mk.inj named
    have found := access_found keys listed
    rw [access, Option.map_eq_some_iff] at found
    obtain ⟨m, first, _⟩ := found
    have is := List.find?_some first
    simp only [decide_eq_true_eq] at is
    rw [named, Function.update_self, both.1, Function.LeftInverse.injective ofDec_dec both.2, first, Option.map_some, if_pos is.1,
      KeyedRows.eq_of_key keys (List.mem_of_find?_eq_some first) listed is.1]
  · rw [Function.update_of_ne named, accounts organization_id id other, access]
    cases first : rows.find? fun m => decide (m.id = id ∧ m.organization_id = organization_id) with
    | none => rfl
    | some m =>
      have is := List.find?_some first
      simp only [decide_eq_true_eq] at is
      have apart : m.id ≠ member.id := fun same => by
        have whole := KeyedRows.eq_of_key keys (List.mem_of_find?_eq_some first) listed same
        rw [whole] at is
        exact named (by rw [is.1, is.2])
      rw [Option.map_some, Option.map_some, if_neg apart]

end Tables

/-! ### What each call records -/

section Calls
variable {s t : Session Database}

/-- The event of a success. -/
def event (organization_id : Nat) (actor : Option AuthorizationContext) (action : Text) (membership_id : Nat) (reason_code : Text) :
    SecurityAuditEvent where
  organization_id := organization_id
  actor_user_id := actor.map (·.user_id)
  actor_membership_id := actor.map (·.membership_id)
  actor_role := actor.map (·.role)
  action := action
  outcome := "success".toList
  target_type := some "membership".toList
  target_id := some (dec membership_id)
  reason_code := some reason_code

def revocation (actor : AuthorizationContext) (membership_id : Nat) : SecurityAuditEvent :=
  event actor.organization_id (some actor) "membership.sessions_revoke".toList membership_id "access_changed".toList

def change_event (actor : AuthorizationContext) (membership_id : Nat) (reason_code : Text) : SecurityAuditEvent :=
  event actor.organization_id (some actor) MEMBERSHIP_CHANGE membership_id reason_code

theorem reads_other {event : SecurityAuditEvent} (other : event.action ≠ MEMBERSHIP_CHANGE) : reads event = none := if_neg other

theorem not_change (actor : AuthorizationContext) (membership_id : Nat) : (revocation actor membership_id).action ≠ MEMBERSHIP_CHANGE :=
  show "membership.sessions_revoke".toList ≠ MEMBERSHIP_CHANGE by decide

theorem reads_event {organization_id membership_id : Nat} {actor : Option AuthorizationContext} {reason_code : Text} {access : Access}
    (given : REASONS.lookup reason_code = some access) :
    reads (event organization_id actor MEMBERSHIP_CHANGE membership_id reason_code) = some ((organization_id, dec membership_id), access) := by
  show (REASONS.lookup reason_code).bind _ = _
  rw [given]
  rfl

theorem event_recorded {organization_id membership_id : Nat} {actor : Option AuthorizationContext} {action : String} {reason_code : Text}
    (ran : append_security_event store organization_id actor action membership_id reason_code s = (.ok (), t)) :
    t.working = { s.working with
      security_events := s.working.security_events ++ [event organization_id actor action.toList membership_id reason_code] } := by
  unfold append_security_event at ran
  split at ran
  · cases ran
  split at ran
  · cases ran
  · exact (call_ok ran).2.1

theorem revoke_recorded {actor : AuthorizationContext} {membership_id : Nat} (ran : revoke store actor membership_id s = (.ok (), t)) :
    t.working.memberships = s.working.memberships ∧ t.working.organizations = s.working.organizations ∧
      t.working.security_events = s.working.security_events ++ [revocation actor membership_id] := by
  obtain ⟨count, s₁, revoking, recorded⟩ := bind_ok.mp ran
  have kept : s₁.working.memberships = s.working.memberships ∧ s₁.working.organizations = s.working.organizations ∧
      s₁.working.security_events = s.working.security_events := by
    unfold revoke_membership_sessions at revoking
    obtain ⟨membership, s₂, looked, revoking⟩ := bind_ok.mp revoking
    obtain ⟨_, same₂, _⟩ := read_ok looked
    split at revoking
    · cases revoking
      rw [same₂]
      exact ⟨rfl, rfl, rfl⟩
    · obtain ⟨active_families, s₃, counted, revoking⟩ := bind_ok.mp revoking
      obtain ⟨_, same₃, _⟩ := read_ok counted
      obtain ⟨_, s₄, updated, revoking⟩ := bind_ok.mp revoking
      obtain ⟨_, left, _⟩ := call_ok updated
      obtain ⟨_, s₅, flushed, returned⟩ := bind_ok.mp revoking
      obtain ⟨_, same₅, _⟩ := read_ok flushed
      cases returned
      rw [same₅, left, same₃, same₂]
      exact ⟨rfl, rfl, rfl⟩
  rw [event_recorded recorded]
  exact ⟨kept.1, kept.2.1, congrArg (· ++ [revocation actor membership_id]) kept.2.2⟩

/-- The membership that an operation is authorized by. -/
structure Holds (actor : AuthorizationContext) (permission : Permission) (db : Database) : Prop where
  membership : ∃ m ∈ db.memberships, m.id = actor.membership_id ∧ m.organization_id = actor.organization_id ∧ m.role = actor.role ∧
    m.status = .active
  organization : actor.organization_id ∈ db.organizations.map Organization.id
  permitted : permitted actor.role permission = true

theorem actor_holds {policy : WorkflowExecutionPolicy} {organization_id user_id membership_id : Nat} {permission : Permission}
    {actor : AuthorizationContext}
    (ran : current_workflow_actor store policy organization_id (some user_id) (some membership_id) permission s = (.ok (some actor), t)) :
    Holds actor permission s.working ∧ actor.organization_id = organization_id := by
  simp only [current_workflow_actor] at ran
  split at ran
  · cases ran
  · obtain ⟨found, s₁, looked, rest⟩ := bind_ok.mp ran
    obtain ⟨is, left, _⟩ := read_ok looked
    cases found with
    | none => cases rest
    | some found =>
      obtain ⟨m, user⟩ := found
      simp only at rest
      split at rest
      · rename_i allowed
        cases rest
        unfold identity at is
        obtain ⟨m', first, later⟩ := Option.bind_eq_some_iff.mp is.symm
        obtain ⟨user', _, last⟩ := Option.bind_eq_some_iff.mp later
        split at last
        · rename_i has
          cases last
          have named := List.find?_some first
          simp only [decide_eq_true_eq] at named
          obtain ⟨o, listed, both⟩ := List.any_eq_true.mp has.2
          simp only [decide_eq_true_eq] at both
          simp only [AuthorizationContext.allows, Bool.and_eq_true, decide_eq_true_eq] at allowed
          refine ⟨⟨⟨m, List.mem_of_find?_eq_some first, named.1, named.2.2, rfl, allowed.1.2⟩, ?_, allowed.2⟩, rfl⟩
          exact List.mem_map.mpr ⟨o, listed, both.1.trans named.2.2⟩
        · cases last
      · cases rest

/-- An administration that ends has run its body for an actor with the permission, in an organization of the server. -/
theorem administration_holds {α : Type} {caller : Caller} {permission : Permission} {body : AuthorizationContext → Tx α} {a : α}
    (ran : administration store u caller permission body s = (.ok a, t)) :
    ∃ actor s₁ s₂, body actor s₁ = (.ok a, s₂) ∧ s₁.working = s.working ∧ t.committed = s₂.working ∧ Holds actor permission s.working ∧
      actor.organization_id ≠ 1 ∧ actor.organization_id = caller.authorization.organization_id := by
  unfold administration at ran
  split at ran
  · cases ran
  split at ran
  · cases ran
  rename_i server
  cases reading : Issuers.canonical_oidc_issuer u caller.policy.issuer with
  | error error => cases error <;> simp only [reading] at ran <;> cases ran
  | ok issuer =>
    simp only [reading] at ran
    split at ran
    · cases ran
    obtain ⟨s₂, administering, committed⟩ := begun_ok (reraise_ok.mp ran)
    obtain ⟨organization, s₃, looked, rest⟩ := bind_ok.mp administering
    obtain ⟨_, left, _⟩ := read_ok looked
    split at rest
    · cases rest
    obtain ⟨found, s₄, resolved, rest⟩ := bind_ok.mp rest
    cases found with
    | none => cases rest
    | some actor =>
      obtain ⟨holds, is⟩ := actor_holds resolved
      simp only [not_or] at server
      exact ⟨actor, s₄, s₂, rest, (TeamInvariants.actor_ok resolved).trans left, committed, left ▸ holds,
        is ▸ server.2.2.1, is⟩

end Calls

/-! ### What each operation records -/

/-- What a commit does to the memberships, and the events that it records. -/
inductive Recorded (db : Database) : Database → Prop
  | nothing : Recorded db db
  /-- Other parts of the server. -/
  | quiet {db' : Database} {block : List SecurityAuditEvent} (memberships : db'.memberships = db.memberships)
      (organizations : db'.organizations = db.organizations) (silent : ∀ event ∈ block, event.action ≠ MEMBERSHIP_CHANGE)
      (events : db'.security_events = db.security_events ++ block) : Recorded db db'
  | founded {organization : Organization} {member : Membership} {db' : Database} (server : organization.id ≠ 1)
      (fresh_organization : organization.id ∉ db.organizations.map Organization.id) (fresh : member.id ∉ db.memberships.map Membership.id)
      (inside : member.organization_id = organization.id) (owner : (member.role, member.status) = (.owner, .active))
      (memberships : db'.memberships = db.memberships ++ [member]) (organizations : db'.organizations = db.organizations ++ [organization])
      (events : db'.security_events = db.security_events ++ [event organization.id none MEMBERSHIP_CHANGE member.id BOOTSTRAP]) : Recorded db db'
  | provisioned {actor : AuthorizationContext} {member : Membership} {db' : Database} (holds : Holds actor .membership_manage db)
      (server : actor.organization_id ≠ 1) (fresh : member.id ∉ db.memberships.map Membership.id)
      (inside : member.organization_id = actor.organization_id) (plain : member.role ≠ .owner) (active : member.status = .active)
      (memberships : db'.memberships = db.memberships ++ [member]) (organizations : db'.organizations = db.organizations)
      (events : db'.security_events = db.security_events ++ [change_event actor member.id (provisioned member.role)]) : Recorded db db'
  | changed {actor : AuthorizationContext} {member : Membership} {role : Role} {status : MemberStatus} {db' : Database}
      (holds : Holds actor .membership_manage db) (server : actor.organization_id ≠ 1) (listed : member ∈ db.memberships)
      (inside : member.organization_id = actor.organization_id) (plain : role ≠ .owner)
      (memberships : db'.memberships = KeyedRows.update Membership.id member.id (Membership.with_access role status) db.memberships)
      (organizations : db'.organizations = db.organizations)
      (events : db'.security_events = db.security_events ++
        [revocation actor member.id, change_event actor member.id (member_access role status)]) : Recorded db db'
  | transferred {actor : AuthorizationContext} {previous recipient : Membership} {db' : Database}
      (holds : Holds actor .organization_transfer db) (server : actor.organization_id ≠ 1) (gives : previous ∈ db.memberships)
      (takes : recipient ∈ db.memberships) (apart : recipient.id ≠ previous.id) (self : previous.id = actor.membership_id)
      (from_inside : previous.organization_id = actor.organization_id) (inside : recipient.organization_id = actor.organization_id)
      (active : recipient.status = .active)
      (memberships : db'.memberships = KeyedRows.update Membership.id recipient.id (Membership.with_role .owner)
        (KeyedRows.update Membership.id previous.id (Membership.with_role .admin) db.memberships))
      (organizations : db'.organizations = db.organizations)
      (events : db'.security_events = db.security_events ++ [revocation actor previous.id, revocation actor recipient.id,
        change_event actor previous.id RELINQUISHED, change_event actor recipient.id RECEIVED]) : Recorded db db'

section Operations
variable {s t : Session Database} {actor : AuthorizationContext} {policy : WorkflowExecutionPolicy} {result : MemberSnapshot}

theorem provision_recorded {subject display_name : Text} {role : Role} (plain : role ≠ .owner) (holds : Holds actor .membership_manage s.working)
    (server : actor.organization_id ≠ 1) (ran : provision store policy subject display_name role actor s = (.ok result, t)) :
    Recorded s.working t.working := by
  obtain ⟨retained, s₁, counted, ran⟩ := bind_ok.mp ran
  obtain ⟨_, same₁, _⟩ := read_ok counted
  split at ran
  · cases ran
  obtain ⟨known, s₂, looked, ran⟩ := bind_ok.mp ran
  obtain ⟨_, same₂, _⟩ := read_ok looked
  split at ran
  · cases ran
  obtain ⟨user, s₃, inserted, ran⟩ := bind_ok.mp ran
  obtain ⟨_, users⟩ := TeamInvariants.insert_user_ok inserted
  obtain ⟨member, s₄, joined, ran⟩ := bind_ok.mp ran
  obtain ⟨member_is, members⟩ := TeamInvariants.insert_membership_ok joined
  obtain ⟨_, s₅, recorded, ran⟩ := bind_ok.mp ran
  have events := event_recorded recorded
  cases ran
  rw [same₂, same₁] at users
  rw [users] at members member_is
  rw [members] at events
  rw [events]
  have of_role : member.role = role := by rw [member_is]
  refine @Recorded.provisioned _ actor member _ holds server ?_ ?_ ?_ ?_ rfl rfl ?_
  · rw [member_is]
    exact store.new_id_fresh _
  · rw [member_is]
  · rw [of_role]
    exact plain
  · rw [member_is]
  · rw [of_role]
    rfl

theorem change_recorded {membership_id : Nat} {role : Role} {status : MemberStatus} (plain : role ≠ .owner)
    (holds : Holds actor .membership_manage s.working) (server : actor.organization_id ≠ 1)
    (ran : change store policy membership_id role status actor s = (.ok result, t)) : Recorded s.working t.working := by
  obtain ⟨found, s₁, looked, ran⟩ := bind_ok.mp ran
  obtain ⟨member, user⟩ := found
  obtain ⟨same₁, listed, _, inside, _⟩ := TeamInvariants.target_ok looked
  simp only at ran
  split at ran
  · cases ran
  split at ran
  · cases ran
    rw [same₁]
    exact .nothing
  obtain ⟨_, s₂, updated, ran⟩ := bind_ok.mp ran
  have left₂ := TeamInvariants.update_membership_ok updated
  obtain ⟨_, s₃, revoking, ran⟩ := bind_ok.mp ran
  obtain ⟨members, organizations, events⟩ := revoke_recorded revoking
  obtain ⟨_, s₄, recorded, ran⟩ := bind_ok.mp ran
  have left₄ := event_recorded recorded
  cases ran
  rw [left₂, same₁] at members organizations events
  refine @Recorded.changed _ actor member role status _ holds server listed inside plain ?_ ?_ ?_
  · rw [left₄]
    exact members
  · rw [left₄]
    exact organizations
  · rw [left₄]
    show s₃.working.security_events ++ [_] = _
    rw [events, List.append_assoc]
    rfl

theorem transfer_recorded {membership_id : Nat} (holds : Holds actor .organization_transfer s.working) (server : actor.organization_id ≠ 1)
    (ran : transfer store policy membership_id actor s = (.ok result, t)) : Recorded s.working t.working := by
  obtain ⟨owners, s₁, listed, ran⟩ := bind_ok.mp ran
  obtain ⟨_, same₁, _⟩ := read_ok listed
  split at ran
  · cases ran
  split at ran
  · cases ran
  rename_i differs
  obtain ⟨found, s₂, looked, ran⟩ := bind_ok.mp ran
  obtain ⟨recipient, recipient_user⟩ := found
  obtain ⟨same₂, takes, recipient_id, recipient_in, _⟩ := TeamInvariants.target_ok looked
  simp only at ran
  split at ran
  · cases ran
  rename_i active
  obtain ⟨found, s₃, looked', ran⟩ := bind_ok.mp ran
  obtain ⟨previous, previous_user⟩ := found
  obtain ⟨same₃, gives, previous_id, previous_in, _⟩ := TeamInvariants.target_ok looked'
  simp only at ran
  obtain ⟨_, s₄, lowered, ran⟩ := bind_ok.mp ran
  have left₄ := TeamInvariants.update_membership_ok lowered
  obtain ⟨_, s₅, raised, ran⟩ := bind_ok.mp ran
  have left₅ := TeamInvariants.update_membership_ok raised
  obtain ⟨_, s₆, first, ran⟩ := bind_ok.mp ran
  obtain ⟨members₆, organizations₆, events₆⟩ := revoke_recorded first
  obtain ⟨_, s₇, second, ran⟩ := bind_ok.mp ran
  obtain ⟨members₇, organizations₇, events₇⟩ := revoke_recorded second
  obtain ⟨_, s₈, gave, ran⟩ := bind_ok.mp ran
  have left₈ := event_recorded gave
  obtain ⟨_, s₉, took, ran⟩ := bind_ok.mp ran
  have left₉ := event_recorded took
  cases ran
  rw [same₂, same₁] at gives
  rw [same₁] at takes
  rw [same₃, same₂, same₁] at left₄
  rw [left₄] at left₅
  rw [left₅] at members₆ organizations₆ events₆
  rw [members₆] at members₇
  rw [organizations₆] at organizations₇
  rw [events₆] at events₇
  rw [left₈] at left₉
  refine @Recorded.transferred _ actor previous recipient _ holds server gives takes ?_ previous_id previous_in recipient_in
    (not_not.mp fun other => active (Or.inl other)) ?_ ?_ ?_
  · rw [recipient_id, previous_id]
    exact differs
  · rw [left₉]
    exact members₇
  · rw [left₉]
    exact organizations₇
  · rw [left₉]
    show s₇.working.security_events ++ [_] ++ [_] = _
    rw [events₇]
    simp only [List.append_assoc]
    rfl

theorem perform_recorded {call : Call} (ran : perform u call s = (.ok result, t)) : Recorded s.working t.committed := by
  obtain ⟨store, caller, request⟩ := call
  cases request with
  | provision_member subject display_name role =>
    obtain ⟨subject', s₁, first, ran⟩ := bind_ok.mp ran
    obtain ⟨display_name', s₂, second, ran⟩ := bind_ok.mp ran
    obtain ⟨role', s₃, third, ran⟩ := bind_ok.mp ran
    obtain ⟨plain, same⟩ := TeamInvariants.role_ok third
    obtain ⟨actor, s₄, s₅, body, before, after, holds, server, _⟩ := administration_holds ran
    rw [same, TeamInvariants.text_ok second, TeamInvariants.text_ok first] at before holds
    rw [after, ← before]
    exact provision_recorded plain (before ▸ holds) server body
  | change_member membership_id role status =>
    obtain ⟨role', s₁, first, ran⟩ := bind_ok.mp ran
    obtain ⟨status', s₂, second, ran⟩ := bind_ok.mp ran
    obtain ⟨plain, same⟩ := TeamInvariants.role_ok first
    obtain ⟨actor, s₃, s₄, body, before, after, holds, server, _⟩ := administration_holds ran
    rw [TeamInvariants.status_ok second, same] at before holds
    rw [after, ← before]
    exact change_recorded plain (before ▸ holds) server body
  | transfer_ownership membership_id =>
    obtain ⟨actor, s₁, s₂, body, before, after, holds, server, _⟩ := administration_holds ran
    rw [after, ← before]
    exact transfer_recorded (before ▸ holds) server body

end Operations

/-! ### What the bootstrap records -/

section Bootstrap
variable {s t : Session Database} {owner : Owner} {found : Option User} {others : Nat} {result : Organization × User × Membership}

theorem accept_recorded {organization : Organization} (ran : accept_owner store owner organization found others s = (.ok result, t)) :
    Recorded s.working t.working := by
  unfold accept_owner at ran
  split at ran
  · cases ran
  split at ran
  · cases ran
  cases found with
  | none => cases ran
  | some user =>
    simp only at ran
    split at ran
    · cases ran
    obtain ⟨membership, s₁, looked, ran⟩ := bind_ok.mp ran
    obtain ⟨_, same₁, _⟩ := read_ok looked
    obtain ⟨members, s₂, listed, ran⟩ := bind_ok.mp ran
    obtain ⟨_, same₂, _⟩ := read_ok listed
    cases membership with
    | none => cases ran
    | some membership =>
      simp only at ran
      split at ran
      · cases ran
      · cases ran
        rw [same₂, same₁]
        exact .nothing

theorem create_recorded (ran : create_owner store owner found others s = (.ok result, t)) : Recorded s.working t.working := by
  unfold create_owner at ran
  split at ran
  · cases ran
  obtain ⟨organization, s₁, created, ran⟩ := bind_ok.mp ran
  obtain ⟨organization_is, left₁⟩ := TeamInvariants.insert_organization_ok created
  obtain ⟨user, s₂, inserted, ran⟩ := bind_ok.mp ran
  obtain ⟨_, left₂⟩ := TeamInvariants.insert_user_ok inserted
  split at ran
  · cases ran
  rename_i other
  obtain ⟨membership, s₃, joined, ran⟩ := bind_ok.mp ran
  obtain ⟨membership_is, left₃⟩ := TeamInvariants.insert_membership_ok joined
  split at ran
  · cases ran
  obtain ⟨_, s₄, recorded, ran⟩ := bind_ok.mp ran
  have events := event_recorded recorded
  cases ran
  rw [left₁] at left₂
  rw [left₂] at left₃ membership_is
  rw [left₃] at events
  rw [events]
  refine @Recorded.founded _ organization membership _ (not_or.mp other).1 ?_ ?_ ?_ ?_ rfl rfl rfl
  · rw [organization_is]
    exact store.new_id_fresh _
  · rw [membership_is]
    exact store.new_id_fresh _
  · rw [membership_is]
  · rw [membership_is]

theorem bounded_same {value kept : Text} {field : String} {maximum : Nat} (done : bounded value field maximum s = (.ok kept, t)) : t = s := by
  unfold bounded at done
  split at done
  · cases done
  · cases done
    rfl

theorem bootstrap_recorded {context : AuthorizationContext} (ran : bootstrap_owner store u owner s = (.ok context, t)) :
    Recorded s.working t.committed := by
  unfold bootstrap_owner at ran
  cases reading : Issuers.canonical_oidc_issuer u owner.issuer with
  | error error => cases error <;> simp only [reading] at ran <;> cases ran
  | ok issuer =>
    simp only [reading] at ran
    obtain ⟨subject, s₁, first, ran⟩ := bind_ok.mp ran
    obtain ⟨organization_name, s₂, second, ran⟩ := bind_ok.mp ran
    obtain ⟨display_name, s₃, third, ran⟩ := bind_ok.mp ran
    split at ran
    · cases ran
    have before := (bounded_same third).trans ((bounded_same second).trans (bounded_same first))
    obtain ⟨s₄, body, committed⟩ := begun_ok (reraise_ok.mp ran)
    obtain ⟨_, s₅, locked, body⟩ := bind_ok.mp body
    obtain ⟨_, same₅, _⟩ := read_ok locked
    obtain ⟨reserved, s₆, looked, body⟩ := bind_ok.mp body
    obtain ⟨_, same₆, _⟩ := read_ok looked
    split at body
    · cases body
    obtain ⟨organization, s₇, found, body⟩ := bind_ok.mp body
    obtain ⟨_, same₇, _⟩ := read_ok found
    obtain ⟨user, s₈, known, body⟩ := bind_ok.mp body
    obtain ⟨_, same₈, _⟩ := read_ok known
    obtain ⟨others, s₉, counted, body⟩ := bind_ok.mp body
    obtain ⟨_, same₉, _⟩ := read_ok counted
    rw [committed, ← before, ← same₅, ← same₆, ← same₇, ← same₈, ← same₉]
    cases organization with
    | some organization =>
      obtain ⟨rows, s', accepted, done⟩ := bind_ok.mp body
      cases done
      exact accept_recorded accepted
    | none =>
      obtain ⟨rows, s', created, done⟩ := bind_ok.mp body
      cases done
      exact create_recorded created

theorem accept_uncommitted (organization : Organization) : Uncommitted (accept_owner store owner organization found others) := by
  refine Uncommitted.ite (.raise _) (.ite (.raise _) ?_)
  cases found with
  | none => exact .raise _
  | some user =>
    refine Uncommitted.ite (.raise _) ((Uncommitted.read _ _).bind fun membership => (Uncommitted.read _ _).bind fun members => ?_)
    cases membership with
    | none => exact .raise _
    | some membership => exact Uncommitted.ite (.raise _) (.pure _)

theorem create_uncommitted : Uncommitted (create_owner store owner found others) := by
  refine Uncommitted.ite (.raise _) ((TeamInvariants.insert_organization_uncommitted _).bind fun organization => ?_)
  refine (TeamInvariants.insert_user_uncommitted _).bind fun user => .ite (.raise _) ?_
  refine (TeamInvariants.insert_membership_uncommitted _).bind fun membership => .ite (.raise _) ?_
  exact (TeamInvariants.event_uncommitted _ _ _ _ _).bind fun _ => .pure _

/-- A bootstrap that raises leaves the committed tables. -/
theorem bootstrap_atomic (owner : Owner) : Atomic (bootstrap_owner store u owner) := by
  have texts {value : Text} {field : String} {maximum : Nat} : Uncommitted (bounded value field maximum) := Uncommitted.ite (.raise _) (.pure _)
  unfold bootstrap_owner
  cases Issuers.canonical_oidc_issuer u owner.issuer with
  | error error => cases error <;> exact .raise _
  | ok issuer =>
    refine texts.then fun subject => texts.then fun organization_name => texts.then fun display_name => ?_
    split
    · exact .raise _
    refine (Uncommitted.begun ?_).reraise
    refine (Uncommitted.read _ _).bind fun _ => (Uncommitted.read _ _).bind fun reserved => .ite (.raise _) ?_
    refine (Uncommitted.read _ _).bind fun organization => (Uncommitted.read _ _).bind fun user => ?_
    refine (Uncommitted.read _ _).bind fun others => ?_
    cases organization with
    | some organization => exact (accept_uncommitted organization).bind fun _ => .pure _
    | none => exact create_uncommitted.bind fun _ => .pure _

end Bootstrap

/-! ### Every run -/

/-- What happens to the tables: a bootstrap, a call of an operation, or whatever
    the other parts of the server do to the sessions and to the log meanwhile. -/
inductive Action
  | bootstrap (store : Store) (owner : Owner)
  | call (call : Call)
  | others (rows : List BrowserSession) (events : List SecurityAuditEvent)

def step (u : Unicode) (db : Database) : Action → Option Database
  | .bootstrap store owner => some (bootstrap_owner store u owner (opened db)).2.committed
  | .call call => some (perform u call (opened db)).2.committed
  | .others rows events =>
    if ∀ event ∈ events, event.action ≠ MEMBERSHIP_CHANGE then
      some { db with browser_sessions := rows, security_events := db.security_events ++ events }
    else none

theorem step_recorded {db db' : Database} {action : Action} (stepped : step u db action = some db') : Recorded db db' := by
  cases action with
  | bootstrap store owner =>
    cases stepped
    rcases ran : bootstrap_owner store u owner (opened db) with ⟨_ | context, t⟩
    · rw [bootstrap_atomic owner _ _ _ ran]
      exact .nothing
    · exact bootstrap_recorded ran
  | call call =>
    cases stepped
    rcases ran : perform u call (opened db) with ⟨_ | result, t⟩
    · rw [TeamInvariants.perform_atomic call _ _ _ ran]
      exact .nothing
    · exact perform_recorded ran
  | others rows events =>
    simp only [step] at stepped
    split at stepped
    · rename_i silent
      cases stepped
      exact .quiet rfl rfl silent rfl
    · cases stepped

/-- What holds of the tables: the schema's keys, and the log accounts for the memberships. -/
structure Inv (db : Database) : Prop where
  keys : (db.memberships.map Membership.id).Nodup
  organizations : ∀ m ∈ db.memberships, m.organization_id ∈ db.organizations.map Organization.id
  accounts : Accounts (ledger reads db.security_events) db.memberships

/-- The changes that a commit records are warranted by the log before it. -/
def Grows (db db' : Database) : Prop :=
  ∃ block, db'.security_events = db.security_events ++ block ∧
    ∀ event ∈ block, event.action = MEMBERSHIP_CHANGE → Warranted (ledger reads db.security_events) event

section Steps
variable {db db' : Database} {actor : AuthorizationContext} {permission : Permission}

/-- A change by an actor is warranted. -/
theorem warranted_holds (inv : Inv db) (holds : Holds actor permission db) (server : actor.organization_id ≠ 1) {membership_id : Nat}
    {reason_code : Text} (needs : needed reason_code = permission) :
    Warranted (ledger reads db.security_events) (change_event actor membership_id reason_code) := by
  obtain ⟨m, listed, is, inside, role, active⟩ := holds.membership
  have shown := inv.accounts actor.organization_id actor.membership_id server
  rw [← is, ← inside, access_found inv.keys listed, role, active, is, inside] at shown
  exact .inr ⟨actor.membership_id, actor.role, reason_code, rfl, rfl, rfl, shown, needs ▸ holds.permitted⟩

theorem needed_provisioned (role : Role) : needed (provisioned role) = .membership_manage := by
  cases role <;> decide

theorem needed_member (role : Role) (status : MemberStatus) : needed (member_access role status) = .membership_manage := by
  cases role <;> cases status <;> decide

theorem insert_keys {rows : List Membership} {member : Membership} (keys : (rows.map Membership.id).Nodup)
    (fresh : member.id ∉ rows.map Membership.id) : ((rows ++ [member]).map Membership.id).Nodup := by
  rw [List.map_append, List.map_singleton]
  exact List.nodup_append.mpr ⟨keys, by simp, fun a inRows b inNew => by
    rw [List.mem_singleton.mp inNew]
    exact fun is => fresh (is ▸ inRows)⟩

theorem update_inside {rows : List Membership} {ids : List Nat} (inside : ∀ m ∈ rows, m.organization_id ∈ ids) {k : Nat}
    {f : Membership → Membership} (stays : ∀ m, (f m).organization_id = m.organization_id) :
    ∀ m ∈ KeyedRows.update Membership.id k f rows, m.organization_id ∈ ids := by
  intro m listed
  obtain ⟨row, inRows, rfl⟩ := List.mem_map.mp listed
  split
  · rw [stays]
    exact inside row inRows
  · exact inside row inRows

/-- The ledger after a revocation and a change. -/
theorem ledger_change {log : List SecurityAuditEvent} {membership_id : Nat} {reason_code : Text} {access : Access}
    (given : REASONS.lookup reason_code = some access) :
    ledger reads (log ++ [change_event actor membership_id reason_code]) =
      Function.update (ledger reads log) (actor.organization_id, dec membership_id) (some access) :=
  ledger_entry (reads_event given)

theorem ledger_revocations {log : List SecurityAuditEvent} (membership_ids : List Nat) :
    ledger reads (log ++ membership_ids.map (revocation actor)) = ledger reads log :=
  ledger_silent fun event member => by
    obtain ⟨membership_id, _, rfl⟩ := List.mem_map.mp member
    exact reads_other (not_change actor membership_id)

theorem recorded_inv (recorded : Recorded db db') (inv : Inv db) : Inv db' ∧ Grows db db' := by
  cases recorded with
  | nothing => exact ⟨inv, [], by simp, by simp⟩
  | @quiet _ block memberships organizations silent events =>
    refine ⟨⟨memberships ▸ inv.keys, ?_, ?_⟩, block, events, fun event member changes => absurd changes (silent event member)⟩
    · rw [memberships, organizations]
      exact inv.organizations
    · rw [events, memberships, ledger_silent fun event member => reads_other (silent event member)]
      exact inv.accounts
  | @founded organization member _ server fresh_organization fresh inside owner memberships organizations events =>
    have alone : ∀ id, ledger reads db.security_events (organization.id, dec id) = none := fun id => by
      rw [inv.accounts _ _ server]
      exact access_none fun m listed _ same => fresh_organization (same ▸ inv.organizations m listed)
    refine ⟨⟨memberships ▸ insert_keys inv.keys fresh, ?_, ?_⟩, _, events, fun event listed _ => ?_⟩
    · intro m listed
      rw [memberships] at listed
      rw [organizations, List.map_append]
      rcases List.mem_append.mp listed with before | new
      · exact List.mem_append_left _ (inv.organizations m before)
      · rw [List.mem_singleton.mp new, inside]
        exact List.mem_append_right _ (by simp)
    · have posted := accounts_insert inv.accounts fresh
      rw [owner, inside] at posted
      rw [events, memberships, ledger_entry (reads_event (show REASONS.lookup BOOTSTRAP = some (.owner, .active) by decide))]
      exact posted
    · rw [List.mem_singleton.mp listed]
      exact .inl ⟨rfl, rfl, alone⟩
  | @provisioned actor member _ holds server fresh inside plain active memberships organizations events =>
    refine ⟨⟨memberships ▸ insert_keys inv.keys fresh, ?_, ?_⟩, _, events, fun event listed _ => ?_⟩
    · intro m listed
      rw [memberships] at listed
      rw [organizations]
      rcases List.mem_append.mp listed with before | new
      · exact inv.organizations m before
      · rw [List.mem_singleton.mp new, inside]
        exact holds.organization
    · have posted := accounts_insert inv.accounts fresh
      rw [active, inside] at posted
      rw [events, memberships, ledger_change (provisioned_reads plain)]
      exact posted
    · rw [List.mem_singleton.mp listed]
      exact warranted_holds inv holds server (needed_provisioned _)
  | @changed actor member role status _ holds server listed inside plain memberships organizations events =>
    refine ⟨⟨?_, ?_, ?_⟩, _, events, fun event recorded changes => ?_⟩
    · rw [memberships, KeyedRows.update_keys (with_access_id role status)]
      exact inv.keys
    · rw [memberships, organizations]
      exact update_inside inv.organizations (with_access_organization role status)
    · have posted := accounts_update inv.accounts inv.keys listed (with_access_id role status) fun _ => rfl
      rw [inside] at posted
      rw [events, memberships, show [revocation actor member.id, change_event actor member.id (member_access role status)] =
        [member.id].map (revocation actor) ++ [change_event actor member.id (member_access role status)] from rfl, ← List.append_assoc,
        ledger_change (member_reads plain status), ledger_revocations]
      exact posted
    · rcases List.mem_pair.mp recorded with rfl | rfl
      · exact absurd changes (not_change actor member.id)
      · exact warranted_holds inv holds server (needed_member role status)
  | @transferred actor previous recipient _ holds server gives takes apart self from_inside inside active memberships organizations events =>
    have was_active : previous.status = .active := by
      obtain ⟨m, listed, is, _, _, held⟩ := holds.membership
      rw [KeyedRows.eq_of_key inv.keys gives listed (self.trans is.symm)]
      exact held
    refine ⟨⟨?_, ?_, ?_⟩, _, events, fun event recorded changes => ?_⟩
    · rw [memberships, KeyedRows.update_keys (with_role_id .owner), KeyedRows.update_keys (with_role_id .admin)]
      exact inv.keys
    · rw [memberships, organizations]
      exact update_inside (update_inside inv.organizations (with_role_organization .admin)) (with_role_organization .owner)
    · have keys : ((KeyedRows.update Membership.id previous.id (Membership.with_role .admin) db.memberships).map Membership.id).Nodup := by
        rw [KeyedRows.update_keys (with_role_id .admin)]
        exact inv.keys
      have still : recipient ∈ KeyedRows.update Membership.id previous.id (Membership.with_role .admin) db.memberships :=
        List.mem_map.mpr ⟨recipient, takes, if_neg apart⟩
      have lowered := accounts_update inv.accounts inv.keys gives (with_role_id .admin) fun _ => rfl
      have raised := accounts_update lowered keys still (with_role_id .owner) fun _ => rfl
      rw [from_inside, inside, with_role_role, with_role_role, with_role_status, with_role_status, was_active, active] at raised
      rw [events, memberships, show [revocation actor previous.id, revocation actor recipient.id, change_event actor previous.id RELINQUISHED,
          change_event actor recipient.id RECEIVED] = [previous.id, recipient.id].map (revocation actor) ++
            ([change_event actor previous.id RELINQUISHED] ++ [change_event actor recipient.id RECEIVED]) from rfl,
        ← List.append_assoc, ← List.append_assoc, ledger_change (show REASONS.lookup RECEIVED = some (.owner, .active) by decide),
        ledger_change (show REASONS.lookup RELINQUISHED = some (.admin, .active) by decide), ledger_revocations]
      exact raised
    · simp only [List.mem_cons, List.not_mem_nil, or_false] at recorded
      rcases recorded with rfl | rfl | rfl | rfl
      · exact absurd changes (not_change actor previous.id)
      · exact absurd changes (not_change actor recipient.id)
      · exact warranted_holds inv holds server (by decide)
      · exact warranted_holds inv holds server (by decide)

end Steps

/-- The tables before the first team: the local rows, and no change of a membership in the log. -/
structure Fresh (db : Database) : Prop where
  keys : (db.memberships.map Membership.id).Nodup
  memberships : ∀ m ∈ db.memberships, m.organization_id = 1
  organization : 1 ∈ db.organizations.map Organization.id
  silent : ∀ event ∈ db.security_events, event.action ≠ MEMBERSHIP_CHANGE

theorem fresh_inv {db : Database} (fresh : Fresh db) : Inv db where
  keys := fresh.keys
  organizations := fun m listed => fresh.memberships m listed ▸ fresh.organization
  accounts := fun organization_id id other => by
    have nothing : ledger reads db.security_events = fun _ => none :=
      @ledger_silent _ _ _ _ reads [] db.security_events fun event member => reads_other (fresh.silent event member)
    rw [nothing, access_none]
    intro m listed _ inside
    exact other (inside.symm.trans (fresh.memberships m listed))

/-- From the local rows on, the log says at every moment what access each member
    of each other organization has, and every change that a commit records is
    warranted by what the log says before it. -/
theorem log_accounts_for_team {initial : Database} (fresh : Fresh initial) :
    Runs.Always (step u) initial fun db =>
      (∀ organization_id id, organization_id ≠ 1 →
        ledger reads db.security_events (organization_id, dec id) = access db.memberships organization_id id) ∧
      ∀ action db', step u db action = some db' → ∃ block, db'.security_events = db.security_events ++ block ∧
        ∀ event ∈ block, event.action = MEMBERSHIP_CHANGE → Warranted (ledger reads db.security_events) event :=
  Runs.always_of_invariant Inv (fun _ _ _ inv stepped => (recorded_inv (step_recorded stepped) inv).1) (fresh_inv fresh)
    fun _ inv => ⟨inv.accounts, fun _ _ stepped => (recorded_inv (step_recorded stepped) inv).2⟩

/-! ### A team -/

open TeamInvariants (plainStore localTables founder calling)

theorem localTables_fresh : Fresh localTables := ⟨by decide, by decide, by decide, fun _ member => absurd member List.not_mem_nil⟩

/-- A bootstrap, a new member, and a transfer to the member. -/
def succession : List Action :=
  [.bootstrap plainStore founder,
    .call { store := plainStore, caller := calling 2, request := .provision_member "second".toList "Second".toList "admin".toList },
    .call { store := plainStore, caller := calling 2, request := .transfer_ownership 3 }]

theorem log_accounts_for_succession : ∃ db, Runs.run (step .plain) localTables succession = some db ∧
    ∀ id, ledger reads db.security_events (2, dec id) = access db.memberships 2 id := by
  obtain ⟨db, ran⟩ : ∃ db, Runs.run (step .plain) localTables succession = some db := ⟨_, rfl⟩
  exact ⟨db, ran, fun id => (log_accounts_for_team localTables_fresh succession db ran).1 2 id (by decide)⟩

end RedDock.TeamAudit
