import RedDock.Issuers
import RedDock.KeyedRows
import RedDock.Sessions
import RedDock.Transactions

/-!
# Team administration

The identity tables, the offline bootstrap of the first owner, and the three
operations that change the team. Each operation is one transaction, and any
call of it may fail. A value that a check constraint of the schema confines is
an enumeration here.
-/
set_option autoImplicit false
namespace RedDock.Team
open Text Transactions
open Sessions (BrowserSession Role)

/-! ### The tables -/

structure Organization where
  id : Nat
  slug : Text
  name : Text
  deriving DecidableEq

/-- `MemberStatus`, and the status of a user. -/
inductive MemberStatus
  | active
  | disabled
  deriving DecidableEq, Repr

structure User where
  id : Nat
  oidc_issuer : Text
  oidc_subject : Text
  display_name : Text
  status : MemberStatus
  deriving DecidableEq

structure Membership where
  id : Nat
  organization_id : Nat
  user_id : Nat
  role : Role
  status : MemberStatus
  deriving DecidableEq

/-- The membership with another role, or another role and status. -/
def Membership.with_role (role : Role) (m : Membership) : Membership := { m with role := role }
def Membership.with_access (role : Role) (status : MemberStatus) (m : Membership) : Membership :=
  { m with role := role, status := status }

@[simp] theorem with_role_id (role : Role) (m : Membership) : (m.with_role role).id = m.id := rfl
@[simp] theorem with_role_organization (role : Role) (m : Membership) :
    (m.with_role role).organization_id = m.organization_id := rfl
@[simp] theorem with_role_role (role : Role) (m : Membership) : (m.with_role role).role = role := rfl
@[simp] theorem with_role_status (role : Role) (m : Membership) : (m.with_role role).status = m.status := rfl
@[simp] theorem with_access_id (role : Role) (status : MemberStatus) (m : Membership) :
    (m.with_access role status).id = m.id := rfl
@[simp] theorem with_access_organization (role : Role) (status : MemberStatus) (m : Membership) :
    (m.with_access role status).organization_id = m.organization_id := rfl
@[simp] theorem with_access_role (role : Role) (status : MemberStatus) (m : Membership) :
    (m.with_access role status).role = role := rfl

structure SecurityAuditEvent where
  organization_id : Nat
  actor_user_id : Option Nat
  actor_membership_id : Option Nat
  actor_role : Option Role
  action : Text
  outcome : Text
  target_type : Option Text
  target_id : Option Text
  reason_code : Option Text
  deriving DecidableEq

structure Database where
  organizations : List Organization
  users : List User
  memberships : List Membership
  browser_sessions : List BrowserSession
  security_events : List SecurityAuditEvent := []
  deriving DecidableEq

/-- What the operations raise: `TeamAdministrationRejected`, `AuthorizationDenied`,
    `BootstrapError`, the `IntegrityError` of a violated constraint, `ValueError`,
    and any other failure of a call. -/
inductive Raised
  | rejected (message : Text)
  | denied
  | bootstrap (message : Text)
  | integrityError
  | valueError
  | unavailable
  deriving DecidableEq

abbrev Tx := Transaction Database Raised

def rejected {α : Type} (message : String) : Tx α := raise (.rejected message.toList)
def bootstrapError {α : Type} (message : String) : Tx α := raise (.bootstrap message.toList)

/-- What an operation meets: the calls that fail, the keys of new rows and the clock. -/
structure Store where
  fails : Nat → Option Raised := fun _ => none
  new_id : List Nat → Nat
  new_id_fresh : ∀ ids, new_id ids ∉ ids
  now : Int := 0

/-! ### Roles and permissions -/

def role_value : Role → Text
  | .owner => "owner".toList
  | .admin => "admin".toList
  | .operator => "operator".toList
  | .auditor => "auditor".toList
  | .viewer => "viewer".toList

def status_value : MemberStatus → Text
  | .active => "active".toList
  | .disabled => "disabled".toList

inductive Permission
  | dockyard_read
  | dockyard_manage
  | scope_read
  | scope_manage
  | inventory_read
  | finding_read
  | correlation_read
  | intelligence_read
  | report_read
  | raw_evidence_read
  | workflow_run
  | finding_update
  | intelligence_approve
  | lab_authorize
  | report_export
  | audit_read
  | membership_manage
  | organization_transfer
  deriving DecidableEq, Repr

def VIEWER : List Permission := [.dockyard_read, .inventory_read, .finding_read, .correlation_read, .report_read]
def AUDITOR : List Permission := VIEWER ++ [.raw_evidence_read, .scope_read, .intelligence_read, .report_export, .audit_read]
def OPERATOR : List Permission := VIEWER ++ [.dockyard_manage, .scope_manage, .scope_read, .raw_evidence_read,
  .intelligence_read, .workflow_run, .finding_update, .intelligence_approve, .lab_authorize, .report_export]
def ADMIN : List Permission := OPERATOR ++ AUDITOR ++ [.membership_manage]

/-- `permission in permissions_for(role)`; an owner has every permission. -/
def permitted (role : Role) (permission : Permission) : Bool :=
  match role with
  | .owner => true
  | .admin => permission ∈ ADMIN
  | .operator => permission ∈ OPERATOR
  | .auditor => permission ∈ AUDITOR
  | .viewer => permission ∈ VIEWER

structure AuthorizationContext where
  organization_id : Nat
  user_id : Nat
  membership_id : Nat
  role : Role
  user_active : Bool := true
  membership_active : Bool := true
  deriving DecidableEq

def AuthorizationContext.allows (context : AuthorizationContext) (permission : Permission) : Bool :=
  context.user_active && context.membership_active && permitted context.role permission

inductive Mode
  | local_
  | server
  deriving DecidableEq, Repr

structure WorkflowExecutionPolicy where
  mode : Mode
  issuer : Text
  organization_slug : Text
  deriving DecidableEq

def LOCAL_WORKFLOW_POLICY : WorkflowExecutionPolicy :=
  { mode := .local_, issuer := "urn:reddock:local".toList, organization_slug := "local".toList }

/-! ### Security events -/

/-- `_BOUNDED_IDENTIFIER.fullmatch` -/
def BOUNDED_IDENTIFIER : Text → Bool
  | [] => false
  | first :: rest => first.isAlphanum && decide (rest.length ≤ 63) &&
      rest.all fun c => c.isAlphanum || c ∈ ['_', '.', ':', '-']

section
variable (store : Store)

/-- `append_security_event` for a success. -/
def append_security_event (organization_id : Nat) (actor : Option AuthorizationContext) (action : String)
    (membership_id : Nat) (reason_code : Text) : Tx Unit :=
  if actor.any (·.organization_id ≠ organization_id) then raise .valueError
  else if !BOUNDED_IDENTIFIER (dec membership_id) || !BOUNDED_IDENTIFIER reason_code then raise .valueError
  else call store.fails fun db => ((), { db with security_events := db.security_events ++ [{
    organization_id := organization_id
    actor_user_id := actor.map (·.user_id)
    actor_membership_id := actor.map (·.membership_id)
    actor_role := actor.map (·.role)
    action := action.toList
    outcome := "success".toList
    target_type := some "membership".toList
    target_id := some (dec membership_id)
    reason_code := some reason_code }] })

/-! ### Rows -/

/-- A row of `users` with a key of its own; the identity is unique. -/
def insert_user (row : Nat → User) : Tx User := do
  let inserted ← call store.fails fun db =>
    let user := row (store.new_id (db.users.map (·.id)))
    if db.users.any fun other => decide (other.oidc_issuer = user.oidc_issuer ∧ other.oidc_subject = user.oidc_subject)
    then (none, db) else (some user, { db with users := db.users ++ [user] })
  match inserted with
  | none => raise .integrityError
  | some user => return user

/-- A row of `organizations`; the slug is unique. -/
def insert_organization (row : Nat → Organization) : Tx Organization := do
  let inserted ← call store.fails fun db =>
    let organization := row (store.new_id (db.organizations.map (·.id)))
    if db.organizations.any fun other => decide (other.slug = organization.slug)
    then (none, db) else (some organization, { db with organizations := db.organizations ++ [organization] })
  match inserted with
  | none => raise .integrityError
  | some organization => return organization

/-- A row of `memberships`: of rows that exist, and one for a user in an organization. -/
def insert_membership (row : Nat → Membership) : Tx Membership := do
  let inserted ← call store.fails fun db =>
    let member := row (store.new_id (db.memberships.map (·.id)))
    if db.memberships.any (fun other => decide (other.organization_id = member.organization_id ∧ other.user_id = member.user_id)) ||
      !db.organizations.any (fun organization => decide (organization.id = member.organization_id)) ||
      !db.users.any (fun user => decide (user.id = member.user_id))
    then (none, db) else (some member, { db with memberships := db.memberships ++ [member] })
  match inserted with
  | none => raise .integrityError
  | some member => return member

/-- The columns of a membership set on the session's object. -/
def update_membership (membership_id : Nat) (f : Membership → Membership) : Tx Unit :=
  set fun db => { db with memberships := KeyedRows.update Membership.id membership_id f db.memberships }

/-- The sessions of a membership, revoked unless they are already. -/
def revoked (membership_id : Nat) (revoked_at : Int) (rows : List BrowserSession) : List BrowserSession :=
  rows.map fun row =>
    if row.membership_id = membership_id ∧ row.revoked_at = none then { row with revoked_at := some revoked_at } else row

def revoke_membership_sessions (membership_id : Nat) : Tx Nat := do
  let membership ← read store.fails fun db => db.memberships.find? (·.id = membership_id)
  if membership.isNone then return 0
  else
    let active_families ← read store.fails fun db =>
      db.browser_sessions.countP fun row => row.membership_id = membership_id && row.live
    call store.fails fun db => ((), { db with browser_sessions := revoked membership_id store.now db.browser_sessions })
    read store.fails fun _ => ()
    return active_families

/-! ### Authority -/

/-- The membership of a user in the organization of a policy. -/
def identity (policy : WorkflowExecutionPolicy) (organization_id user_id membership_id : Nat) (db : Database) :
    Option (Membership × User) := do
  let membership ← db.memberships.find? fun m =>
    m.id = membership_id ∧ m.user_id = user_id ∧ m.organization_id = organization_id
  let user ← db.users.find? (·.id = membership.user_id)
  if user.oidc_issuer = policy.issuer ∧
      db.organizations.any (fun o => decide (o.id = membership.organization_id ∧ o.slug = policy.organization_slug)) = true
  then return (membership, user) else none

def current_workflow_actor (policy : WorkflowExecutionPolicy) (organization_id : Nat) (user_id membership_id : Option Nat)
    (permission : Permission) : Tx (Option AuthorizationContext) :=
  match user_id, membership_id with
  | some user_id, some membership_id =>
    if policy.mode = .local_ ∧ (policy ≠ LOCAL_WORKFLOW_POLICY ∨ (organization_id, user_id, membership_id) ≠ (1, 1, 1)) then
      return none
    else do
      let found ← read store.fails (identity policy organization_id user_id membership_id)
      match found with
      | none => return none
      | some (membership, user) =>
        let actor : AuthorizationContext := {
          organization_id := organization_id
          user_id := user_id
          membership_id := membership_id
          role := membership.role
          user_active := user.status = .active
          membership_active := membership.status = .active }
        return if actor.allows permission then some actor else none
  | _, _ => return none

/-- Who calls an operation, on which session. -/
structure Caller where
  policy : WorkflowExecutionPolicy
  authorization : AuthorizationContext
  in_transaction : Bool := false

def as_rejected : Raised → Raised
  | .integrityError => .rejected "Identity conflicts with retained state".toList
  | raised => raised

/-- The part of `_administration` in its transaction. -/
def administered {α : Type} (caller : Caller) (permission : Permission) (body : AuthorizationContext → Tx α) : Tx α := do
  let organization ← read store.fails fun db => db.organizations.find? fun o =>
    o.id = caller.authorization.organization_id ∧ o.slug = caller.policy.organization_slug ∧ o.id ≠ 1
  if organization.isNone then raise .denied
  else
    let actor ← current_workflow_actor store caller.policy caller.authorization.organization_id
      (some caller.authorization.user_id) (some caller.authorization.membership_id) permission
    match actor with
    | none => raise .denied
    | some actor => body actor

/-- `_administration` -/
def administration {α : Type} (u : Unicode) (caller : Caller) (permission : Permission)
    (body : AuthorizationContext → Tx α) : Tx α :=
  if caller.in_transaction then raise .valueError
  else if caller.policy.mode ≠ .server ∨ caller.policy.organization_slug = "local".toList ∨
      caller.authorization.organization_id = 1 ∨ caller.authorization.user_id = 1 ∨ caller.authorization.membership_id = 1 then
    raise .denied
  else
    match Issuers.canonical_oidc_issuer u caller.policy.issuer with
    | .error (.configurationError _) => raise .denied
    | .error .valueError => raise .valueError
    | .ok issuer =>
      if issuer ≠ caller.policy.issuer then raise .denied
      else reraise as_rejected (begun store.fails (administered store caller permission body))

/-- `_target` -/
def target (actor : AuthorizationContext) (policy : WorkflowExecutionPolicy) (membership_id : Nat) : Tx (Membership × User) := do
  let found ← read store.fails fun db => do
    let member ← db.memberships.find? fun m => m.id = membership_id ∧ m.organization_id = actor.organization_id ∧ m.id ≠ 1
    let user ← db.users.find? fun user => user.id = member.user_id ∧ user.id ≠ 1 ∧ user.oidc_issuer = policy.issuer
    return (member, user)
  match found with
  | none => rejected "Member not found"
  | some found => return found

/-- `_audit` -/
def audit (actor : AuthorizationContext) (membership_id : Nat) (reason : Text) : Tx Unit :=
  append_security_event store actor.organization_id (some actor) "membership.change" membership_id reason

/-- `_revoke` -/
def revoke (actor : AuthorizationContext) (membership_id : Nat) : Tx Unit := do
  let _ ← revoke_membership_sessions store membership_id
  append_security_event store actor.organization_id (some actor) "membership.sessions_revoke" membership_id
    "access_changed".toList

/-! ### The operations -/

def MAX_TEAM_MEMBERS : Nat := 1000

structure MemberSnapshot where
  id : Nat
  user_id : Nat
  subject : Text
  display_name : Text
  role : Role
  status : MemberStatus
  user_status : MemberStatus
  deriving DecidableEq

def snapshot (member : Membership) (user : User) : MemberSnapshot where
  id := member.id
  user_id := user.id
  subject := user.oidc_subject
  display_name := user.display_name
  role := member.role
  status := member.status
  user_status := user.status

/-- `_text` -/
def text (value : Text) (maximum : Nat) : Tx Text :=
  if value.length < 1 ∨ maximum < value.length ∨ value ≠ strip value ∨
      value.any (fun c => decide (c.toNat < 32 ∨ c.toNat = 127)) = true then
    rejected "Identity fields must be bounded non-control text"
  else return value

/-- `_role` -/
def role_of (value : Text) : Tx Role :=
  match Role.of value with
  | none => rejected "Unsupported membership role"
  | some .owner => rejected "Owner changes require explicit ownership transfer"
  | some role => return role

/-- `_status` -/
def status_of (value : Text) : Tx MemberStatus :=
  if value = "active".toList then return .active
  else if value = "disabled".toList then return .disabled
  else rejected "Unsupported membership status"

/-- The body of `provision_member`. -/
def provision (policy : WorkflowExecutionPolicy) (subject display_name : Text) (role : Role) (actor : AuthorizationContext) :
    Tx MemberSnapshot := do
  let retained ← read store.fails fun db => db.memberships.countP (·.organization_id = actor.organization_id)
  if MAX_TEAM_MEMBERS ≤ retained then rejected "The team reached its fixed membership limit"
  else
    let known ← read store.fails fun db =>
      db.users.find? fun user => user.oidc_issuer = policy.issuer ∧ user.oidc_subject = subject
    if known.isSome then rejected "Identity is already provisioned"
    else
      let user ← insert_user store fun id => {
        id := id
        oidc_issuer := policy.issuer
        oidc_subject := subject
        display_name := display_name
        status := .active }
      let member ← insert_membership store fun id => {
        id := id
        organization_id := actor.organization_id
        user_id := user.id
        role := role
        status := .active }
      audit store actor member.id ("provisioned_".toList ++ role_value role)
      return snapshot member user

/-- The body of `change_member`. -/
def change (policy : WorkflowExecutionPolicy) (membership_id : Nat) (role : Role) (status : MemberStatus)
    (actor : AuthorizationContext) : Tx MemberSnapshot := do
  let (member, user) ← target store actor policy membership_id
  if member.role = .owner then rejected "Owner changes require explicit ownership transfer"
  else if (member.role, member.status) = (role, status) then return snapshot member user
  else
    update_membership member.id (Membership.with_access role status)
    revoke store actor member.id
    audit store actor member.id ("member_".toList ++ role_value role ++ '_' :: status_value status)
    return snapshot (member.with_access role status) user

/-- The body of `transfer_ownership`. -/
def transfer (policy : WorkflowExecutionPolicy) (membership_id : Nat) (actor : AuthorizationContext) : Tx MemberSnapshot := do
  let owners ← read store.fails fun db =>
    (db.memberships.filter fun m => decide (m.organization_id = actor.organization_id ∧ m.role = .owner)).map (·.id)
  if owners ≠ [actor.membership_id] then rejected "Organization ownership is inconsistent"
  else if membership_id = actor.membership_id then rejected "Choose another active team member"
  else
    let (recipient, recipient_user) ← target store actor policy membership_id
    if recipient.status ≠ .active ∨ recipient_user.status ≠ .active then rejected "Choose another active team member"
    else
      let (previous, _) ← target store actor policy actor.membership_id
      update_membership previous.id (Membership.with_role .admin)
      update_membership recipient.id (Membership.with_role .owner)
      revoke store actor previous.id
      revoke store actor recipient.id
      audit store actor previous.id "ownership_relinquished".toList
      audit store actor recipient.id "ownership_received".toList
      return snapshot (recipient.with_role .owner) recipient_user

variable (u : Unicode)

def provision_member (caller : Caller) (subject display_name role : Text) : Tx MemberSnapshot := do
  let subject ← text subject 255
  let display_name ← text display_name 120
  let role ← role_of role
  administration store u caller .membership_manage (provision store caller.policy subject display_name role)

def change_member (caller : Caller) (membership_id : Nat) (role status : Text) : Tx MemberSnapshot := do
  let role ← role_of role
  let status ← status_of status
  administration store u caller .membership_manage (change store caller.policy membership_id role status)

def transfer_ownership (caller : Caller) (membership_id : Nat) : Tx MemberSnapshot :=
  administration store u caller .organization_transfer (transfer store caller.policy membership_id)

/-! ### The first owner -/

/-- `_bounded` -/
def bounded (value : Text) (field : String) (maximum : Nat) : Tx Text :=
  if value.length < 1 ∨ maximum < value.length ∨ value ≠ strip value ∨ value.any (fun c => decide (c.toNat < 0x20)) = true then
    raise (.bootstrap (field.toList ++ " must be bounded non-control text".toList))
  else return value

/-- `_SLUG.fullmatch` -/
def SLUG (slug : Text) : Bool :=
  let edge := fun (c : Char) => c.isLower || c.isDigit
  decide (slug.length ≤ 63) && slug.head?.any edge && slug.getLast?.any edge && slug.all fun c => edge c || c == '-'

/-- The three rows of the local operator. -/
def intact (db : Database) : Bool :=
  (db.organizations.find? (·.id = 1)).any (fun o => decide (o.slug = "local".toList ∧ o.name = "Local RedDock".toList)) &&
  (db.users.find? (·.id = 1)).any (fun user =>
    decide (user.oidc_issuer = "urn:reddock:local".toList ∧ user.oidc_subject = "single-operator".toList)) &&
  (db.memberships.find? (·.id = 1)).any fun m =>
    decide (m.organization_id = 1 ∧ m.user_id = 1 ∧ m.role = .owner ∧ m.status = .active)

structure Owner where
  issuer : Text
  subject : Text
  organization_slug : Text
  organization_name : Text
  display_name : Text

/-- The branch of `bootstrap_owner` for an organization that is there already. -/
def accept_owner (owner : Owner) (organization : Organization) (user : Option User) (other_organizations : Nat) :
    Tx (Organization × User × Membership) :=
  if other_organizations ≠ 1 then bootstrapError "Bootstrap requires exactly one non-local server organization"
  else if organization.id = 1 ∨ organization.name ≠ owner.organization_name then
    bootstrapError "Server organization already exists with different data"
  else
    match user with
    | none => bootstrapError "Bootstrap owner already exists with different data"
    | some user =>
      if user.id = 1 ∨ user.display_name ≠ owner.display_name then
        bootstrapError "Bootstrap owner already exists with different data"
      else do
        let membership ← read store.fails fun db =>
          db.memberships.find? fun m => m.organization_id = organization.id ∧ m.user_id = user.id
        let organization_memberships ← read store.fails fun db =>
          db.memberships.filter fun m => decide (m.organization_id = organization.id)
        match membership with
        | none => bootstrapError "Bootstrap owner already exists with different data"
        | some membership =>
          if membership.id = 1 ∨ membership.role ≠ .owner ∨ membership.status ≠ .active ∨ user.status ≠ .active ∨
              organization_memberships ≠ [membership] then
            bootstrapError "Bootstrap owner already exists with different data"
          else return (organization, user, membership)

/-- The branch of `bootstrap_owner` for a new organization. -/
def create_owner (owner : Owner) (user : Option User) (other_organizations : Nat) : Tx (Organization × User × Membership) :=
  if user.isSome ∨ other_organizations ≠ 0 then
    bootstrapError "Bootstrap identity already exists outside this organization"
  else do
    let organization ← insert_organization store fun id =>
      { id := id, slug := owner.organization_slug, name := owner.organization_name }
    let user ← insert_user store fun id => {
      id := id
      oidc_issuer := owner.issuer
      oidc_subject := owner.subject
      display_name := owner.display_name
      status := .active }
    if organization.id = 1 ∨ user.id = 1 then bootstrapError "Bootstrap would overwrite reserved local identity"
    else
      let membership ← insert_membership store fun id => {
        id := id
        organization_id := organization.id
        user_id := user.id
        role := .owner
        status := .active }
      if membership.id = 1 then bootstrapError "Bootstrap would overwrite reserved local identity"
      else
        append_security_event store organization.id none "membership.change" membership.id "bootstrap_owner".toList
        return (organization, user, membership)

/-- The part of `bootstrap_owner` in its transaction. -/
def bootstrapped (owner : Owner) : Tx AuthorizationContext := do
  read store.fails fun _ => ()
  let reserved ← read store.fails intact
  if !reserved then bootstrapError "Reserved local identity is missing or inconsistent"
  else
    let organization ← read store.fails fun db => db.organizations.find? (·.slug = owner.organization_slug)
    let user ← read store.fails fun db =>
      db.users.find? fun user => user.oidc_issuer = owner.issuer ∧ user.oidc_subject = owner.subject
    let other_organizations ← read store.fails fun db => db.organizations.countP (·.id ≠ 1)
    let (organization, user, membership) ← match organization with
      | some organization => accept_owner store owner organization user other_organizations
      | none => create_owner store owner user other_organizations
    return {
      organization_id := organization.id
      user_id := user.id
      membership_id := membership.id
      role := .owner }

def as_bootstrap : Raised → Raised
  | .integrityError => .bootstrap "Bootstrap identity conflicts with retained state".toList
  | raised => raised

def bootstrap_owner (owner : Owner) : Tx AuthorizationContext :=
  match Issuers.canonical_oidc_issuer u owner.issuer with
  | .error (.configurationError message) => raise (.bootstrap message)
  | .error .valueError => raise .valueError
  | .ok issuer => do
    let subject ← bounded owner.subject "Subject" 255
    let organization_name ← bounded owner.organization_name "Organization name" 120
    let display_name ← bounded owner.display_name "Display name" 120
    if owner.organization_slug = "local".toList ∨ SLUG owner.organization_slug = false then
      bootstrapError "Organization slug must be non-reserved lowercase text"
    else reraise as_bootstrap (begun store.fails (bootstrapped store {
      issuer := issuer
      subject := subject
      organization_slug := owner.organization_slug
      organization_name := organization_name
      display_name := display_name }))

end
end RedDock.Team
