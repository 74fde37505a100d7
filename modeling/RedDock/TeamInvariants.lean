import RedDock.Team

/-!
# Invariants of the team

What each operation on the team can do to the tables, and from it what holds
after every run: one active owner, the local rows untouched, a bounded team,
and no session left open by a change of access.
-/
set_option autoImplicit false
namespace RedDock.TeamInvariants
open Text Transactions Team
open Sessions (BrowserSession Role)

variable {u : Unicode} {store : Store}

/-! ### What each call leaves -/

/-- Two states of the tables that differ in security events only. -/
structure SameRows (db db' : Database) : Prop where
  organizations : db'.organizations = db.organizations
  users : db'.users = db.users
  memberships : db'.memberships = db.memberships
  browser_sessions : db'.browser_sessions = db.browser_sessions

theorem SameRows.refl (db : Database) : SameRows db db := ⟨rfl, rfl, rfl, rfl⟩

theorem SameRows.trans {a b c : Database} (first : SameRows a b) (second : SameRows b c) : SameRows a c :=
  ⟨second.organizations.trans first.organizations, second.users.trans first.users,
    second.memberships.trans first.memberships, second.browser_sessions.trans first.browser_sessions⟩

theorem SameRows.eq {db db' : Database} (same : SameRows db db') : db' = { db with security_events := db'.security_events } := by
  cases db'
  cases same
  simp_all

section Calls
variable {s t : Session Database}

theorem raise_ok {α : Type} {e : Raised} {a : α} (ran : (raise e : Tx α) s = (.ok a, t)) : False := by
  cases ran

theorem event_ok {organization_id membership_id : Nat} {actor : Option AuthorizationContext} {action : String}
    {reason_code : Text} (ran : append_security_event store organization_id actor action membership_id reason_code s = (.ok (), t)) :
    SameRows s.working t.working := by
  unfold append_security_event at ran
  split at ran
  · cases ran
  split at ran
  · cases ran
  · obtain ⟨_, left, _⟩ := call_ok ran
    rw [left]
    exact ⟨rfl, rfl, rfl, rfl⟩

/-- The sessions of a membership that is there are revoked. -/
theorem revoke_ok {actor : AuthorizationContext} {membership_id : Nat}
    (there : (s.working.memberships.find? (·.id = membership_id)).isSome = true)
    (ran : revoke store actor membership_id s = (.ok (), t)) :
    SameRows { s.working with browser_sessions := revoked membership_id store.now s.working.browser_sessions } t.working := by
  obtain ⟨count, s₁, revoking, recorded⟩ := bind_ok.mp ran
  unfold revoke_membership_sessions at revoking
  obtain ⟨membership, s₂, looked, revoking⟩ := bind_ok.mp revoking
  obtain ⟨rfl, same₂, _⟩ := read_ok looked
  rw [Option.isNone_eq_false_iff.mpr there] at revoking
  obtain ⟨active_families, s₃, counted, revoking⟩ := bind_ok.mp revoking
  obtain ⟨_, same₃, _⟩ := read_ok counted
  obtain ⟨_, s₄, updated, revoking⟩ := bind_ok.mp revoking
  obtain ⟨_, left, _⟩ := call_ok updated
  obtain ⟨_, s₅, flushed, returned⟩ := bind_ok.mp revoking
  obtain ⟨_, same₅, _⟩ := read_ok flushed
  cases returned
  have closed : s₁.working = { s.working with browser_sessions := revoked membership_id store.now s.working.browser_sessions } := by
    rw [same₅, left, same₃, same₂]
  exact closed ▸ event_ok recorded

theorem insert_user_ok {row : Nat → User} {user : User} (ran : insert_user store row s = (.ok user, t)) :
    user = row (store.new_id (s.working.users.map (·.id))) ∧
      t.working = { s.working with users := s.working.users ++ [user] } := by
  obtain ⟨inserted, s₁, called, rest⟩ := bind_ok.mp ran
  obtain ⟨same, left, _⟩ := call_ok called
  simp only at same left
  split at same
  · subst same
    cases rest
  · rename_i unique
    rw [if_neg unique] at left
    subst same
    cases rest
    exact ⟨rfl, left⟩

theorem insert_membership_ok {row : Nat → Membership} {member : Membership}
    (ran : insert_membership store row s = (.ok member, t)) :
    member = row (store.new_id (s.working.memberships.map (·.id))) ∧
      t.working = { s.working with memberships := s.working.memberships ++ [member] } := by
  obtain ⟨inserted, s₁, called, rest⟩ := bind_ok.mp ran
  obtain ⟨same, left, _⟩ := call_ok called
  simp only at same left
  split at same
  · subst same
    cases rest
  · rename_i unique
    rw [if_neg unique] at left
    subst same
    cases rest
    exact ⟨rfl, left⟩

theorem insert_organization_ok {row : Nat → Organization} {organization : Organization}
    (ran : insert_organization store row s = (.ok organization, t)) :
    organization = row (store.new_id (s.working.organizations.map (·.id))) ∧
      t.working = { s.working with organizations := s.working.organizations ++ [organization] } := by
  obtain ⟨inserted, s₁, called, rest⟩ := bind_ok.mp ran
  obtain ⟨same, left, _⟩ := call_ok called
  simp only at same left
  split at same
  · subst same
    cases rest
  · rename_i unique
    rw [if_neg unique] at left
    subst same
    cases rest
    exact ⟨rfl, left⟩

/-- A target is a membership of the actor's organization other than the local one. -/
theorem target_ok {actor : AuthorizationContext} {policy : WorkflowExecutionPolicy} {membership_id : Nat}
    {member : Membership} {user : User} (ran : target store actor policy membership_id s = (.ok (member, user), t)) :
    t.working = s.working ∧ member ∈ s.working.memberships ∧ member.id = membership_id ∧
      member.organization_id = actor.organization_id ∧ member.id ≠ 1 := by
  obtain ⟨found, s₁, looked, rest⟩ := bind_ok.mp ran
  obtain ⟨same, left, _⟩ := read_ok looked
  cases found with
  | none => cases rest
  | some found =>
    cases rest
    obtain ⟨member', listed, later⟩ := Option.bind_eq_some_iff.mp same.symm
    obtain ⟨user', _, last⟩ := Option.bind_eq_some_iff.mp later
    cases last
    have meets := List.find?_some listed
    simp only [decide_eq_true_eq] at meets
    exact ⟨left, List.mem_of_find?_eq_some listed, meets.1, meets.2.1, meets.2.2⟩

theorem update_membership_ok {membership_id : Nat} {f : Membership → Membership}
    (ran : update_membership membership_id f s = (.ok (), t)) :
    t.working = { s.working with memberships := KeyedRows.update Membership.id membership_id f s.working.memberships } := by
  cases ran
  rfl

theorem actor_ok {policy : WorkflowExecutionPolicy} {organization_id user_id membership_id : Nat} {permission : Permission}
    {actor : AuthorizationContext}
    (ran : current_workflow_actor store policy organization_id (some user_id) (some membership_id) permission s = (.ok (some actor), t)) :
    t.working = s.working := by
  simp only [current_workflow_actor] at ran
  split at ran
  · cases ran
  · obtain ⟨found, s₁, looked, rest⟩ := bind_ok.mp ran
    obtain ⟨_, left, _⟩ := read_ok looked
    cases found with
    | none => cases rest
    | some found =>
      obtain ⟨membership, user⟩ := found
      simp only at rest
      split at rest
      · cases rest
        exact left
      · cases rest

/-- An administration that ends has run its body for the actor, and committed it. -/
theorem administration_ok {α : Type} {caller : Caller} {permission : Permission} {body : AuthorizationContext → Tx α} {a : α}
    (ran : administration store u caller permission body s = (.ok a, t)) :
    ∃ actor s₁ s₂, body actor s₁ = (.ok a, s₂) ∧ s₁.working = s.working ∧ t.committed = s₂.working := by
  unfold administration at ran
  split at ran
  · cases ran
  split at ran
  · cases ran
  cases reading : Issuers.canonical_oidc_issuer u caller.policy.issuer with
  | error error => cases error <;> simp only [reading] at ran <;> cases ran
  | ok issuer =>
    simp only [reading] at ran
    split at ran
    · cases ran
    obtain ⟨s₂, administering, committed⟩ := begun_ok (reraise_ok.mp ran)
    obtain ⟨organization, s₃, looked, rest⟩ := bind_ok.mp administering
    obtain ⟨_, left, _⟩ := read_ok looked
    split at rest
    · cases rest
    obtain ⟨found, s₄, resolved, rest⟩ := bind_ok.mp rest
    cases found with
    | none => cases rest
    | some actor =>
      exact ⟨actor, s₄, s₂, rest, (actor_ok resolved).trans left, committed⟩

end Calls

/-! ### What an operation can do -/

/-- The tables an operation that ends leaves. -/
inductive Effect (db : Database) : Database → Prop
  | same {db' : Database} (same : SameRows db db') : Effect db db'
  | provisioned {user : User} {member : Membership} {db' : Database} (fresh_user : user.id ∉ db.users.map (·.id))
      (fresh : member.id ∉ db.memberships.map (·.id)) (plain : member.role ≠ .owner)
      (room : db.memberships.countP (·.organization_id = member.organization_id) < MAX_TEAM_MEMBERS)
      (same : SameRows { db with users := db.users ++ [user], memberships := db.memberships ++ [member] } db') : Effect db db'
  | changed {member : Membership} {role : Role} {status : MemberStatus} {now : Int} {db' : Database}
      (listed : member ∈ db.memberships) (reserved : member.id ≠ 1) (plain : member.role ≠ .owner) (stays : role ≠ .owner)
      (same : SameRows { db with
        memberships := KeyedRows.update Membership.id member.id (Membership.with_access role status) db.memberships
        browser_sessions := revoked member.id now db.browser_sessions } db') : Effect db db'
  | transferred {previous recipient : Membership} {now : Int} {db' : Database}
      (gives : previous ∈ db.memberships) (takes : recipient ∈ db.memberships) (others : recipient.id ≠ previous.id)
      (reserved : previous.id ≠ 1 ∧ recipient.id ≠ 1) (together : recipient.organization_id = previous.organization_id)
      (active : recipient.status = .active)
      (sole : (db.memberships.filter fun m => decide (m.organization_id = previous.organization_id ∧ m.role = .owner)).map (·.id) =
        [previous.id])
      (same : SameRows { db with
        memberships := KeyedRows.update Membership.id recipient.id (Membership.with_role .owner)
          (KeyedRows.update Membership.id previous.id (Membership.with_role .admin) db.memberships)
        browser_sessions := revoked recipient.id now (revoked previous.id now db.browser_sessions) } db') : Effect db db'

section Operations
variable {s t : Session Database} {actor : AuthorizationContext} {policy : WorkflowExecutionPolicy} {result : MemberSnapshot}

theorem provision_effect {subject display_name : Text} {role : Role} (plain : role ≠ .owner)
    (ran : provision store policy subject display_name role actor s = (.ok result, t)) : Effect s.working t.working := by
  obtain ⟨retained, s₁, counted, ran⟩ := bind_ok.mp ran
  obtain ⟨many, same₁, _⟩ := read_ok counted
  split at ran
  · cases ran
  rename_i room
  obtain ⟨known, s₂, looked, ran⟩ := bind_ok.mp ran
  obtain ⟨_, same₂, _⟩ := read_ok looked
  split at ran
  · cases ran
  obtain ⟨user, s₃, inserted, ran⟩ := bind_ok.mp ran
  obtain ⟨user_is, users⟩ := insert_user_ok inserted
  obtain ⟨member, s₄, joined, ran⟩ := bind_ok.mp ran
  obtain ⟨member_is, members⟩ := insert_membership_ok joined
  obtain ⟨_, s₅, recorded, ran⟩ := bind_ok.mp ran
  have events := event_ok recorded
  cases ran
  rw [same₂, same₁] at users user_is
  rw [users] at members member_is
  rw [members] at events
  subst many
  refine @Effect.provisioned _ user member _ ?_ ?_ ?_ ?_ events
  · rw [user_is]
    exact store.new_id_fresh _
  · rw [member_is]
    exact store.new_id_fresh _
  · rw [member_is]
    exact plain
  · rw [member_is]
    exact Nat.lt_of_not_le room

/-- A row that is listed is found by its key. -/
theorem found_by_key {rows : List Membership} {member : Membership} (listed : member ∈ rows) :
    (rows.find? fun row => decide (row.id = member.id)).isSome = true := by
  rw [List.find?_isSome]
  exact ⟨member, listed, by simp⟩

theorem found_after {rows : List Membership} {k id : Nat} {f : Membership → Membership} (keeps : ∀ row, (f row).id = row.id)
    (found : (rows.find? fun row => decide (row.id = id)).isSome = true) :
    ((KeyedRows.update Membership.id k f rows).find? fun row => decide (row.id = id)).isSome = true :=
  (KeyedRows.find_update keeps id).trans found

theorem change_effect {membership_id : Nat} {role : Role} {status : MemberStatus} (stays : role ≠ .owner)
    (ran : change store policy membership_id role status actor s = (.ok result, t)) : Effect s.working t.working := by
  obtain ⟨found, s₁, looked, ran⟩ := bind_ok.mp ran
  obtain ⟨member, user⟩ := found
  obtain ⟨same₁, listed, _, _, reserved⟩ := target_ok looked
  simp only at ran
  split at ran
  · cases ran
  rename_i plain
  split at ran
  · cases ran
    exact .same (same₁ ▸ .refl _)
  obtain ⟨_, s₂, updated, ran⟩ := bind_ok.mp ran
  have left₂ := update_membership_ok updated
  obtain ⟨_, s₃, revoking, ran⟩ := bind_ok.mp ran
  have there : (s₂.working.memberships.find? (·.id = member.id)).isSome = true := by
    rw [left₂, same₁]
    exact found_after (fun _ => rfl) (found_by_key listed)
  have left₃ := revoke_ok there revoking
  obtain ⟨_, s₄, recorded, ran⟩ := bind_ok.mp ran
  have left₄ := event_ok recorded
  cases ran
  have left := left₃.trans left₄
  rw [left₂, same₁] at left
  exact .changed listed reserved plain stays left

theorem transfer_effect {membership_id : Nat} (ran : transfer store policy membership_id actor s = (.ok result, t)) :
    Effect s.working t.working := by
  obtain ⟨owners, s₁, listed, ran⟩ := bind_ok.mp ran
  obtain ⟨owners_are, same₁, _⟩ := read_ok listed
  split at ran
  · cases ran
  rename_i sole
  split at ran
  · cases ran
  rename_i differs
  obtain ⟨found, s₂, looked, ran⟩ := bind_ok.mp ran
  obtain ⟨recipient, recipient_user⟩ := found
  obtain ⟨same₂, takes, recipient_id, recipient_in, recipient_kept⟩ := target_ok looked
  simp only at ran
  split at ran
  · cases ran
  rename_i active
  obtain ⟨found, s₃, looked', ran⟩ := bind_ok.mp ran
  obtain ⟨previous, previous_user⟩ := found
  obtain ⟨same₃, gives, previous_id, previous_in, previous_kept⟩ := target_ok looked'
  simp only at ran
  obtain ⟨_, s₄, lowered, ran⟩ := bind_ok.mp ran
  have left₄ := update_membership_ok lowered
  obtain ⟨_, s₅, raised, ran⟩ := bind_ok.mp ran
  have left₅ := update_membership_ok raised
  obtain ⟨_, s₆, first, ran⟩ := bind_ok.mp ran
  rw [same₃, same₂, same₁] at left₄
  rw [same₂, same₁] at gives
  rw [same₁] at takes
  rw [left₄] at left₅
  have there : ∀ {member : Membership}, member ∈ s.working.memberships →
      (s₅.working.memberships.find? (·.id = member.id)).isSome = true := fun {member} inRows => by
    rw [left₅]
    exact found_after (fun _ => rfl) (found_after (fun _ => rfl) (found_by_key inRows))
  have left₆ := revoke_ok (there gives) first
  obtain ⟨_, s₇, second, ran⟩ := bind_ok.mp ran
  have left₇ := revoke_ok (by rw [left₆.memberships]; exact there takes) second
  obtain ⟨_, s₈, gave, ran⟩ := bind_ok.mp ran
  have left₈ := event_ok gave
  obtain ⟨_, s₉, took, ran⟩ := bind_ok.mp ran
  have left₉ := event_ok took
  cases ran
  have rows := (left₇.trans left₈).trans left₉
  refine @Effect.transferred _ previous recipient store.now _ gives takes ?_
    ⟨previous_kept, recipient_kept⟩ (recipient_in.trans previous_in.symm) ?_ ?_ ⟨?_, ?_, ?_, ?_⟩
  · rw [recipient_id, previous_id]
    exact differs
  · exact not_not.mp fun other => active (Or.inl other)
  · rw [previous_in, previous_id, ← owners_are]
    exact not_not.mp sole
  · rw [rows.organizations, left₆.organizations, left₅]
  · rw [rows.users, left₆.users, left₅]
  · rw [rows.memberships, left₆.memberships, left₅]
  · rw [rows.browser_sessions, left₆.browser_sessions, left₅]

end Operations

/-! ### Nothing is committed by what raises -/

section Atomic
variable {α : Type} (policy : WorkflowExecutionPolicy) (actor : AuthorizationContext)

theorem event_uncommitted (organization_id : Nat) (by_whom : Option AuthorizationContext) (action : String) (membership_id : Nat)
    (reason_code : Text) : Uncommitted (append_security_event store organization_id by_whom action membership_id reason_code) :=
  Uncommitted.ite (.raise _) (.ite (.raise _) (.call _ _))

theorem insert_user_uncommitted (row : Nat → User) : Uncommitted (insert_user store row) := by
  refine (Uncommitted.call _ _).bind fun inserted => ?_
  cases inserted with
  | none => exact .raise _
  | some user => exact .pure _

theorem insert_membership_uncommitted (row : Nat → Membership) : Uncommitted (insert_membership store row) := by
  refine (Uncommitted.call _ _).bind fun inserted => ?_
  cases inserted with
  | none => exact .raise _
  | some member => exact .pure _

theorem insert_organization_uncommitted (row : Nat → Organization) : Uncommitted (insert_organization store row) := by
  refine (Uncommitted.call _ _).bind fun inserted => ?_
  cases inserted with
  | none => exact .raise _
  | some organization => exact .pure _

theorem revoke_uncommitted (membership_id : Nat) : Uncommitted (revoke store actor membership_id) := by
  refine Uncommitted.bind ?_ fun _ => event_uncommitted _ _ _ _ _
  refine (Uncommitted.read _ _).bind fun membership => .ite (.pure _) ?_
  exact (Uncommitted.read _ _).bind fun _ => (Uncommitted.call _ _).bind fun _ => (Uncommitted.read _ _).bind fun _ => .pure _

theorem target_uncommitted (membership_id : Nat) : Uncommitted (target store actor policy membership_id) := by
  refine (Uncommitted.read _ _).bind fun found => ?_
  cases found with
  | none => exact .raise _
  | some found => exact .pure _

theorem provision_uncommitted (subject display_name : Text) (role : Role) :
    Uncommitted (provision store policy subject display_name role actor) := by
  refine (Uncommitted.read _ _).bind fun retained => .ite (.raise _) ?_
  refine (Uncommitted.read _ _).bind fun known => .ite (.raise _) ?_
  refine (insert_user_uncommitted _).bind fun user => (insert_membership_uncommitted _).bind fun member => ?_
  exact (event_uncommitted _ _ _ _ _).bind fun _ => .pure _

theorem change_uncommitted (membership_id : Nat) (role : Role) (status : MemberStatus) :
    Uncommitted (change store policy membership_id role status actor) := by
  refine (target_uncommitted policy actor membership_id).bind fun found => ?_
  refine Uncommitted.ite (.raise _) (.ite (.pure _) ?_)
  refine (Uncommitted.set _).bind fun _ => (revoke_uncommitted actor _).bind fun _ => ?_
  exact (event_uncommitted _ _ _ _ _).bind fun _ => .pure _

theorem transfer_uncommitted (membership_id : Nat) : Uncommitted (transfer store policy membership_id actor) := by
  refine (Uncommitted.read _ _).bind fun owners => .ite (.raise _) (.ite (.raise _) ?_)
  refine (target_uncommitted policy actor membership_id).bind fun found => .ite (.raise _) ?_
  refine (target_uncommitted policy actor actor.membership_id).bind fun previous => ?_
  refine (Uncommitted.set _).bind fun _ => (Uncommitted.set _).bind fun _ => ?_
  refine (revoke_uncommitted actor _).bind fun _ => (revoke_uncommitted actor _).bind fun _ => ?_
  exact (event_uncommitted _ _ _ _ _).bind fun _ => (event_uncommitted _ _ _ _ _).bind fun _ => .pure _

theorem actor_uncommitted (organization_id : Nat) (user_id membership_id : Option Nat) (permission : Permission) :
    Uncommitted (current_workflow_actor store policy organization_id user_id membership_id permission) := by
  unfold current_workflow_actor
  cases user_id with
  | none => exact .pure _
  | some user_id =>
    cases membership_id with
    | none => exact .pure _
    | some membership_id =>
      refine Uncommitted.ite (.pure _) ((Uncommitted.read _ _).bind fun found => ?_)
      cases found with
      | none => exact .pure _
      | some found => exact .pure _

theorem administration_atomic {caller : Caller} {permission : Permission} {body : AuthorizationContext → Tx α}
    (uncommitted : ∀ actor, Uncommitted (body actor)) : Atomic (administration store u caller permission body) := by
  unfold administration
  split
  · exact .raise _
  split
  · exact .raise _
  cases Issuers.canonical_oidc_issuer u caller.policy.issuer with
  | error error => cases error <;> exact .raise _
  | ok issuer =>
    simp only
    split
    · exact .raise _
    refine (Uncommitted.begun ?_).reraise
    refine (Uncommitted.read _ _).bind fun organization => .ite (.raise _) ?_
    refine (actor_uncommitted _ _ _ _ _).bind fun actor => ?_
    cases actor with
    | none => exact .raise _
    | some actor => exact uncommitted actor

end Atomic

/-! ### Calls and runs -/

/-- A call of one of the three operations. -/
inductive Request
  | provision_member (subject display_name role : Text)
  | change_member (membership_id : Nat) (role status : Text)
  | transfer_ownership (membership_id : Nat)

structure Call where
  store : Store
  caller : Caller
  request : Request

def perform (u : Unicode) (call : Call) : Tx MemberSnapshot :=
  match call.request with
  | .provision_member subject display_name role => provision_member call.store u call.caller subject display_name role
  | .change_member membership_id role status => change_member call.store u call.caller membership_id role status
  | .transfer_ownership membership_id => transfer_ownership call.store u call.caller membership_id

/-- A session that is opened on the committed tables. -/
def opened (db : Database) : Session Database := { committed := db, working := db }

/-- What happens to the tables: a call of an operation, or whatever the other
    parts of the server do to the browser sessions meanwhile. -/
inductive Action
  | call (call : Call)
  | sessions (rows : List BrowserSession)

def step (u : Unicode) (db : Database) : Action → Option Database
  | .call call => some (perform u call (opened db)).2.committed
  | .sessions rows => some { db with browser_sessions := rows }

section Perform
variable {s t : Session Database}

theorem text_ok {value read : Text} {maximum : Nat} (ran : text value maximum s = (.ok read, t)) : t = s := by
  unfold text at ran
  split at ran
  · cases ran
  · cases ran
    rfl

theorem role_ok {value : Text} {role : Role} (ran : role_of value s = (.ok role, t)) : role ≠ .owner ∧ t = s := by
  unfold role_of at ran
  cases read : Role.of value with
  | none =>
    rw [read] at ran
    cases ran
  | some role' =>
    rw [read] at ran
    cases role' <;> cases ran <;> exact ⟨by simp, rfl⟩

theorem status_ok {value : Text} {status : MemberStatus} (ran : status_of value s = (.ok status, t)) : t = s := by
  unfold status_of at ran
  split at ran
  · cases ran
    rfl
  · split at ran
    · cases ran
      rfl
    · cases ran

/-- An operation that ends has one of the four effects. -/
theorem perform_effect {call : Call} {result : MemberSnapshot} (ran : perform u call s = (.ok result, t)) :
    Effect s.working t.committed := by
  obtain ⟨store, caller, request⟩ := call
  cases request with
  | provision_member subject display_name role =>
    obtain ⟨subject', s₁, first, ran⟩ := bind_ok.mp ran
    obtain ⟨display_name', s₂, second, ran⟩ := bind_ok.mp ran
    obtain ⟨role', s₃, third, ran⟩ := bind_ok.mp ran
    obtain ⟨plain, same⟩ := role_ok third
    obtain ⟨actor, s₄, s₅, body, before, after⟩ := administration_ok ran
    rw [same, text_ok second, text_ok first] at before
    rw [after, ← before]
    exact provision_effect plain body
  | change_member membership_id role status =>
    obtain ⟨role', s₁, first, ran⟩ := bind_ok.mp ran
    obtain ⟨status', s₂, second, ran⟩ := bind_ok.mp ran
    obtain ⟨plain, same⟩ := role_ok first
    obtain ⟨actor, s₃, s₄, body, before, after⟩ := administration_ok ran
    rw [status_ok second, same] at before
    rw [after, ← before]
    exact change_effect plain body
  | transfer_ownership membership_id =>
    obtain ⟨actor, s₁, s₂, body, before, after⟩ := administration_ok ran
    rw [after, ← before]
    exact transfer_effect body

/-- An operation that raises leaves the committed tables. -/
theorem perform_atomic (call : Call) : Atomic (perform u call) := by
  obtain ⟨store, caller, request⟩ := call
  have reading : ∀ {value : Text} {maximum : Nat}, Uncommitted (text value maximum) := fun {value maximum} =>
    Uncommitted.ite (.raise _) (.pure _)
  have role : ∀ {value : Text}, Uncommitted (role_of value) := fun {value} => by
    unfold role_of
    cases Role.of value with
    | none => exact .raise _
    | some role => cases role <;> first | exact .raise _ | exact .pure _
  have status : ∀ {value : Text}, Uncommitted (status_of value) := fun {value} =>
    Uncommitted.ite (.pure _) (.ite (.pure _) (.raise _))
  cases request with
  | provision_member subject display_name role_text =>
    refine reading.then fun subject => reading.then fun display_name => role.then fun role => ?_
    exact administration_atomic fun actor => provision_uncommitted _ actor _ _ _
  | change_member membership_id role_text status_text =>
    refine role.then fun role => status.then fun status => ?_
    exact administration_atomic fun actor => change_uncommitted _ actor _ _ _
  | transfer_ownership membership_id => exact administration_atomic fun actor => transfer_uncommitted _ actor _

end Perform

/-! ### The invariant -/

/-- The owners of an organization. -/
def owners (organization_id : Nat) (db : Database) : List Membership :=
  db.memberships.filter fun m => decide (m.organization_id = organization_id ∧ m.role = .owner)

/-- The rows of the local operator. -/
def localRows (db : Database) : List Organization × List User × List Membership :=
  (db.organizations.filter fun o => decide (o.id = 1), db.users.filter fun user => decide (user.id = 1),
    db.memberships.filter fun m => decide (m.id = 1))

/-- What holds of the tables at every moment after the bootstrap, which began with `start`. -/
structure Inv (organization_id : Nat) (start db : Database) : Prop where
  keys : (db.memberships.map Membership.id).Nodup
  local_keys : 1 ∈ db.users.map User.id ∧ 1 ∈ db.memberships.map Membership.id
  owner : ∃ m, owners organization_id db = [m] ∧ m.status = .active
  reserved : localRows db = localRows start
  bounded : db.memberships.countP (fun m => decide (m.organization_id = organization_id)) ≤ MAX_TEAM_MEMBERS

/-- A membership whose role or status differs afterwards has no session left open. -/
def ClosesChanged (db db' : Database) : Prop :=
  ∀ m ∈ db.memberships, ∀ m' ∈ db'.memberships, m'.id = m.id → (m'.role, m'.status) ≠ (m.role, m.status) →
    ∀ row ∈ db'.browser_sessions, row.membership_id = m.id → row.revoked_at ≠ none

section Effects
variable {organization_id : Nat} {start db db' : Database}

theorem revoked_closes {membership_id : Nat} {now : Int} {rows : List BrowserSession} :
    ∀ row ∈ revoked membership_id now rows, row.membership_id = membership_id → row.revoked_at ≠ none := by
  intro row listed mine
  obtain ⟨before, _, rfl⟩ := List.mem_map.mp listed
  split at mine
  · rename_i both
    rw [if_pos both]
    simp
  · rename_i other
    rw [if_neg other]
    exact fun still => other ⟨mine, still⟩

/-- A revocation opens no session. -/
theorem revoked_keeps {membership_id other : Nat} {now : Int} {rows : List BrowserSession}
    (closed : ∀ row ∈ rows, row.membership_id = other → row.revoked_at ≠ none) :
    ∀ row ∈ revoked membership_id now rows, row.membership_id = other → row.revoked_at ≠ none := by
  intro row listed mine
  obtain ⟨before, inRows, rfl⟩ := List.mem_map.mp listed
  split at mine
  · rename_i both
    rw [if_pos both]
    simp
  · rename_i same
    rw [if_neg same]
    exact closed before inRows mine

theorem effect_keys (effect : Effect db db') (keys : (db.memberships.map Membership.id).Nodup) :
    (db'.memberships.map Membership.id).Nodup := by
  cases effect with
  | same same => exact same.memberships ▸ keys
  | provisioned fresh_user fresh plain room same =>
    rw [same.memberships, List.map_append, List.map_singleton]
    exact List.nodup_append.mpr ⟨keys, by simp, fun a inRows b inNew => by
      rw [List.mem_singleton.mp inNew]
      exact fun is => fresh (is ▸ inRows)⟩
  | changed listed reserved plain stays same =>
    rw [same.memberships, KeyedRows.update_keys (with_access_id _ _)]
    exact keys
  | transferred gives takes others reserved together active sole same =>
    rw [same.memberships, KeyedRows.update_keys (with_role_id _), KeyedRows.update_keys (with_role_id _)]
    exact keys

theorem effect_local (effect : Effect db db') (local_keys : 1 ∈ db.users.map User.id ∧ 1 ∈ db.memberships.map Membership.id) :
    localRows db' = localRows db ∧ 1 ∈ db'.users.map User.id ∧ 1 ∈ db'.memberships.map Membership.id := by
  have missed : ∀ {k : Nat} {f : Membership → Membership} {rows : List Membership}, k ≠ 1 → (∀ m, (f m).id = m.id) →
      (KeyedRows.update Membership.id k f rows).filter (fun m => decide (m.id = 1)) = rows.filter fun m => decide (m.id = 1) := by
    intro k f rows other keeps
    refine KeyedRows.filter_update fun row _ here => ?_
    simp only [keeps, here, other, decide_false, and_self]
  cases effect with
  | same same => exact ⟨by simp [localRows, same.organizations, same.users, same.memberships],
      same.users ▸ local_keys.1, same.memberships ▸ local_keys.2⟩
  | @provisioned user member _ fresh_user fresh plain room same =>
    have other_user : user.id ≠ 1 := fun is => fresh_user (is ▸ local_keys.1)
    have other : member.id ≠ 1 := fun is => fresh (is ▸ local_keys.2)
    refine ⟨?_, ?_, ?_⟩
    · simp [localRows, same.organizations, same.users, same.memberships, List.filter_append, other_user, other]
    · rw [same.users, List.map_append]
      exact List.mem_append_left _ local_keys.1
    · rw [same.memberships, List.map_append]
      exact List.mem_append_left _ local_keys.2
  | changed listed reserved plain stays same =>
    refine ⟨?_, same.users ▸ local_keys.1, ?_⟩
    · simp only [localRows, same.organizations, same.users, same.memberships]
      rw [missed reserved (with_access_id _ _)]
    · rw [same.memberships, KeyedRows.update_keys (with_access_id _ _)]
      exact local_keys.2
  | transferred gives takes others reserved together active sole same =>
    refine ⟨?_, same.users ▸ local_keys.1, ?_⟩
    · simp only [localRows, same.organizations, same.users, same.memberships]
      rw [missed reserved.2 (with_role_id _), missed reserved.1 (with_role_id _)]
    · rw [same.memberships, KeyedRows.update_keys (with_role_id _), KeyedRows.update_keys (with_role_id _)]
      exact local_keys.2

theorem effect_bounded (effect : Effect db db')
    (bounded : db.memberships.countP (fun m => decide (m.organization_id = organization_id)) ≤ MAX_TEAM_MEMBERS) :
    db'.memberships.countP (fun m => decide (m.organization_id = organization_id)) ≤ MAX_TEAM_MEMBERS := by
  cases effect with
  | same same => exact same.memberships ▸ bounded
  | @provisioned user member _ fresh_user fresh plain room same =>
    rw [same.memberships, List.countP_append, List.countP_singleton]
    split
    · rename_i here
      rw [← of_decide_eq_true here]
      exact room
    · exact bounded
  | changed listed reserved plain stays same =>
    rw [same.memberships, KeyedRows.countP_update fun m => by rw [with_access_organization]]
    exact bounded
  | transferred gives takes others reserved together active sole same =>
    rw [same.memberships, KeyedRows.countP_update fun m => by rw [with_role_organization],
      KeyedRows.countP_update fun m => by rw [with_role_organization]]
    exact bounded

/-- A transfer inside the organization leaves the recipient as its one owner. -/
theorem transfer_owner {previous recipient : Membership} (keys : (db.memberships.map Membership.id).Nodup)
    (takes : recipient ∈ db.memberships) (others : recipient.id ≠ previous.id)
    (together : recipient.organization_id = previous.organization_id)
    (sole : (owners previous.organization_id db).map (·.id) = [previous.id]) :
    (KeyedRows.update Membership.id recipient.id (Membership.with_role .owner)
      (KeyedRows.update Membership.id previous.id (Membership.with_role .admin) db.memberships)).filter
        (fun m => decide (m.organization_id = previous.organization_id ∧ m.role = .owner)) = [recipient.with_role .owner] := by
  rw [KeyedRows.update, KeyedRows.update, List.map_map, List.filter_map]
  have only : db.memberships.filter ((fun m => decide (m.organization_id = previous.organization_id ∧ m.role = .owner)) ∘
      ((fun m => if m.id = recipient.id then m.with_role .owner else m) ∘
        fun m => if m.id = previous.id then m.with_role .admin else m)) =
      db.memberships.filter fun m => decide (m.id = recipient.id) := by
    refine List.filter_congr fun m inRows => ?_
    by_cases taker : m.id = recipient.id
    · have same := KeyedRows.eq_of_key keys inRows takes taker
      subst same
      simp [others, together]
    · by_cases giver : m.id = previous.id
      · simp [giver, Ne.symm others]
      · have plain : ¬(m.organization_id = previous.organization_id ∧ m.role = .owner) := fun owns => giver <| by
          have listed : m.id ∈ (owners previous.organization_id db).map (·.id) :=
            List.mem_map.mpr ⟨m, List.mem_filter.mpr ⟨inRows, decide_eq_true owns⟩, rfl⟩
          rw [sole] at listed
          exact List.mem_singleton.mp listed
        simpa [taker, giver] using plain
  rw [only, KeyedRows.filter_key keys takes]
  simp [others]

theorem effect_owner (effect : Effect db db') (keys : (db.memberships.map Membership.id).Nodup)
    (owner : ∃ m, owners organization_id db = [m] ∧ m.status = .active) :
    ∃ m, owners organization_id db' = [m] ∧ m.status = .active := by
  cases effect with
  | same same => exact (by rw [owners, same.memberships]; exact owner)
  | provisioned fresh_user fresh plain room same =>
    rw [owners, same.memberships, List.filter_append, List.filter_singleton, decide_eq_false fun owns => plain owns.2,
      cond_false, List.append_nil]
    exact owner
  | @changed member role status now _ listed reserved plain stays same =>
    rw [owners, same.memberships, KeyedRows.filter_update]
    · exact owner
    · intro row inRows here
      have is := KeyedRows.eq_of_key keys inRows listed here
      simp [is, plain, stays]
  | @transferred previous recipient now _ gives takes others reserved together active sole same =>
    by_cases inside : previous.organization_id = organization_id
    · subst inside
      rw [owners, same.memberships]
      exact ⟨_, transfer_owner keys takes others together sole, active⟩
    · rw [owners, same.memberships, KeyedRows.filter_update, KeyedRows.filter_update]
      · exact owner
      · intro row inRows here
        have is := KeyedRows.eq_of_key keys inRows gives here
        simp [is, inside]
      · intro row inRows here
        obtain ⟨before, inBefore, same_id, is⟩ := KeyedRows.mem_update (with_role_id _) inRows
        have taker := KeyedRows.eq_of_key keys inBefore takes (same_id.symm.trans here)
        subst taker
        rw [if_neg others] at is
        simp [is, together, inside]

theorem effect_inv (effect : Effect db db') (inv : Inv organization_id start db) : Inv organization_id start db' :=
  have kept := effect_local effect inv.local_keys
  { keys := effect_keys effect inv.keys
    local_keys := kept.2
    owner := effect_owner effect inv.keys inv.owner
    reserved := kept.1.trans inv.reserved
    bounded := effect_bounded effect inv.bounded }

theorem effect_closes (effect : Effect db db') (keys : (db.memberships.map Membership.id).Nodup) : ClosesChanged db db' := by
  intro m listed m' listed' same_id differs
  have unmoved : m' ∈ db.memberships → False := fun inRows => differs (by rw [KeyedRows.eq_of_key keys inRows listed same_id])
  cases effect with
  | same same => exact (unmoved (same.memberships ▸ listed')).elim
  | provisioned fresh_user fresh plain room same =>
    rw [same.memberships] at listed'
    rcases List.mem_append.mp listed' with old | new
    · exact (unmoved old).elim
    · rw [List.mem_singleton.mp new] at same_id
      exact (fresh (List.mem_map.mpr ⟨m, listed, same_id.symm⟩)).elim
  | @changed member role status now _ inRows reserved plain stays same =>
    rw [same.memberships] at listed'
    obtain ⟨before, inBefore, id_before, is⟩ := KeyedRows.mem_update (with_access_id _ _) listed'
    split at is
    · rename_i target
      rw [same.browser_sessions, ← same_id, id_before, target]
      exact revoked_closes
    · exact (unmoved (is ▸ inBefore)).elim
  | @transferred previous recipient now _ gives takes others reserved together active sole same =>
    rw [same.memberships] at listed'
    obtain ⟨middle, inMiddle, id_middle, is⟩ := KeyedRows.mem_update (with_role_id _) listed'
    obtain ⟨before, inBefore, id_before, was⟩ := KeyedRows.mem_update (with_role_id _) inMiddle
    rw [same.browser_sessions]
    split at is
    · rename_i taker
      rw [← same_id, id_middle, taker]
      exact revoked_closes
    · split at was
      · rename_i giver
        rw [← same_id, id_middle, id_before, giver]
        exact revoked_keeps revoked_closes
      · exact (unmoved (is ▸ was ▸ inBefore)).elim

end Effects

/-! ### After the bootstrap -/

/-- What the schema promises of the tables: keys of their own, and memberships
    of organizations that exist. -/
structure Consistent (db : Database) : Prop where
  membership_keys : (db.memberships.map Membership.id).Nodup
  organization_keys : ∀ m ∈ db.memberships, m.organization_id ∈ db.organizations.map Organization.id

section Bootstrap
variable {s t : Session Database} {owner : Owner} {organization : Organization} {user : User} {membership : Membership}

/-- The rows the bootstrap of an owner ends with. -/
structure Owned (db db' : Database) (organization_id : Nat) : Prop where
  local_rows : localRows db' = localRows db
  local_keys : 1 ∈ db'.users.map User.id ∧ 1 ∈ db'.memberships.map Membership.id
  keys : (db'.memberships.map Membership.id).Nodup
  members : ∃ m, db'.memberships.filter (fun m => decide (m.organization_id = organization_id)) = [m] ∧ m.role = .owner ∧
    m.status = .active

theorem intact_keys {db : Database} (whole : intact db = true) :
    1 ∈ db.organizations.map Organization.id ∧ 1 ∈ db.users.map User.id ∧ 1 ∈ db.memberships.map Membership.id := by
  have found : ∀ {α : Type} {key : α → Nat} {rows : List α} {p : α → Bool},
      (rows.find? fun row => decide (key row = 1)).any p = true → 1 ∈ rows.map key := by
    intro α key rows p holds
    cases here : rows.find? fun row => decide (key row = 1) with
    | none => simp [here] at holds
    | some row => exact List.mem_map.mpr ⟨row, List.mem_of_find?_eq_some here, by simpa using List.find?_some here⟩
  simp only [intact, Bool.and_eq_true] at whole
  exact ⟨found whole.1.1, found whole.1.2, found whole.2⟩

theorem accept_owned {found : Option User} {others : Nat} {result : Organization × User × Membership}
    (consistent : Consistent s.working) (whole : intact s.working = true)
    (ran : accept_owner store owner organization found others s = (.ok result, t)) :
    Owned s.working t.working result.1.id := by
  unfold accept_owner at ran
  split at ran
  · cases ran
  split at ran
  · cases ran
  cases found with
  | none => cases ran
  | some user =>
    simp only at ran
    split at ran
    · cases ran
    obtain ⟨membership, s₁, looked, ran⟩ := bind_ok.mp ran
    obtain ⟨_, same₁, _⟩ := read_ok looked
    obtain ⟨members, s₂, listed, ran⟩ := bind_ok.mp ran
    obtain ⟨members_are, same₂, _⟩ := read_ok listed
    cases membership with
    | none => cases ran
    | some membership =>
      simp only at ran
      split at ran
      · cases ran
      rename_i fits
      cases ran
      simp only [not_or, not_not] at fits
      obtain ⟨_, owns, active, _, alone⟩ := fits
      rw [same₁] at same₂ members_are
      rw [same₂]
      exact {
        local_rows := rfl
        local_keys := (intact_keys whole).2
        keys := consistent.membership_keys
        members := ⟨membership, members_are.symm.trans alone, owns, active⟩ }

theorem create_owned {found : Option User} {others : Nat} {result : Organization × User × Membership}
    (consistent : Consistent s.working) (whole : intact s.working = true)
    (ran : create_owner store owner found others s = (.ok result, t)) : Owned s.working t.working result.1.id := by
  obtain ⟨local_organization, local_user, local_membership⟩ := intact_keys whole
  unfold create_owner at ran
  split at ran
  · cases ran
  obtain ⟨organization, s₁, founded, ran⟩ := bind_ok.mp ran
  obtain ⟨organization_is, left₁⟩ := insert_organization_ok founded
  obtain ⟨user, s₂, inserted, ran⟩ := bind_ok.mp ran
  obtain ⟨user_is, left₂⟩ := insert_user_ok inserted
  split at ran
  · cases ran
  rename_i other
  obtain ⟨other_organization, other_user⟩ := not_or.mp other
  obtain ⟨membership, s₃, joined, ran⟩ := bind_ok.mp ran
  obtain ⟨membership_is, left₃⟩ := insert_membership_ok joined
  split at ran
  · cases ran
  rename_i other_membership
  obtain ⟨_, s₄, recorded, ran⟩ := bind_ok.mp ran
  have same := event_ok recorded
  cases ran
  rw [left₁] at left₂
  rw [left₂] at left₃ membership_is
  rw [left₃] at same
  have fresh_organization : organization.id ∉ s.working.organizations.map Organization.id := by
    rw [organization_is]
    exact store.new_id_fresh _
  have fresh : membership.id ∉ s.working.memberships.map Membership.id := by
    rw [membership_is]
    exact store.new_id_fresh _
  have nobody : s.working.memberships.filter (fun m => decide (m.organization_id = organization.id)) = [] := by
    rw [List.filter_eq_nil_iff]
    intro m listed here
    exact fresh_organization (of_decide_eq_true here ▸ consistent.organization_keys m listed)
  refine ⟨?_, ⟨?_, ?_⟩, ?_, membership, ?_, ?_, ?_⟩
  · simp [localRows, same.organizations, same.users, same.memberships, List.filter_append, other_organization, other_user,
      other_membership]
  · rw [same.users, List.map_append]
    exact List.mem_append_left _ local_user
  · rw [same.memberships, List.map_append]
    exact List.mem_append_left _ local_membership
  · rw [same.memberships, List.map_append, List.map_singleton]
    exact List.nodup_append.mpr ⟨consistent.membership_keys, by simp, fun a inRows b inNew => by
      rw [List.mem_singleton.mp inNew]
      exact fun is => fresh (is ▸ inRows)⟩
  · rw [same.memberships, List.filter_append, nobody, membership_is]
    simp
  · rw [membership_is]
  · rw [membership_is]

/-- After a bootstrap the invariant holds for the organization it names. -/
theorem bootstrap_inv {context : AuthorizationContext} {db : Database} (consistent : Consistent db)
    (ran : bootstrap_owner store u owner (opened db) = (.ok context, t)) :
    Inv context.organization_id db t.committed := by
  unfold bootstrap_owner at ran
  cases reading : Issuers.canonical_oidc_issuer u owner.issuer with
  | error error => cases error <;> simp only [reading] at ran <;> cases ran
  | ok issuer =>
    simp only [reading] at ran
    have bounded_ok : ∀ {value read : Text} {field : String} {maximum : Nat} {s t : Session Database},
        bounded value field maximum s = (.ok read, t) → t = s := by
      intro value read field maximum s t done
      unfold bounded at done
      split at done
      · cases done
      · cases done
        rfl
    obtain ⟨subject, s₁, first, ran⟩ := bind_ok.mp ran
    obtain ⟨organization_name, s₂, second, ran⟩ := bind_ok.mp ran
    obtain ⟨display_name, s₃, third, ran⟩ := bind_ok.mp ran
    split at ran
    · cases ran
    have before := (bounded_ok third).trans ((bounded_ok second).trans (bounded_ok first))
    subst before
    obtain ⟨s₄, body, committed⟩ := begun_ok (reraise_ok.mp ran)
    obtain ⟨_, s₅, locked, body⟩ := bind_ok.mp body
    obtain ⟨_, same₅, _⟩ := read_ok locked
    obtain ⟨reserved, s₆, looked, body⟩ := bind_ok.mp body
    obtain ⟨is_reserved, same₆, _⟩ := read_ok looked
    split at body
    · cases body
    rename_i whole
    obtain ⟨organization, s₇, found, body⟩ := bind_ok.mp body
    obtain ⟨_, same₇, _⟩ := read_ok found
    obtain ⟨user, s₈, known, body⟩ := bind_ok.mp body
    obtain ⟨_, same₈, _⟩ := read_ok known
    obtain ⟨others, s₉, counted, body⟩ := bind_ok.mp body
    obtain ⟨_, same₉, _⟩ := read_ok counted
    have unchanged : s₉.working = db := by rw [same₉, same₈, same₇, same₆, same₅]; rfl
    have intact_db : intact db = true := by
      rw [is_reserved, same₅] at whole
      simpa [opened] using whole
    rw [← unchanged] at consistent intact_db
    have owned : ∀ {rows : Organization × User × Membership}, Owned s₉.working s₄.working rows.1.id →
        context.organization_id = rows.1.id → Inv context.organization_id db t.committed := by
      rintro rows ⟨local_rows, local_keys, keys, m, alone, owns, active⟩ named
      rw [committed, named]
      refine ⟨keys, local_keys, ⟨m, ?_, active⟩, unchanged ▸ local_rows, ?_⟩
      · have both : owners rows.1.id s₄.working = ([m] : List Membership).filter fun m => decide (m.role = .owner) := by
          rw [← alone, List.filter_filter, owners]
          exact List.filter_congr fun m _ => by simp [Bool.and_comm]
        rw [both]
        simp [owns]
      · rw [List.countP_eq_length_filter, alone, List.length_singleton, MAX_TEAM_MEMBERS]
        decide
    cases organization with
    | some organization =>
      obtain ⟨rows, s', accepted, done⟩ := bind_ok.mp body
      cases done
      exact owned (accept_owned consistent intact_db accepted) rfl
    | none =>
      obtain ⟨rows, s', created, done⟩ := bind_ok.mp body
      cases done
      exact owned (create_owned consistent intact_db created) rfl

end Bootstrap

/-! ### Every run -/

theorem step_inv {organization_id : Nat} {start db db' : Database} {action : Action} (inv : Inv organization_id start db)
    (stepped : step u db action = some db') : Inv organization_id start db' := by
  cases action with
  | sessions rows =>
    cases stepped
    exact ⟨inv.keys, inv.local_keys, inv.owner, inv.reserved, inv.bounded⟩
  | call call =>
    cases stepped
    rcases ran : perform u call (opened db) with ⟨_ | result, t⟩
    · rw [perform_atomic call _ _ _ ran]
      exact inv
    · exact effect_inv (perform_effect ran) inv

/-- The rules of the team hold after every run from a bootstrap, and each call
    from there is refused without a trace or closes what it changes. -/
theorem team_invariants {owner : Owner} {initial db : Database} {context : AuthorizationContext} {s : Session Database}
    {actions : List Action} (consistent : Consistent initial)
    (bootstrapped : bootstrap_owner store u owner (opened initial) = (.ok context, s))
    (ran : Runs.run (step u) s.committed actions = some db) :
    Inv context.organization_id initial db ∧
      ∀ call result t, perform u call (opened db) = (result, t) →
        ((∃ raised, result = .error raised) → t.committed = db) ∧ ClosesChanged db t.committed := by
  have inv := Runs.invariant_run (Inv context.organization_id initial) (fun _ _ _ held stepped => step_inv held stepped)
    (bootstrap_inv consistent bootstrapped) ran
  refine ⟨inv, fun call result t performed => ?_⟩
  have refused : ∀ raised, result = .error raised → t.committed = db := fun raised is =>
    perform_atomic call _ raised t (is ▸ performed)
  refine ⟨fun ⟨raised, is⟩ => refused raised is, ?_⟩
  cases result with
  | error raised =>
    rw [refused raised rfl]
    exact effect_closes (.same (.refl db)) inv.keys
  | ok result => exact effect_closes (perform_effect performed) inv.keys

/-! ### A team -/

/-- A store without failures, whose keys go up by one. -/
def plainStore : Store where
  new_id ids := ids.foldr max 0 + 1
  new_id_fresh ids member := by
    have bound : ∀ {ids : List Nat} {id : Nat}, id ∈ ids → id ≤ ids.foldr max 0 := by
      intro ids id listed
      induction ids with
      | nil => cases listed
      | cons first rest ih =>
        rcases List.mem_cons.mp listed with rfl | later
        · exact le_max_left _ _
        · exact (ih later).trans (le_max_right _ _)
    exact absurd (bound member) (by omega)

/-- The tables of an installation before its first owner. -/
def localTables : Database where
  organizations := [{ id := 1, slug := "local".toList, name := "Local RedDock".toList }]
  users := [{
    id := 1
    oidc_issuer := "urn:reddock:local".toList
    oidc_subject := "single-operator".toList
    display_name := "Operator".toList
    status := .active }]
  memberships := [{ id := 1, organization_id := 1, user_id := 1, role := .owner, status := .active }]
  browser_sessions := []

def founder : Owner where
  issuer := "https://id.example".toList
  subject := "first".toList
  organization_slug := "team".toList
  organization_name := "Team".toList
  display_name := "First".toList

/-- The membership `id` of the team, held by the user of the same number. -/
def calling (id : Nat) : Caller where
  policy := { mode := .server, issuer := "https://id.example".toList, organization_slug := "team".toList }
  authorization := { organization_id := 2, user_id := id, membership_id := id, role := .owner }

/-- A member joins, takes over, and suspends the founder. -/
def handover : List Action :=
  [.call { store := plainStore, caller := calling 2, request := .provision_member "second".toList "Second".toList "admin".toList },
    .call { store := plainStore, caller := calling 2, request := .transfer_ownership 3 },
    .call { store := plainStore, caller := calling 3, request := .change_member 2 "viewer".toList "disabled".toList }]

theorem localTables_consistent : Consistent localTables := ⟨by decide, by decide⟩

theorem founded : ∃ context s, bootstrap_owner plainStore .plain founder (opened localTables) = (.ok context, s) := by
  have accepted : (bootstrap_owner plainStore .plain founder (opened localTables)).1.toOption.isSome = true := by decide +kernel
  rcases ran : bootstrap_owner plainStore .plain founder (opened localTables) with ⟨_ | context, s⟩
  · rw [ran] at accepted
    cases accepted
  · exact ⟨context, s, rfl⟩

theorem team_invariants_handover : ∃ context s db,
    bootstrap_owner plainStore .plain founder (opened localTables) = (.ok context, s) ∧
      Runs.run (step .plain) s.committed handover = some db ∧ Inv context.organization_id localTables db := by
  obtain ⟨context, s, bootstrapped⟩ := founded
  obtain ⟨db, ran⟩ : ∃ db, Runs.run (step .plain) s.committed handover = some db := ⟨_, rfl⟩
  exact ⟨context, s, db, bootstrapped, ran, (team_invariants localTables_consistent bootstrapped ran).1⟩

example : ((Runs.run (step .plain) (bootstrap_owner plainStore .plain founder (opened localTables)).2.committed handover).map
    fun db => db.memberships.map fun m => (m.id, m.role, m.status)) =
      some [(1, .owner, .active), (2, .viewer, .disabled), (3, .owner, .active)] := by decide +kernel

end RedDock.TeamInvariants
