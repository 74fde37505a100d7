import RedDock.Cursors
import RedDock.TeamAudit

/-!
# Reading the audit log

Members who may read the audit log read the security events of their
organization from the newest back, a page at a time, each page in a
transaction of its own. Meanwhile the log grows and the team changes.
-/
set_option autoImplicit false
namespace RedDock.AuditPages
open Text Transactions Team
open Cursors (Walk Shows)
open Sessions (Role)
open TeamAudit (Holds)
open TeamInvariants (opened)

/-! ### The log -/

/-- A row of `security_audit_events`. -/
structure AuditEvent extends SecurityAuditEvent where
  id : Nat
  request_id : Option Text
  created_at : Int
  deriving DecidableEq

/-- An event as it is shown, without its organization; the moment is one of UTC in either. -/
structure AuditSnapshot where
  id : Nat
  actor_user_id : Option Nat
  actor_membership_id : Option Nat
  actor_role : Option Role
  action : Text
  outcome : Text
  target_type : Option Text
  target_id : Option Text
  reason_code : Option Text
  request_id : Option Text
  created_at : Int
  deriving DecidableEq

structure AuditPage where
  items : List AuditSnapshot
  next_before_id : Option Nat
  deriving DecidableEq

def snapshot (row : AuditEvent) : AuditSnapshot where
  id := row.id
  actor_user_id := row.actor_user_id
  actor_membership_id := row.actor_membership_id
  actor_role := row.actor_role
  action := row.action
  outcome := row.outcome
  target_type := row.target_type
  target_id := row.target_id
  reason_code := row.reason_code
  request_id := row.request_id
  created_at := row.created_at

def AuditEvent.key (row : AuditEvent) : Int := row.id
def AuditSnapshot.key (item : AuditSnapshot) : Int := item.id

theorem snapshot_key (row : AuditEvent) : AuditSnapshot.key (snapshot row) = row.key := rfl

def of_organization (organization_id : Nat) (log : List AuditEvent) : List AuditEvent :=
  log.filter fun row => row.organization_id = organization_id

section
variable (store : Store) (log : List AuditEvent)

def list_security_events (organization_id : Nat) (limit : Int) (before_id : Option Int) : Tx (List AuditEvent) :=
  if ¬(1 ≤ limit ∧ limit ≤ 1000) then raise .valueError
  else if before_id.any fun before => decide ¬(1 ≤ before ∧ before ≤ 9223372036854775807) then raise .valueError
  else read store.fails fun _ => (Cursors.behind AuditEvent.key before_id (of_organization organization_id log)).take limit.toNat

def INVALID_WINDOW : Raised := .rejected "Invalid audit window".toList

def as_window (raised : Raised) : Raised := if raised = .valueError then INVALID_WINDOW else raised

/-- The part of `audit_history` that its actor runs. -/
def page (limit : Int) (before_id : Option Int) (actor : AuthorizationContext) : Tx AuditPage := do
  let rows ← reraise as_window (list_security_events store log actor.organization_id (limit + 1) before_id)
  let items := (rows.take limit.toNat).map snapshot
  return { items := items, next_before_id := if limit.toNat < rows.length then items.getLast?.map (·.id) else none }

def audit_history (u : Unicode) (caller : Caller) (limit : Int) (before_id : Option Int) : Tx AuditPage :=
  if ¬(1 ≤ limit ∧ limit ≤ 100) then raise INVALID_WINDOW
  else administration store u caller .audit_read (page store log limit before_id)

end

/-! ### One page -/

section Pages
variable {u : Unicode} {store : Store} {log : List AuditEvent} {s t : Session Database} {caller : Caller} {limit : Int}
  {before_id : Option Int} {found : AuditPage}

/-- The events of an organization, as they are shown. -/
def history (organization_id : Nat) (log : List AuditEvent) : List AuditSnapshot := (of_organization organization_id log).map snapshot

theorem of_organization_unique (keys : (log.map AuditEvent.id).Nodup) (organization_id : Nat) :
    ((of_organization organization_id log).map AuditEvent.key).Nodup := by
  have distinct : ((of_organization organization_id log).map AuditEvent.id).Nodup := keys.sublist (List.filter_sublist.map _)
  rw [show AuditEvent.key = Nat.cast ∘ AuditEvent.id from rfl, ← List.map_map]
  exact distinct.map Nat.cast_injective

theorem list_ok {organization_id : Nat} {rows : List AuditEvent}
    (ran : list_security_events store log organization_id limit before_id s = (.ok rows, t)) :
    rows = (Cursors.behind AuditEvent.key before_id (of_organization organization_id log)).take limit.toNat ∧ t.working = s.working := by
  unfold list_security_events at ran
  split at ran
  · cases ran
  split at ran
  · cases ran
  · exact ⟨(read_ok ran).1, (read_ok ran).2.1⟩

theorem window_uncommitted {organization_id : Nat} :
    Uncommitted (reraise as_window (list_security_events store log organization_id limit before_id)) := by
  have listing : Uncommitted (list_security_events store log organization_id limit before_id) :=
    .ite (.raise _) (.ite (.raise _) (.read _ _))
  intro s
  have kept := listing s
  unfold reraise
  split <;> simp_all only

theorem page_uncommitted (actor : AuthorizationContext) : Uncommitted (page store log limit before_id actor) :=
  window_uncommitted.bind fun _ => .pure _

/-- A reading that raises leaves the tables. -/
theorem audit_history_atomic : Atomic (audit_history store log u caller limit before_id) := by
  unfold audit_history
  split
  · exact (Uncommitted.raise _).atomic
  · exact TeamInvariants.administration_atomic page_uncommitted

theorem page_ok {actor : AuthorizationContext} (positive : 1 ≤ limit) (keys : (log.map AuditEvent.id).Nodup)
    (ran : page store log limit before_id actor s = (.ok found, t)) :
    Shows AuditSnapshot.key (history actor.organization_id log) before_id found.items (found.next_before_id.map Nat.cast) ∧
      t.working = s.working := by
  obtain ⟨rows, s₁, listing, returned⟩ := bind_ok.mp ran
  obtain ⟨is, kept⟩ := list_ok (reraise_ok.mp listing)
  cases returned
  refine ⟨?_, kept⟩
  have shows : Shows AuditEvent.key (of_organization actor.organization_id log) before_id _ _ :=
    Cursors.page_shows (of_organization_unique keys actor.organization_id) (show 0 < limit.toNat by omega)
  rw [← show (limit + 1).toNat = limit.toNat + 1 by omega, ← is] at shows
  have shown := shows.map snapshot_key
  have next : Cursors.following AuditEvent.key limit.toNat rows = (if limit.toNat < rows.length then
      ((rows.take limit.toNat).map snapshot).getLast?.map (·.id) else none).map Nat.cast := by
    unfold Cursors.following
    split
    · rw [List.getLast?_map, Option.map_map, Option.map_map]
      rfl
    · rfl
  rw [next] at shown
  exact shown

/-- A reading that ends shows a page of the organization of its actor, who
    holds the permission, and leaves the tables. -/
theorem audit_history_ok (keys : (log.map AuditEvent.id).Nodup)
    (ran : audit_history store log u caller limit before_id s = (.ok found, t)) :
    ∃ actor, Holds actor .audit_read s.working ∧ actor.organization_id = caller.authorization.organization_id ∧ t.committed = s.working ∧
      Shows AuditSnapshot.key (history actor.organization_id log) before_id found.items (found.next_before_id.map Nat.cast) := by
  unfold audit_history at ran
  split at ran
  · cases ran
  rename_i window
  obtain ⟨actor, s₁, s₂, paged, same, committed, holds, _, inside⟩ := TeamAudit.administration_holds ran
  obtain ⟨shows, kept⟩ := page_ok (not_not.mp window).1 keys paged
  exact ⟨actor, holds, inside, committed.trans (kept.trans same), shows⟩

end Pages

/-! ### Every reading -/

/-- The tables with the log, and what was read of it. -/
structure Reading where
  tables : Database
  log : List AuditEvent
  walk : Walk AuditSnapshot Int := {}

/-- What happens: the other parts of the server change the tables and append
    events with keys of their own, or the next page is asked for. -/
inductive Action
  | others (tables : Database) (appended : List AuditEvent)
  | page (store : Store) (caller : Caller) (limit : Int)

def Reading.after (reading : Reading) (ended : Except Raised AuditPage × Session Database) : Reading :=
  { reading with
    tables := ended.2.committed
    walk := ended.1.toOption.elim reading.walk fun found =>
      reading.walk.turn found.items (found.next_before_id.map Nat.cast) }

/-- The pages that members of one organization read, until one has no next. -/
def step (u : Unicode) (organization_id : Nat) (reading : Reading) : Action → Option Reading
  | .others tables appended =>
    if ((reading.log ++ appended).map AuditEvent.id).Nodup ∧
        tables.security_events = (reading.log ++ appended).map AuditEvent.toSecurityAuditEvent then
      some { reading with tables := tables, log := reading.log ++ appended }
    else none
  | .page store caller limit =>
    if caller.authorization.organization_id = organization_id ∧ reading.walk.finished = false then
      some (reading.after (audit_history store reading.log u caller limit reading.walk.cursor (opened reading.tables)))
    else none

/-- What holds of a reading that began with a log. -/
structure Inv (organization_id : Nat) (log : List AuditEvent) (reading : Reading) : Prop where
  keys : (reading.log.map AuditEvent.id).Nodup
  walk : reading.walk.Inv AuditSnapshot.key (history organization_id log) (history organization_id reading.log)

section Steps
variable {u : Unicode} {organization_id : Nat} {log : List AuditEvent} {reading next : Reading}

theorem history_append (appended : List AuditEvent) :
    history organization_id (log ++ appended) = history organization_id log ++ history organization_id appended := by
  rw [history, of_organization, List.filter_append, List.map_append]
  rfl

/-- A page is read by a member who may, or nothing is read; the tables stay. -/
theorem page_step (inv : Inv organization_id log reading) {store : Store} {caller : Caller} {limit : Int}
    (stepped : step u organization_id reading (.page store caller limit) = some next) :
    next.tables = reading.tables ∧ next.log = reading.log ∧ next.walk.Inv AuditSnapshot.key (history organization_id log) (history organization_id reading.log) ∧
      (next.walk ≠ reading.walk → ∃ actor, Holds actor .audit_read reading.tables ∧ actor.organization_id = organization_id) := by
  simp only [step] at stepped
  split at stepped
  · rename_i allowed
    cases stepped
    rcases ran : audit_history store reading.log u caller limit reading.walk.cursor (opened reading.tables) with ⟨raised | found, t⟩
    · exact ⟨audit_history_atomic _ _ _ ran, rfl, inv.walk, fun changed => absurd rfl changed⟩
    · obtain ⟨actor, holds, inside, kept, shows⟩ := audit_history_ok inv.keys ran
      have here : actor.organization_id = organization_id := inside.trans allowed.1
      rw [here] at shows
      exact ⟨kept, rfl, inv.walk.turn allowed.2 shows, fun _ => ⟨actor, holds, here⟩⟩
  · cases stepped

theorem inv_step {action : Action} (inv : Inv organization_id log reading) (stepped : step u organization_id reading action = some next) :
    Inv organization_id log next := by
  cases action with
  | others tables appended =>
    simp only [step] at stepped
    split at stepped
    · rename_i fresh
      cases stepped
      refine ⟨fresh.1, ?_⟩
      rw [history_append]
      exact inv.walk.grow _
    · cases stepped
  | page store caller limit =>
    obtain ⟨_, log, walk, _⟩ := page_step inv stepped
    exact ⟨log ▸ inv.keys, log ▸ walk⟩

end Steps

/-! ### A log -/

open TeamInvariants (plainStore localTables calling)

/-- A team of its founder alone. -/
def teamTables : Database :=
  { localTables with
    organizations := localTables.organizations ++ [{ id := 2, slug := "team".toList, name := "Team".toList }]
    users := localTables.users ++ [{
      id := 2
      oidc_issuer := "https://id.example".toList
      oidc_subject := "first".toList
      display_name := "First".toList
      status := .active }]
    memberships := localTables.memberships ++ [{ id := 2, organization_id := 2, user_id := 2, role := .owner, status := .active }] }

/-- The founding of the team, and a later event. -/
def recorded (id : Nat) : AuditEvent :=
  { TeamAudit.event 2 none TeamAudit.MEMBERSHIP_CHANGE 2 TeamAudit.BOOTSTRAP with id := id, request_id := none, created_at := 0 }

/-- Two pages of one event each, between which a third one is recorded. -/
def two_pages : List Action :=
  [.page plainStore (calling 2) 1,
    .others { teamTables with security_events := [recorded 4, recorded 7, recorded 9].map AuditEvent.toSecurityAuditEvent } [recorded 9],
    .page plainStore (calling 2) 1]

end RedDock.AuditPages
