import RedDock.AuditPages

/-!
# The team that an audit shows

The events of one organization, read through page by page, say what access
each of its members has: what was committed to the tables reaches the reader.
-/
set_option autoImplicit false
namespace RedDock.AuditedTeam
open Text Team
open AuditPages (AuditEvent AuditSnapshot history snapshot of_organization)
open Ledgers (ledger)
open TeamAudit (reads access)

/-- The event that a reader of an organization is shown. -/
def told (organization_id : Nat) (item : AuditSnapshot) : SecurityAuditEvent where
  organization_id := organization_id
  actor_user_id := item.actor_user_id
  actor_membership_id := item.actor_membership_id
  actor_role := item.actor_role
  action := item.action
  outcome := item.outcome
  target_type := item.target_type
  target_id := item.target_id
  reason_code := item.reason_code

variable {u : Unicode} {organization_id : Nat} {log : List AuditEvent}

theorem told_snapshot {row : AuditEvent} (inside : row.organization_id = organization_id) :
    told organization_id (snapshot row) = row.toSecurityAuditEvent := by
  rw [← inside]
  rfl

theorem told_history (organization_id : Nat) (log : List AuditEvent) :
    (history organization_id log).map (told organization_id) =
      (log.map AuditEvent.toSecurityAuditEvent).filter fun event => event.organization_id = organization_id := by
  rw [history, of_organization, List.map_map, List.filter_map]
  refine List.map_congr_left fun row listed => ?_
  exact told_snapshot (of_decide_eq_true (List.mem_filter.mp listed).2)

/-- An event speaks of its own organization. -/
theorem reads_organization {event : SecurityAuditEvent} {key : Nat × Text} {said : TeamAudit.Access} (tells : reads event = some (key, said)) :
    event.organization_id = key.1 := by
  unfold reads at tells
  split at tells
  · obtain ⟨id, _, tells⟩ := Option.bind_eq_some_iff.mp tells
    obtain ⟨reason_code, _, tells⟩ := Option.bind_eq_some_iff.mp tells
    obtain ⟨given, _, tells⟩ := Option.bind_eq_some_iff.mp tells
    cases tells
    rfl
  · cases tells

/-- The events of an organization say of it what the whole log says. -/
theorem ledger_history (organization_id : Nat) (log : List AuditEvent) (id : Text) :
    ledger reads ((history organization_id log).map (told organization_id)) (organization_id, id) =
      ledger reads (log.map AuditEvent.toSecurityAuditEvent) (organization_id, id) := by
  rw [told_history]
  exact Ledgers.ledger_filter fun event _ said tells => decide_eq_true (reads_organization tells)

/-- The events read that were in the log, in the order of their keys. -/
theorem read_history (sorted : (log.map AuditEvent.id).Pairwise (· < ·)) {reading : AuditPages.Reading}
    (inv : AuditPages.Inv organization_id log reading) (finished : reading.walk.finished = true) :
    (reading.walk.items.filter fun item => decide (item ∈ history organization_id log)).reverse = history organization_id log := by
  have rising : (history organization_id log).Pairwise fun one other => one.key < other.key :=
    List.pairwise_map.mpr (((List.pairwise_map.mp sorted).sublist List.filter_sublist).imp Int.ofNat_lt.mpr)
  have read : (reading.walk.items.filter fun item => decide (item ∈ history organization_id log)).reverse.Pairwise
      fun one other => one.key < other.key := List.pairwise_reverse.mpr (inv.walk.falling.sublist List.filter_sublist)
  have : Std.Irrefl fun one other : AuditSnapshot => one.key < other.key := ⟨fun _ => lt_irrefl _⟩
  have : Std.Antisymm fun one other : AuditSnapshot => one.key < other.key := ⟨fun _ _ first second => absurd first second.asymm⟩
  refine read.eq_of_mem_iff rising fun item => ?_
  rw [List.mem_reverse, List.mem_filter, decide_eq_true_eq]
  exact ⟨And.right, fun listed => ⟨inv.walk.complete finished item listed, listed⟩⟩

/-- Take any run of the team, whose events were stored in their order, and any
    reading of an organization that began at its end: once it is finished, the
    events read that were in the log then, from the oldest on, say what access
    each member of the organization had. -/
theorem audit_shows_team {initial db : Database} (fresh : TeamAudit.Fresh initial) {actions : List TeamAudit.Action}
    (ran : Runs.run (TeamAudit.step u) initial actions = some db) (stored : log.map AuditEvent.toSecurityAuditEvent = db.security_events)
    (sorted : (log.map AuditEvent.id).Pairwise (· < ·)) (server : organization_id ≠ 1) :
    Runs.Always (AuditPages.step u organization_id) { tables := db, log := log } fun reading => reading.walk.finished = true →
      ∀ id, ledger reads ((reading.walk.items.filter fun item => decide (item ∈ history organization_id log)).reverse.map
        (told organization_id)) (organization_id, dec id) = access db.memberships organization_id id := by
  have team : TeamAudit.Inv db := Runs.invariant_run TeamAudit.Inv
    (fun _ _ _ inv stepped => (TeamAudit.recorded_inv (TeamAudit.step_recorded stepped) inv).1) (TeamAudit.fresh_inv fresh) ran
  refine Runs.always_of_invariant (AuditPages.Inv organization_id log) (fun _ _ _ inv stepped => AuditPages.inv_step inv stepped)
    ⟨sorted.imp ne_of_lt, Cursors.Walk.inv_start _⟩ fun reading inv finished id => ?_
  rw [read_history sorted inv finished, ledger_history, stored]
  exact team.accounts organization_id id server

/-! ### A succession -/

open TeamInvariants (plainStore localTables calling)
open TeamAudit (succession)

/-- The rows of a log whose keys go up by one. -/
def numbered (events : List SecurityAuditEvent) : List AuditEvent :=
  events.mapIdx fun position event => { event with id := position + 1, request_id := none, created_at := 0 }

/-- The new owner reads the log. -/
def reading_of (db : Database) : Option AuditPages.Reading :=
  Runs.run (AuditPages.step .plain 2) { tables := db, log := numbered db.security_events } [.page plainStore (calling 3) 100]

theorem audit_shows_succession : ∃ db reading, Runs.run (TeamAudit.step .plain) localTables succession = some db ∧
    reading_of db = some reading ∧ ∀ id, ledger reads ((reading.walk.items.filter fun item =>
      decide (item ∈ history 2 (numbered db.security_events))).reverse.map (told 2)) (2, dec id) = access db.memberships 2 id := by
  obtain ⟨db, ran⟩ : ∃ db, Runs.run (TeamAudit.step .plain) localTables succession = some db := ⟨_, rfl⟩
  have stored : (Runs.run (TeamAudit.step .plain) localTables succession).all (fun db => decide
      ((numbered db.security_events).map AuditEvent.toSecurityAuditEvent = db.security_events ∧
        ((numbered db.security_events).map AuditEvent.id).Pairwise (· < ·))) = true := by decide +kernel
  have ended : ((Runs.run (TeamAudit.step .plain) localTables succession).bind reading_of).map (·.walk.finished) = some true := by
    decide +kernel
  rw [ran, Option.bind_some, Option.map_eq_some_iff] at ended
  rw [ran, Option.all_some, decide_eq_true_eq] at stored
  obtain ⟨reading, read, finished⟩ := ended
  exact ⟨db, reading, ran, read,
    audit_shows_team TeamAudit.localTables_fresh ran stored.1 stored.2 (by decide) _ reading read finished⟩

end RedDock.AuditedTeam
